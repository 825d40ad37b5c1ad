namespace Sortie

/-- What happened to a spacecraft. -/
inductive Notice where
  /-- `target` was hit, by nobody if the damage came from the surroundings. -/
  | hit (target : Nat) (attacker : Option Nat)
  /-- `target` became the target of `source`. -/
  | targeted (target source : Nat)
  deriving DecidableEq, Repr

/-- The notices that are kept; the first one has the number `base`. They are numbered without gaps;
old ones are dropped, and the numbers of the others stay. -/
structure NoticeLog where
  base : Nat := 0
  kept : List Notice := []

namespace NoticeLog

/-- The number of the next notice. -/
def finish (log : NoticeLog) : Nat := log.base + log.kept.length

def push (log : NoticeLog) (notice : Notice) : NoticeLog :=
  { log with kept := log.kept ++ [notice] }

/-- The kept notices numbered `cursor` or later. -/
def since (log : NoticeLog) (cursor : Nat) : List Notice := log.kept.drop (cursor - log.base)

/-- Drops the notices numbered below `before`. -/
def retire (log : NoticeLog) (before : Nat) : NoticeLog :=
  let count := min (before - log.base) log.kept.length
  ⟨log.base + count, log.kept.drop count⟩

end NoticeLog

end Sortie
