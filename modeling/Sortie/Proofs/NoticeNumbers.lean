import Sortie.Proofs.NoticeHistory

set_option autoImplicit false

namespace Sortie.NoticeLog

/-- One change of a log. -/
inductive Change where
  | push (notice : Notice)
  | retire (before : Nat)

def Change.apply (log : NoticeLog) : Change → NoticeLog
  | push notice => log.push notice
  | retire before => log.retire before

/-- A new log after some changes. -/
def run (changes : List Change) : NoticeLog := changes.foldl Change.apply {}

/-- All notices that some changes push, in order. -/
def pushed (changes : List Change) : List Notice :=
  changes.filterMap fun
    | .push notice => some notice
    | .retire _ => none

/-- The numbers that the retirements of some changes reach, if `finish` notices were pushed before
them. None goes beyond what was pushed up to then. -/
def retirements (finish : Nat) : List Change → List Nat
  | [] => []
  | .push _ :: rest => retirements (finish + 1) rest
  | .retire before :: rest => min before finish :: retirements finish rest

/-- The largest number that a retirement reaches. -/
def retired (changes : List Change) : Nat := (retirements 0 changes).foldl max 0

/-- The kept notice of a number. -/
def numbered? (log : NoticeLog) (number : Nat) : Option Notice :=
  if number < log.base then none else log.kept[number - log.base]?

theorem run_concat (changes : List Change) (change : Change) :
    run (changes ++ [change]) = change.apply (run changes) := by
  rw [run, List.foldl_concat, run]

theorem pushed_append (first second : List Change) :
    pushed (first ++ second) = pushed first ++ pushed second :=
  List.filterMap_append

theorem retirements_append (finish : Nat) (first second : List Change) :
    retirements finish (first ++ second) =
      retirements finish first ++ retirements (finish + (pushed first).length) second := by
  induction first generalizing finish with
  | nil => rfl
  | cons change rest ih =>
    cases change with
    | push notice =>
      have counted : finish + 1 + (pushed rest).length =
          finish + (pushed (.push notice :: rest)).length := by
        show _ = finish + ((pushed rest).length + 1)
        omega
      rw [List.cons_append, retirements, ih, counted]
      rfl
    | retire before =>
      rw [List.cons_append, retirements, ih]
      rfl

theorem retired_push (changes : List Change) (notice : Notice) :
    retired (changes ++ [.push notice]) = retired changes := by
  rw [retired, retirements_append, List.foldl_append]
  rfl

theorem retired_retire (changes : List Change) (before : Nat) :
    retired (changes ++ [.retire before]) =
      max (retired changes) (min before (pushed changes).length) := by
  rw [retired, retirements_append, List.foldl_append, Nat.zero_add]
  rfl

theorem base_retire (log : NoticeLog) (before : Nat) :
    (log.retire before).base = max log.base (min before log.finish) := by
  simp only [retire, finish]
  omega

/-- A retirement drops something just if it reaches beyond what was dropped before. -/
theorem retire_eq_self_iff {log : NoticeLog} {before : Nat} :
    log.retire before = log ↔ min before log.finish ≤ log.base := by
  constructor
  · intro same
    have base := congrArg NoticeLog.base same
    rw [base_retire] at base
    omega
  · intro reached
    have none_ : min (before - log.base) log.kept.length = 0 := by
      rw [finish] at reached
      omega
    rw [retire, none_]
    rfl

/-- What is read of a log, from any cursor on. -/
theorem Keeps.since_eq {log : NoticeLog} {total : List Notice} (keeps : log.Keeps total)
    (cursor : Nat) : log.since cursor = total.drop (max cursor log.base) := by
  have place : log.base + (cursor - log.base) = max cursor log.base := by omega
  rw [NoticeLog.since, keeps.kept, List.drop_drop, place]

/-- What a log keeps of some notices, number by number. -/
theorem Keeps.numbered? {log : NoticeLog} {total : List Notice} (keeps : log.Keeps total)
    (number : Nat) : log.numbered? number = if number < log.base then none else total[number]? := by
  rw [NoticeLog.numbered?]
  split
  · rfl
  · rw [keeps.kept, List.getElem?_drop]
    congr 1
    omega

/-- A log keeps the end of what was pushed, from where the retirements have reached. -/
theorem run_keeps (changes : List Change) :
    (run changes).Keeps (pushed changes) ∧ (run changes).base = retired changes := by
  induction changes using List.reverseRecOn with
  | nil => exact ⟨⟨Nat.le_refl 0, rfl⟩, rfl⟩
  | append_singleton changes change ih =>
    obtain ⟨keeps, base⟩ := ih
    rw [run_concat, pushed_append]
    cases change with
    | push notice =>
      have grown := keeps.grows (push_grows (run changes) notice)
      have more : (run changes).more ((run changes).push notice) = [notice] := List.drop_left
      rw [more] at grown
      exact ⟨grown, base.trans (retired_push changes notice).symm⟩
    | retire before =>
      refine ⟨?_, ?_⟩
      · show ((run changes).retire before).Keeps (pushed changes ++ [])
        rw [List.append_nil]
        exact keeps.retire before
      · show ((run changes).retire before).base = _
        rw [base_retire, retired_retire, base, keeps.finish]

/-- What was ever pushed only gets longer. -/
theorem pushed_numbered {changes : List Change} {number : Nat} {notice : Notice}
    (found : (pushed changes)[number]? = some notice) (later : List Change) :
    (pushed (changes ++ later))[number]? = some notice := by
  rw [pushed_append, List.getElem?_append_left (List.getElem?_eq_some_iff.mp found).1]
  exact found

/-- A log refines the history of all notices that were ever pushed to it. The number of the next one
is the length of that history. From any cursor on, be it below the kept notices, among them or
beyond them, what is read is the history from the cursor or from the largest number that a
retirement has reached, whichever is larger. A kept notice has the same number for as long as it is
kept, and it is kept until a retirement reaches beyond that number. A retirement that reaches no
further than those before it changes nothing, and only such a one does; so does not one that repeats
the one before it or has a smaller number. -/
theorem log_refines_history (changes : List Change) :
    let log := run changes
    let history := pushed changes
    log.finish = history.length ∧
    (∀ cursor, log.since cursor = history.drop (max cursor (retired changes))) ∧
    (∀ number notice, log.numbered? number = some notice →
      history[number]? = some notice ∧
      ∀ later, (run (changes ++ later)).numbered? number =
        if number < retired (changes ++ later) then none else some notice) ∧
    (∀ before, log.retire before = log ↔ min before history.length ≤ retired changes) ∧
    ∀ first second, second ≤ first → (log.retire first).retire second = log.retire first := by
  intro log history
  obtain ⟨keeps, base⟩ := run_keeps changes
  refine ⟨keeps.finish, ?_, ?_, ?_, ?_⟩
  · intro cursor
    rw [← base]
    exact keeps.since_eq cursor
  · intro number notice found
    have here : history[number]? = some notice := by
      have kept := (keeps.numbered? number).symm.trans found
      split at kept
      · cases kept
      · exact kept
    refine ⟨here, fun later => ?_⟩
    obtain ⟨longer, reached⟩ := run_keeps (changes ++ later)
    rw [longer.numbered?, reached, pushed_numbered here]
  · intro before
    rw [← base, ← keeps.finish]
    exact retire_eq_self_iff
  · intro first second below
    refine retire_eq_self_iff.mpr ?_
    have finish := (keeps.retire first).finish
    rw [finish, base_retire, keeps.finish]
    omega

/-- Two hits, of which the first is retired, and later another notice. -/
def skirmish : List Change :=
  [.push (.hit 1 (some 0)), .push (.hit 1 none), .retire 1, .push (.targeted 0 1), .retire 0]

/-- The second hit keeps its number until a retirement that is meant to reach beyond the end. -/
theorem skirmish_numbered :
    let log := run skirmish
    log.numbered? 1 = some (.hit 1 none) ∧
      (run (skirmish ++ [.push (.targeted 1 0), .retire 1])).numbered? 1 = some (.hit 1 none) ∧
      (run (skirmish ++ [.retire 10, .push (.targeted 1 0)])).numbered? 1 = none ∧
      2 ≤ 10 ∧ (log.retire 10).retire 2 = log.retire 10 := by
  obtain ⟨_, _, kept, _, repeated⟩ := log_refines_history skirmish
  obtain ⟨_, stays⟩ := kept 1 (.hit 1 none) (by decide)
  exact ⟨by decide, stays [.push (.targeted 1 0), .retire 1],
    stays [.retire 10, .push (.targeted 1 0)], by decide, repeated 10 2 (by decide)⟩

end Sortie.NoticeLog
