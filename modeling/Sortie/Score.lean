import Sortie.Spacecraft.Basic

namespace Sortie

/-- The tiers, best first. -/
inductive Performance where
  | perfect
  | excellent
  | good
  | fair
  | poor
  deriving DecidableEq, Repr

namespace Performance

def name : Performance → String
  | perfect => "perfect"
  | excellent => "excellent"
  | good => "good"
  | fair => "fair"
  | poor => "poor"

/-- Zero for the best tier. -/
def rank : Performance → Nat
  | perfect => 0
  | excellent => 1
  | good => 2
  | fair => 3
  | poor => 4

/-- The tier of a score's ratio to the best that can be reached. -/
def ofRatio (ratio : Scalar) : Performance :=
  if 0.95 ≤ ratio then perfect
  else if 0.75 ≤ ratio then excellent
  else if 0.5 ≤ ratio then good
  else if 0.25 ≤ ratio then fair
  else poor

end Performance

/-- The score of the piloted spacecraft. The bonuses for a good shot and a whole hull count only in
a completed mission. -/
structure Score where
  damage : Scalar
  killBonus : Scalar
  hitRatioBonus : Scalar
  hullBonus : Scalar
  reference : Scalar

namespace Score

/-- What a destroyed hostile is worth. -/
def killWorth : Scalar := 100

/-- The bonus for never missing. -/
def hitRatioWorth : Scalar := 1000

/-- The bonus for a whole hull. -/
def hullWorth : Scalar := 500

def ofStats (stats : CombatStats) (hullIntegrity : Scalar) (completed : Bool)
    (reference : Scalar) : Score where
  damage := stats.damageDealt
  killBonus := Scalar.ofCount stats.kills * killWorth
  hitRatioBonus := if completed then stats.hitRatio * hitRatioWorth else 0
  hullBonus := if completed then hullIntegrity.clampUnit * hullWorth else 0
  reference

def total (score : Score) : Nat :=
  (score.damage + score.killBonus + score.hitRatioBonus + score.hullBonus).roundCount

def performance (score : Score) : Performance :=
  if score.reference ≤ 0 then
    if 0 < score.hitRatioBonus + score.hullBonus then .perfect else .poor
  else .ofRatio (Scalar.ofCount score.total / score.reference)

/-- The best score that can be reached: every hostile destroyed without a miss or a scratch. -/
def referenceOf (crafts : Array Spacecraft) (piloted : Option Nat) : Scalar :=
  match piloted with
  | none => 0
  | some index =>
    match crafts[index]? with
    | none => 0
    | some pilot =>
      let hostile (other : Nat) : Option Spacecraft :=
        (crafts[other]?).filter fun craft =>
          other != index && craft.alive && craft.isHostileTo pilot
      ((List.range crafts.size).filterMap hostile).foldl
        (fun total craft => total + (craft.hull + craft.shield + killWorth))
        (hitRatioWorth + hullWorth)

end Score

end Sortie
