import Mathlib.Data.List.Chain
import Sortie.Proofs.Roster

set_option autoImplicit false

namespace Sortie

namespace JumpWay

/-- The way of the next jump of a spacecraft that is away, or is not. -/
def next (away : Bool) : JumpWay := if away then .inward else .outward

/-- Ways that lead out of the battle space and into it by turns, beginning with `first`. -/
structure ByTurns (first : JumpWay) (ways : List JumpWay) : Prop where
  begins : ∀ way ∈ ways.head?, way = first
  turns : ways.IsChain (· ≠ ·)

theorem ByTurns.cons {away : Bool} {ways : List JumpWay} (turns : ByTurns (next !away) ways) :
    ByTurns (next away) (next away :: ways) := by
  refine ⟨fun way first => (Option.some_inj.mp first).symm, List.isChain_cons.mpr ⟨?_, turns.turns⟩⟩
  intro way second
  rw [turns.begins way second]
  cases away <;> decide

/-- Whether the latest of some jumps led out; `before` if there is none. -/
def ledOut (before : Bool) (ways : List JumpWay) : Bool :=
  (ways.getLast?.map (· == .outward)).getD before

theorem ledOut_cons (before : Bool) (way : JumpWay) (ways : List JumpWay) :
    ledOut before (way :: ways) = ledOut (way == .outward) ways := by
  unfold ledOut
  rw [List.getLast?_cons]
  cases ways.getLast? with
  | none => rfl
  | some later => rfl

theorem ledOut_iff (before : Bool) (ways : List JumpWay) :
    ledOut before ways = true ↔ ways.getLast? = some .outward ∨ ways = [] ∧ before = true := by
  unfold ledOut
  rw [← List.getLast?_eq_none_iff]
  cases ways.getLast? with
  | none => simp
  | some way => cases way <;> simp

end JumpWay

namespace Spacecraft

/-- What happens to a spacecraft in a mission. -/
inductive Act where
  | obey (command : Command)
  | damage (amount : Scalar)
  | steer (intent : Intent) (dt : Scalar)
  | simulate (dt : Scalar)

/-- A spacecraft after an act, and the way of the jump if one completed in it. -/
def Act.apply (craft : Spacecraft) : Act → Option JumpWay × Spacecraft
  | obey command => (none, (craft.obey command).2)
  | damage amount => (none, (craft.damage amount).2)
  | steer intent dt => (none, craft.steer intent dt)
  | simulate dt => craft.simulate dt

/-- A spacecraft after some acts, and the ways of the jumps that completed in them, in order. -/
def undergo (craft : Spacecraft) : List Act → List JumpWay × Spacecraft
  | [] => ([], craft)
  | act :: rest =>
    let (way, craft) := act.apply craft
    let (ways, craft) := craft.undergo rest
    (way.toList ++ ways, craft)

theorem Mild.flies {before after : Spacecraft} (mild : before.Mild after) :
    before.Flies after none :=
  .on mild.isAway mild.departed

/-- Only flight completes jumps. -/
theorem Act.apply_flies (act : Act) (craft : Spacecraft) :
    craft.Flies (act.apply craft).2 (act.apply craft).1 := by
  cases act with
  | obey command => exact (craft.obey_mild command).flies
  | damage amount => exact .on (craft.damage_isAway amount) (craft.damage_departed amount)
  | steer intent dt => exact (craft.steer_mild intent dt).flies
  | simulate dt => exact craft.simulate_flies dt

/-- A jump that completes leads to where the spacecraft was not. -/
theorem Flies.some_cases {before after : Spacecraft} {way : JumpWay}
    (flies : before.Flies after (some way)) :
    way = JumpWay.next before.isAway ∧ after.isAway = !before.isAway ∧
      after.departed = (way == .outward) := by
  cases flies with
  | out here away gone =>
    rw [here, away, gone]
    exact ⟨rfl, rfl, rfl⟩
  | back away here kept =>
    rw [here, away, kept]
    exact ⟨rfl, rfl, rfl⟩

/-- What the jumps that a spacecraft has completed tell of it. -/
structure Tells (before : Spacecraft) (ways : List JumpWay) (after : Spacecraft) : Prop where
  turns : JumpWay.ByTurns (JumpWay.next before.isAway) ways
  isAway : after.isAway = JumpWay.ledOut before.isAway ways
  departed : after.departed = JumpWay.ledOut before.departed ways

theorem Tells.refl (craft : Spacecraft) : craft.Tells [] craft :=
  ⟨⟨nofun, .nil⟩, rfl, rfl⟩

/-- What the acts after a first one tell, with the jump that completed in that one. -/
theorem Tells.step {first second third : Spacecraft} {way : Option JumpWay} {ways : List JumpWay}
    (flies : first.Flies second way) (tells : second.Tells ways third) :
    first.Tells (way.toList ++ ways) third := by
  obtain ⟨turns, away, gone⟩ := tells
  cases way with
  | none =>
    cases flies with
    | on isAway departed =>
      rw [isAway] at turns away
      rw [departed] at gone
      exact ⟨turns, away, gone⟩
  | some way =>
    obtain ⟨rfl, flipped, left⟩ := flies.some_cases
    have standing : second.isAway = (JumpWay.next first.isAway == .outward) := by
      rw [flipped]
      cases first.isAway <;> rfl
    rw [flipped] at turns
    refine ⟨turns.cons, ?_, ?_⟩
    · rw [away, standing]
      exact (JumpWay.ledOut_cons _ _ _).symm
    · rw [gone, left]
      exact (JumpWay.ledOut_cons _ _ _).symm

theorem undergo_tells (craft : Spacecraft) (acts : List Act) :
    craft.Tells (craft.undergo acts).1 (craft.undergo acts).2 := by
  induction acts generalizing craft with
  | nil => exact .refl craft
  | cons act rest ih => exact .step (act.apply_flies craft) (ih (act.apply craft).2)

/-- The jumps that a spacecraft completes lead out and in by turns, first out if it started in the
battle space, and first in if it started away. After any acts, and so after each of them, it has
departed exactly if the latest completed jump led out, which it only has if it is away; and it is
away exactly if that jump led out or, if there is none, it started away. -/
theorem jumps_alternate (craft : Spacecraft) (present : craft.jump = .present)
    (stayed : craft.departed = false) (away : Bool) (acts : List Act) :
    let start := if away then craft.setAway else craft
    let ways := (start.undergo acts).1
    let after := (start.undergo acts).2
    ways.IsChain (· ≠ ·) ∧
    (∀ way ∈ ways.head?, way = if away then .inward else .outward) ∧
    (after.departed = true ↔ ways.getLast? = some .outward) ∧
    (after.departed = true → after.isAway = true) ∧
    (after.isAway = true ↔ ways.getLast? = some .outward ∨ ways = [] ∧ away = true) := by
  intro start ways after
  have begins : start.isAway = away ∧ start.departed = false := by
    cases away with
    | true => exact ⟨rfl, stayed⟩
    | false => exact ⟨by simp only [start, isAway, Bool.false_eq_true, ↓reduceIte, present], stayed⟩
  obtain ⟨turns, isAway, departed⟩ : start.Tells ways after := start.undergo_tells acts
  rw [begins.1] at turns isAway
  rw [begins.2] at departed
  have gone : after.departed = true ↔ ways.getLast? = some .outward := by
    rw [departed, JumpWay.ledOut_iff]
    simp
  have outside := JumpWay.ledOut_iff away ways
  rw [← isAway] at outside
  exact ⟨turns.turns, turns.begins, gone, fun left => outside.mpr (.inl (gone.mp left)), outside⟩

def scout : Spacecraft := ofClass "scout" { name := "scout" } {}

/-- A jump out and one in, with orders on the way that do not count, and then a jump out in which
the spacecraft is destroyed. -/
def voyage : List Act :=
  [.obey (.jump .inward), .obey (.jump .outward), .simulate 1000, .obey (.jump .inward),
    .simulate 500, .obey (.jump .outward), .obey (.jump .inward), .damage 1, .simulate 1000,
    .obey (.jump .outward), .simulate 1000, .damage 1000, .simulate 1000]

/-- The last jump does not complete, so the spacecraft has come back. If it starts away, the first
order counts, and the jumps that complete are one in and one out. -/
theorem voyage_returns :
    scout.jump = .present ∧ scout.departed = false ∧
      (scout.undergo voyage).1 = [.outward, .inward] ∧
      (scout.undergo voyage).2.departed = false ∧ (scout.undergo voyage).2.isAway = false ∧
      (scout.undergo voyage).2.alive = false ∧
      (scout.undergo (voyage.take 5)).2.departed = true ∧
      (scout.setAway.undergo voyage).1 = [.inward, .outward] ∧
      (scout.setAway.undergo voyage).2.isAway = true := by
  have ways : (scout.undergo voyage).1 = [.outward, .inward] := by decide +kernel
  have early : (scout.undergo (voyage.take 5)).1 = [.outward] := by decide +kernel
  have back : (scout.setAway.undergo voyage).1 = [.inward, .outward] := by decide +kernel
  obtain ⟨_, _, departed, _, away⟩ := jumps_alternate scout rfl rfl false voyage
  obtain ⟨_, _, left, _⟩ := jumps_alternate scout rfl rfl false (voyage.take 5)
  obtain ⟨_, _, _, _, outside⟩ := jumps_alternate scout rfl rfl true voyage
  simp only [Bool.false_eq_true, if_false, ways] at departed away
  simp only [Bool.false_eq_true, if_false, early] at left
  simp only [if_true, back] at outside
  refine ⟨rfl, rfl, ways, ?_, ?_, by decide +kernel, left.mpr rfl, back,
    outside.mpr (.inl rfl)⟩
  · exact Bool.eq_false_iff.mpr fun gone => absurd (departed.mp gone) (by decide)
  · exact Bool.eq_false_iff.mpr fun gone => absurd (away.mp gone) (by decide)

end Spacecraft

end Sortie
