import Sortie.Pilot.Pursuit

set_option autoImplicit false

namespace Sortie

/-- Only what has no team is hostile to itself. -/
theorem Spacecraft.isHostileTo_self (craft : Spacecraft) :
    craft.isHostileTo craft = craft.team.isNone := by
  unfold isHostileTo
  cases craft.team with
  | none => rfl
  | some team => exact bne_self_eq_false team

namespace Pursuit

variable {crafts : Array Spacecraft} {craft : Spacecraft} {self index : Nat}

theorem huntable_iff :
    huntable crafts craft index = true ↔ ∃ other, crafts[index]? = some other ∧
      other.isPresent = true ∧ other.isHostileTo craft = true := by
  unfold huntable
  cases crafts[index]? with
  | none => simp only [Bool.false_eq_true, reduceCtorEq, false_and, exists_false]
  | some other => simp only [Bool.and_eq_true, Option.some.injEq, exists_eq_left']

theorem exists_of_huntable (hunted : huntable crafts craft index = true) :
    ∃ target, crafts[index]? = some target :=
  let ⟨target, found, _⟩ := huntable_iff.mp hunted
  ⟨target, found⟩

theorem huntable_self (here : crafts[self]? = some craft) (present : craft.isPresent = true) :
    huntable crafts craft self = craft.team.isNone := by
  rw [huntable, here]
  show (craft.isPresent && craft.isHostileTo craft) = _
  rw [present, Bool.true_and, craft.isHostileTo_self]

/-- The nearest of some spacecraft is one of them. -/
theorem mem_of_nearest? {place : Vec} {indices : List Nat}
    (nearest : nearest? crafts place indices = some index) : index ∈ indices := by
  unfold nearest? at nearest
  dsimp only at nearest
  generalize distances : (indices.filterMap fun index =>
    crafts[index]?.map fun other => (index, other.position.distanceSquared place)) = entries
    at nearest
  have known : ∀ entry ∈ entries, entry.1 ∈ indices := by
    intro entry member
    rw [← distances, List.mem_filterMap] at member
    obtain ⟨known, there, found⟩ := member
    obtain ⟨_, _, rfl⟩ := Option.map_eq_some_iff.mp found
    exact there
  cases entries with
  | nil => cases nearest
  | cons first rest =>
    cases nearest
    -- The best so far is always one of the entries.
    have best : (rest.foldl (fun best entry => if entry.2 < best.2 then entry else best) first) ∈
        first :: rest := by
      refine List.foldlRecOn rest _ List.mem_cons_self fun best held entry member => ?_
      split
      · exact List.mem_cons_of_mem first member
      · exact held
    exact known _ best

/-- The first of the listed targets that may be hunted, if these have priority. -/
def listed? (crafts : Array Spacecraft) (craft : Spacecraft) : Option Nat :=
  if craft.priorityTargets then craft.targetList.find? (huntable crafts craft) else none

/-- The target that the orders of a spacecraft name, if it may be hunted. -/
def ordered? (crafts : Array Spacecraft) (craft : Spacecraft) : Option Nat :=
  (listed? crafts craft).or (craft.target.filter (huntable crafts craft))

/-- The others that may be hunted. -/
def quarry (crafts : Array Spacecraft) (self : Nat) (craft : Spacecraft) : List Nat :=
  (List.range crafts.size).filter fun index => index != self && huntable crafts craft index

/-- Orders come first, then the nearest of the others. -/
theorem pickTarget?_eq (crafts : Array Spacecraft) (self : Nat) (craft : Spacecraft) :
    pickTarget? crafts self craft =
      (ordered? crafts craft).or (nearest? crafts craft.position (quarry crafts self craft)) := rfl

theorem huntable_of_listed? (listed : listed? crafts craft = some index) :
    huntable crafts craft index = true := by
  unfold listed? at listed
  split at listed
  · exact List.find?_some listed
  · cases listed

theorem huntable_of_ordered? (ordered : ordered? crafts craft = some index) :
    huntable crafts craft index = true := by
  rw [ordered?, Option.or_eq_some_iff] at ordered
  rcases ordered with listed | ⟨_, present⟩
  · exact huntable_of_listed? listed
  · exact (Option.filter_eq_some_iff.mp present).2

/-- What the search finds is another one that may be hunted. -/
theorem of_nearest?_quarry {place : Vec}
    (nearest : nearest? crafts place (quarry crafts self craft) = some index) :
    index ≠ self ∧ huntable crafts craft index = true := by
  obtain ⟨_, other⟩ := List.mem_filter.mp (mem_of_nearest? nearest)
  rw [Bool.and_eq_true, bne_iff_ne] at other
  exact other

/-- A target that is picked may be hunted, and so is in the arena. -/
theorem huntable_of_pickTarget? (picked : pickTarget? crafts self craft = some index) :
    huntable crafts craft index = true := by
  rw [pickTarget?_eq, Option.or_eq_some_iff] at picked
  rcases picked with ordered | ⟨_, nearest⟩
  · exact huntable_of_ordered? ordered
  · exact (of_nearest?_quarry nearest).2

theorem pickTarget?_eq_self_iff :
    pickTarget? crafts self craft = some self ↔ ordered? crafts craft = some self := by
  rw [pickTarget?_eq, Option.or_eq_some_iff]
  refine ⟨fun picked => picked.resolve_right ?_, .inl⟩
  rintro ⟨_, nearest⟩
  exact (of_nearest?_quarry nearest).1 rfl

theorem chase_target (pursuit : Pursuit) (craft target : Spacecraft) (index : Nat) :
    (pursuit.chase craft target index).1.target = some index := rfl

/-- Unless it keeps a distance, the pilot aims at the target that it picks. -/
theorem control_target (pursuit : Pursuit) (here : crafts[self]? = some craft)
    (present : craft.isPresent = true) :
    (pursuit.control self crafts).1.target =
      if (anchor? crafts craft).isSome then none else pickTarget? crafts self craft := by
  have asked : crafts[self]?.filter Spacecraft.isPresent = some craft := by
    rw [here, Option.filter_some, if_pos present]
  unfold control
  rw [asked]
  dsimp only
  cases anchor? crafts craft with
  | some order => rfl
  | none =>
    cases picked : pickTarget? crafts self craft with
    | none => rfl
    | some index =>
      obtain ⟨target, found⟩ := exists_of_huntable (huntable_of_pickTarget? picked)
      dsimp only
      rw [found]
      exact pursuit.chase_target craft target index

/-- A spacecraft without a team whose orders name itself: as the first of its listed targets that
may be hunted, if these have priority, or else as its present target. -/
structure Misdirected (crafts : Array Spacecraft) (index : Nat) (craft : Spacecraft) : Prop where
  teamless : craft.team = none
  ordered : listed? crafts craft = some index ∨
    listed? crafts craft = none ∧ craft.target = some index

theorem ordered?_eq_self_iff (here : crafts[self]? = some craft)
    (present : craft.isPresent = true) :
    ordered? crafts craft = some self ↔ Misdirected crafts self craft := by
  have own := huntable_self here present
  constructor
  · intro ordered
    have hunted := huntable_of_ordered? ordered
    rw [own, Option.isNone_iff_eq_none] at hunted
    refine ⟨hunted, ?_⟩
    rw [ordered?, Option.or_eq_some_iff, Option.filter_eq_some_iff] at ordered
    exact ordered.imp_right fun ⟨unlisted, aimed, _⟩ => ⟨unlisted, aimed⟩
  · rintro ⟨teamless, ordered⟩
    rw [teamless, Option.isNone_none] at own
    rw [ordered?, Option.or_eq_some_iff, Option.filter_eq_some_iff]
    exact ordered.imp_right fun ⟨unlisted, aimed⟩ => ⟨unlisted, aimed, own⟩

/-- Every target of the pilot is a spacecraft of the arena that is present and hostile. It is
another one than the spacecraft itself, unless that has no team and its orders name it, and keep it
at no distance. -/
theorem hunts_the_hostile_or_itself (pursuit : Pursuit) (crafts : Array Spacecraft) (self : Nat)
    (craft : Spacecraft) (here : crafts[self]? = some craft) (present : craft.isPresent = true) :
    (∀ target, (pursuit.control self crafts).1.target = some target →
      ∃ other, crafts[target]? = some other ∧ other.isPresent = true ∧
        other.isHostileTo craft = true) ∧
    ((pursuit.control self crafts).1.target = some self ↔
      anchor? crafts craft = none ∧ Misdirected crafts self craft) := by
  rw [pursuit.control_target here present]
  cases anchor? crafts craft with
  | some order => exact ⟨nofun, nofun, nofun⟩
  | none =>
    refine ⟨fun target picked => huntable_iff.mp (huntable_of_pickTarget? picked), ?_⟩
    rw [Option.isSome_none, if_neg Bool.false_ne_true, pickTarget?_eq_self_iff,
      ordered?_eq_self_iff here present]
    exact ⟨fun misdirected => ⟨rfl, misdirected⟩, And.right⟩

/-- An interceptor that was ordered to target a spacecraft. -/
def hunter (team : Option String) (position : Vec) (target : Nat) : Spacecraft :=
  let craft := { Spacecraft.ofClass "hunter" Catalog.interceptor {} with team, position }
  (craft.obey (.target (some target) [] false)).2

/-- On a team, one that was ordered to target itself turns to another one, which is hostile. -/
theorem teammate_spares_itself :
    let member := hunter (some "red") ⟨0, 0, -200⟩ 0
    let crafts := #[member, hunter none .zero 1]
    let target := ((Pursuit.ofSeed 1).control 0 crafts).1.target
    target = some 1 ∧ target ≠ some 0 ∧
      ∃ other, crafts[1]? = some other ∧ other.isHostileTo member = true := by
  intro member crafts target
  have here : crafts[0]? = some member := rfl
  have present : member.isPresent = true := by decide +kernel
  have aimed : target = some 1 := by decide +kernel
  obtain ⟨hostile, itself⟩ := hunts_the_hostile_or_itself (.ofSeed 1) crafts 0 member here present
  refine ⟨aimed, fun own => ?_, ?_⟩
  · have teamless := (itself.mp own).2.teamless
    cases teamless
  · obtain ⟨other, found, _, enemy⟩ := hostile 1 aimed
    exact ⟨other, found, enemy⟩

/-- Without a team, it hunts itself, although there is another one that is hostile. -/
theorem loner_hunts_itself :
    let loner := hunter none .zero 0
    let raider := hunter (some "red") ⟨0, 0, -200⟩ 0
    loner.isPresent = true ∧ raider.isPresent = true ∧ raider.isHostileTo loner = true ∧
      ((Pursuit.ofSeed 1).control 0 #[loner, raider]).1.target = some 0 := by
  decide +kernel

end Pursuit

end Sortie
