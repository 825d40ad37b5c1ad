import Sortie.Descriptor.Crafts

set_option autoImplicit false

namespace Sortie

/-- Where the seats of a formation are, as seen from its anchor. In a wedge the leader is at the
anchor, and each row behind it has a seat on the left and then one on the right, farther out with
each row; in a line the seats are side by side, in a column one behind the other. -/
inductive Formation.Seats (formation : Formation) : Nat → Vec → Prop
  | leader (wedge : formation.kind = .wedge) : Seats formation 0 .zero
  | left (wedge : formation.kind = .wedge) (row : Nat) : Seats formation (2 * row + 1)
      ⟨-1 * formation.spacing.x * Scalar.ofCount (row + 1),
        formation.spacing.y * Scalar.ofCount (row + 1),
        formation.spacing.z * Scalar.ofCount (row + 1)⟩
  | right (wedge : formation.kind = .wedge) (row : Nat) : Seats formation (2 * row + 2)
      ⟨1 * formation.spacing.x * Scalar.ofCount (row + 1),
        formation.spacing.y * Scalar.ofCount (row + 1),
        formation.spacing.z * Scalar.ofCount (row + 1)⟩
  | abreast (line : formation.kind = .line) (seat : Nat) :
      Seats formation seat ⟨formation.spacing.x * Scalar.ofCount seat, 0, 0⟩
  | behind (column : formation.kind = .column) (seat : Nat) :
      Seats formation seat ⟨0, 0, formation.spacing.z * Scalar.ofCount seat⟩

/-- What a description says once its position is settled: an explicit position is kept, a formation
without one is replaced by the member's seat in it, and all else is said as before. The members of a
squad are numbered from one on; who is in no squad leads. -/
structure CraftDescriptor.Settled (craft settled : CraftDescriptor) : Prop where
  explicit : ∀ place, craft.position = some place → settled.position = some place
  seated : ∀ formation squad, craft.position = none → craft.formation = some formation →
    craft.squad = some squad →
    ∃ place, formation.Seats ((Squad.parse squad).index - 1) place ∧ settled.position = some place
  leading : ∀ formation, craft.position = none → craft.formation = some formation →
    craft.squad = none → ∃ place, formation.Seats 0 place ∧ settled.position = some place
  unplaced : craft.position = none → craft.formation = none → settled.position = none
  kept : settled = { craft with position := settled.position, formation := none }

/-- What an entry for several spacecraft says of the one of an index: each list counts as far as it
reaches, and beyond it what is common to all. -/
structure GroupDescriptor.Describes (group : GroupDescriptor) (index : Nat)
    (member : CraftDescriptor) : Prop where
  named : ∀ name, group.names[index]? = some name → member.name = some name
  nameless : group.names.length ≤ index → member.name = none
  placed : ∀ place, group.positions[index]? = some place → member.position = some place
  formed : ∀ formation, group.positions.length ≤ index → group.formation = some formation →
    ∃ place, formation.Seats index place ∧ member.position = some (group.position + place)
  gathered : group.positions.length ≤ index → group.formation = none →
    member.position = some (group.position + .zero)
  equipped : ∀ loadout, group.loadouts[index]? = some loadout → member.loadout = some loadout
  common : group.loadouts.length ≤ index → member.loadout = group.loadout
  squad : member.squad = group.squad.map fun squad => squad ++ " " ++ toString (index + 1)
  piloted : member.piloted = true ↔ group.pilotedIndex = some index
  team : member.team = group.team
  craftClass : member.craftClass = group.craftClass
  velocity : member.velocity = group.velocity
  away : member.away = group.away
  id : member.id = none
  formation : member.formation = none

namespace CraftEntry

/-- The spacecraft that entries stand for, entry by entry: one for each single entry, and as many as
its count for each other one. -/
inductive StandsFor : List CraftEntry → List CraftDescriptor → Prop
  | nil : StandsFor [] []
  | single {craft settled : CraftDescriptor} {rest : List CraftEntry}
      {others : List CraftDescriptor} (first : craft.Settled settled)
      (following : StandsFor rest others) : StandsFor (.single craft :: rest) (settled :: others)
  | group {group : GroupDescriptor} {members : List CraftDescriptor} {rest : List CraftEntry}
      {others : List CraftDescriptor} (count : members.length = group.count)
      (each : ∀ index member, members[index]? = some member → group.Describes index member)
      (following : StandsFor rest others) : StandsFor (.group group :: rest) (members ++ others)

end CraftEntry

namespace Formation

variable {formation : Formation}

theorem Seats.offset {seat : Nat} {place : Vec} (seats : formation.Seats seat place) :
    formation.offset seat = place := by
  cases seats with
  | leader wedge =>
    rw [Formation.offset, wedge]
    exact if_pos rfl
  | left wedge row =>
    have behind : (2 * row + 1 + 1) / 2 = row + 1 := by omega
    have side : (2 * row + 1) % 2 = 1 := by omega
    rw [Formation.offset, wedge]
    simp only [Nat.add_one_ne_zero, behind, side, if_true, if_false]
  | right wedge row =>
    have behind : (2 * row + 2 + 1) / 2 = row + 1 := by omega
    have side : (2 * row + 2) % 2 ≠ 1 := by omega
    rw [Formation.offset, wedge]
    simp only [Nat.add_one_ne_zero, behind, side, if_false]
  | abreast line => rw [Formation.offset, line]
  | behind column => rw [Formation.offset, column]

theorem exists_seats (formation : Formation) (seat : Nat) :
    ∃ place, formation.Seats seat place := by
  cases kind : formation.kind with
  | wedge =>
    obtain rfl | ⟨row, rfl | rfl⟩ : seat = 0 ∨ ∃ row, seat = 2 * row + 1 ∨ seat = 2 * row + 2 := by
      rcases seat with _ | seat
      · exact .inl rfl
      · exact .inr ⟨seat / 2, by omega⟩
    · exact ⟨_, .leader kind⟩
    · exact ⟨_, .left kind row⟩
    · exact ⟨_, .right kind row⟩
  | line => exact ⟨_, .abreast kind seat⟩
  | column => exact ⟨_, .behind kind seat⟩

/-- Each member stands at its seat, and no two places are the same seat. -/
theorem seats_iff {seat : Nat} {place : Vec} :
    formation.Seats seat place ↔ place = formation.offset seat := by
  constructor
  · intro seats
    exact seats.offset.symm
  · rintro rfl
    obtain ⟨place, seats⟩ := formation.exists_seats seat
    rw [seats.offset]
    exact seats

end Formation

theorem CraftDescriptor.resolve_formation (craft : CraftDescriptor) :
    craft.resolve.formation = none := by
  unfold resolve
  cases shape : craft.formation with
  | none => exact shape
  | some formation => rfl

/-- Resolving touches the position and the formation only. -/
theorem CraftDescriptor.resolve_kept (craft : CraftDescriptor) :
    craft.resolve = { craft with position := craft.resolve.position, formation := none } := by
  rw [← craft.resolve_formation]
  unfold resolve
  cases craft.formation <;> rfl

/-- A formation without a position gives the place of the member in it. -/
theorem CraftDescriptor.resolve_position {craft : CraftDescriptor} {formation : Formation}
    (given : craft.formation = some formation) (unplaced : craft.position = none) :
    craft.resolve.position = some (formation.offset craft.formationIndex) := by
  unfold resolve
  rw [given]
  dsimp only
  rw [unplaced, Option.none_or]

theorem CraftDescriptor.resolve_settled (craft : CraftDescriptor) :
    craft.Settled craft.resolve where
  explicit place given := by
    unfold resolve
    cases craft.formation with
    | none => exact given
    | some formation =>
      dsimp only
      rw [given, Option.some_or]
  seated formation squad unplaced given enlisted := by
    refine ⟨_, Formation.seats_iff.mpr rfl, ?_⟩
    rw [resolve_position given unplaced, formationIndex, enlisted]
  leading formation unplaced given alone := by
    refine ⟨_, Formation.seats_iff.mpr rfl, ?_⟩
    rw [resolve_position given unplaced, formationIndex, alone]
  unplaced unplaced plain := by
    unfold resolve
    rw [plain]
    exact unplaced
  kept := craft.resolve_kept

theorem CraftDescriptor.settled_iff {craft settled : CraftDescriptor} :
    craft.Settled settled ↔ settled = craft.resolve := by
  constructor
  · intro described
    have resolved := craft.resolve_settled
    have position : settled.position = craft.resolve.position := by
      cases given : craft.position with
      | some place => rw [described.explicit place given, resolved.explicit place given]
      | none =>
        cases shape : craft.formation with
        | some formation =>
          rw [resolve_position shape given, formationIndex]
          cases enlisted : craft.squad with
          | some squad =>
            obtain ⟨place, seats, there⟩ := described.seated formation squad given shape enlisted
            rw [there, seats.offset]
          | none =>
            obtain ⟨place, seats, there⟩ := described.leading formation given shape enlisted
            rw [there, seats.offset]
        | none => rw [described.unplaced given shape, resolved.unplaced given shape]
    rw [described.kept, resolved.kept, position]
  · rintro rfl
    exact craft.resolve_settled

/-- A description without a formation is resolved as it stands. -/
theorem CraftDescriptor.resolve_eq_self {craft : CraftDescriptor}
    (plain : craft.formation = none) : craft.resolve = craft := by
  unfold resolve
  rw [plain]

theorem GroupDescriptor.describes_iff {group : GroupDescriptor} {index : Nat}
    {member : CraftDescriptor} : group.Describes index member ↔ member = group.member index := by
  constructor
  · intro described
    have name : member.name = group.names[index]? := by
      cases listed : group.names[index]? with
      | some name => exact described.named name listed
      | none => exact described.nameless (List.getElem?_eq_none_iff.mp listed)
    have position : member.position =
        some (group.positions[index]?.getD (group.position + group.offset index)) := by
      cases listed : group.positions[index]? with
      | some place => exact described.placed place listed
      | none =>
        have beyond := List.getElem?_eq_none_iff.mp listed
        rw [Option.getD_none, GroupDescriptor.offset]
        cases shape : group.formation with
        | some formation =>
          obtain ⟨place, seats, there⟩ := described.formed formation beyond shape
          dsimp only
          rw [there, seats.offset]
        | none => exact described.gathered beyond shape
    have loadout : member.loadout = group.loadouts[index]?.or group.loadout := by
      cases listed : group.loadouts[index]? with
      | some loadout => exact described.equipped loadout listed
      | none => exact described.common (List.getElem?_eq_none_iff.mp listed)
    have piloted : member.piloted = (group.pilotedIndex == some index) := by
      rw [Bool.eq_iff_iff, beq_iff_eq]
      exact described.piloted
    unfold GroupDescriptor.member
    rw [← name, ← position, ← loadout, ← piloted, ← described.squad, ← described.team,
      ← described.craftClass, ← described.velocity, ← described.away, ← described.id,
      ← described.formation]
  · rintro rfl
    refine ⟨fun _ listed => listed, fun beyond => ?_, fun place listed => ?_,
      fun formation beyond shape => ?_, fun beyond shape => ?_, fun loadout listed => ?_,
      fun beyond => ?_, rfl, beq_iff_eq, rfl, rfl, rfl, rfl, rfl, rfl⟩
    · exact List.getElem?_eq_none_iff.mpr beyond
    · simp only [member, listed, Option.getD_some]
    · refine ⟨_, Formation.seats_iff.mpr rfl, ?_⟩
      simp only [member, List.getElem?_eq_none_iff.mpr beyond, Option.getD_none, offset, shape]
    · simp only [member, List.getElem?_eq_none_iff.mpr beyond, Option.getD_none, offset, shape]
    · simp only [member, listed, Option.some_or]
    · simp only [member, List.getElem?_eq_none_iff.mpr beyond, Option.none_or]

namespace CraftEntry

/-- An entry gives both a formation and explicit positions. -/
def GivesBoth : CraftEntry → Prop
  | group descriptor => descriptor.formation.isSome ∧ descriptor.positions ≠ []
  | single craft => craft.formation.isSome ∧ craft.position.isSome

instance : DecidablePred GivesBoth
  | group descriptor => inferInstanceAs (Decidable (_ ∧ descriptor.positions ≠ []))
  | single _ => inferInstanceAs (Decidable (_ ∧ _))

/-- What a report calls an entry by: its squad or else its class, or the label of its one
spacecraft. -/
def called : CraftEntry → String
  | group descriptor => descriptor.squad.getD descriptor.craftClass
  | single craft => craft.label.getD ""

theorem problems_eq (entry : CraftEntry) :
    entry.problems =
      if entry.GivesBoth then [.positionOverridesFormation entry.called] else [] := by
  cases entry with
  | group descriptor =>
    have both : (group descriptor).GivesBoth ↔
        (descriptor.formation.isSome && !descriptor.positions.isEmpty) = true := by
      simp [GivesBoth]
    simp only [problems, both, called]
  | single craft =>
    have both : (single craft).GivesBoth ↔
        (craft.formation.isSome && craft.position.isSome) = true := by
      simp [GivesBoth]
    simp only [problems, both, called]

theorem expand_formation (entry : CraftEntry) :
    ∀ craft ∈ entry.expand, craft.formation = none := by
  intro craft expanded
  cases entry with
  | single described =>
    obtain rfl := List.mem_singleton.mp expanded
    exact described.resolve_formation
  | group descriptor =>
    obtain ⟨index, _, rfl⟩ := List.mem_map.mp expanded
    rfl

theorem expandAll_cons (entry : CraftEntry) (rest : List CraftEntry) :
    expandAll (entry :: rest) = entry.expand ++ expandAll rest :=
  List.flatMap_cons

theorem length_expand_group (group : GroupDescriptor) :
    (CraftEntry.group group).expand.length = group.count := by
  rw [expand, List.length_map, List.length_range]

theorem getElem?_expand_group {group : GroupDescriptor} {index : Nat}
    (inside : index < group.count) :
    (CraftEntry.group group).expand[index]? = some (group.member index) := by
  rw [expand, List.getElem?_map, List.getElem?_range inside]
  rfl

/-- The members of a group are those that its entry describes, in order. -/
theorem eq_expand_group {group : GroupDescriptor} {members : List CraftDescriptor}
    (count : members.length = group.count)
    (each : ∀ index member, members[index]? = some member → group.Describes index member) :
    members = (CraftEntry.group group).expand := by
  have size := length_expand_group group
  refine List.ext_getElem? fun index => ?_
  by_cases inside : index < group.count
  · have there := List.getElem?_eq_getElem (count ▸ inside : index < members.length)
    rw [there, getElem?_expand_group inside]
    exact congrArg some (GroupDescriptor.describes_iff.mp (each index _ there))
  · have beyond := Nat.le_of_not_lt inside
    rw [List.getElem?_eq_none (count ▸ beyond), List.getElem?_eq_none (size ▸ beyond)]

theorem standsFor_iff {entries : List CraftEntry} {crafts : List CraftDescriptor} :
    StandsFor entries crafts ↔ crafts = expandAll entries := by
  constructor
  · intro described
    induction described with
    | nil => rfl
    | single first _ ih =>
      rw [expandAll_cons, expand, ih, CraftDescriptor.settled_iff.mp first]
      rfl
    | group count each _ ih => rw [expandAll_cons, ih, eq_expand_group count each]
  · rintro rfl
    induction entries with
    | nil => exact .nil
    | cons entry rest ih =>
      rw [expandAll_cons]
      cases entry with
      | single craft => exact .single (CraftDescriptor.settled_iff.mpr rfl) ih
      | group descriptor =>
        have size := length_expand_group descriptor
        refine .group size (fun index member found => ?_) ih
        have inside := size ▸ (List.getElem?_eq_some_iff.mp found).1
        rw [getElem?_expand_group inside] at found
        exact GroupDescriptor.describes_iff.mpr (Option.some.inj found).symm

theorem expandAll_formation (entries : List CraftEntry) :
    ∀ craft ∈ expandAll entries, craft.formation = none := by
  intro craft expanded
  obtain ⟨entry, _, own⟩ := List.mem_flatMap.mp expanded
  exact entry.expand_formation craft own

theorem problemsOfAll_eq (entries : List CraftEntry) :
    problemsOfAll entries =
      (entries.filter (·.GivesBoth)).map fun entry => .positionOverridesFormation entry.called := by
  induction entries with
  | nil => rfl
  | cons entry rest ih =>
    rw [problemsOfAll] at ih
    rw [problemsOfAll, List.flatMap_cons, problems_eq, List.filter_cons, ih]
    by_cases both : entry.GivesBoth
    · simp only [both, decide_true, if_true, List.map_cons, List.singleton_append]
    · simp only [both, decide_false, if_false, List.nil_append, Bool.false_eq_true]

section

variable {crafts : List CraftDescriptor} (plain : ∀ craft ∈ crafts, craft.formation = none)

include plain

/-- Descriptions without formations stand for themselves. -/
theorem expandAll_single : expandAll (crafts.map .single) = crafts := by
  induction crafts with
  | nil => rfl
  | cons craft rest ih =>
    have others := ih fun other member => plain other (List.mem_cons_of_mem craft member)
    rw [List.map_cons, expandAll_cons, expand, others,
      CraftDescriptor.resolve_eq_self (plain craft List.mem_cons_self)]
    rfl

theorem problemsOfAll_single : problemsOfAll (crafts.map .single) = [] := by
  rw [problemsOfAll_eq, List.map_eq_nil_iff, List.filter_eq_nil_iff]
  intro entry listed
  obtain ⟨craft, member, rfl⟩ := List.mem_map.mp listed
  simp [GivesBoth, plain craft member]

end

/-- The expanded list is the only one that the entries stand for, in their order; it holds no
formation; each entry that gives both a formation and explicit positions is reported once, in order,
and no other one; and the list stands for itself, without a report. -/
theorem expansion_is_normal_form (entries : List CraftEntry) :
    (∀ crafts, StandsFor entries crafts ↔ crafts = expandAll entries) ∧
      (∀ craft ∈ expandAll entries, craft.formation = none) ∧
      problemsOfAll entries =
        (entries.filter (·.GivesBoth)).map
          (fun entry => .positionOverridesFormation entry.called) ∧
      expandAll ((expandAll entries).map .single) = expandAll entries ∧
      problemsOfAll ((expandAll entries).map .single) = [] :=
  have plain := expandAll_formation entries
  ⟨fun _ => standsFor_iff, plain, problemsOfAll_eq entries, expandAll_single plain,
    problemsOfAll_single plain⟩

/-- A wedge of four around an anchor, a line of three whose first has a position of its own, a
column without an anchor, and the third member of a squad in a wedge. -/
def squadrons : List CraftEntry :=
  [.group { count := 4, craftClass := "interceptor", position := ⟨100, 5, 0⟩, formation := some {} },
    .group
      { count := 3, craftClass := "freighter", squad := some "convoy", positions := [⟨7, 8, 9⟩],
        formation := some { kind := .line, spacing := ⟨20, 1, 1⟩ } },
    .group
      { count := 2, craftClass := "gunship",
        formation := some { kind := .column, spacing := ⟨1, 1, 50⟩ } },
    .single
      { craftClass := "interceptor", squad := some "alpha 3",
        formation := some { spacing := ⟨10, 2, 30⟩ } }]

/-- Where they stand. -/
def squadronPlaces : List Vec :=
  [⟨100, 5, 0⟩, ⟨70, 5, 30⟩, ⟨130, 5, 30⟩, ⟨40, 5, 60⟩, ⟨7, 8, 9⟩, ⟨20, 0, 0⟩, ⟨40, 0, 0⟩, ⟨0, 0, 0⟩,
    ⟨0, 0, 50⟩, ⟨10, 2, 30⟩]

theorem squadrons_take_their_places :
    StandsFor squadrons (expandAll squadrons) ∧ (expandAll squadrons).length = 10 ∧
      (expandAll squadrons).zipWith (fun craft place => craft.position.any place.same)
        squadronPlaces = List.replicate 10 true ∧
      problemsOfAll squadrons = [.positionOverridesFormation "convoy"] := by
  obtain ⟨standing, _, problems, _⟩ := expansion_is_normal_form squadrons
  exact ⟨(standing _).mpr rfl, by decide +kernel, by decide +kernel, problems⟩

end CraftEntry

end Sortie
