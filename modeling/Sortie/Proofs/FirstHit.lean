import Sortie.Proofs.OctreeReach
import Sortie.World.Impact

set_option autoImplicit false

namespace Sortie

namespace Targets

/-- The box of a shot is in order wherever its sides are numbers. -/
theorem sweptBox_ordered {segment : Segment} {reach : Scalar} (nonneg : 0 ≤ reach)
    (low : (sweptBox segment reach).low.Comparable)
    (high : (sweptBox segment reach).high.Comparable) : (sweptBox segment reach).Ordered :=
  Box.below_iff.mpr
    ⟨Scalar.sub_le_add Scalar.smaller_le_larger nonneg low.x high.x,
      Scalar.sub_le_add Scalar.smaller_le_larger nonneg low.y high.y,
      Scalar.sub_le_add Scalar.smaller_le_larger nonneg low.z high.z⟩

theorem sweptBox_ordered_of_overlaps {segment : Segment} {reach : Scalar} (nonneg : 0 ≤ reach)
    {box : Box} (touch : box.overlaps (sweptBox segment reach) = true) :
    (sweptBox segment reach).Ordered := by
  obtain ⟨under, above⟩ := Box.overlaps_iff.mp touch
  exact sweptBox_ordered nonneg (Box.comparable_of_below above).1 (Box.comparable_of_below under).2

/-- The nearer of what was hit so far and another hit. The first of equals counts. -/
def closer : Option (Nat × Scalar) → Option (Nat × Scalar) → Option (Nat × Scalar)
  | nearest, none => nearest
  | none, some hit => some hit
  | some best, some hit => if hit.2 < best.2 then some hit else some best

/-- What is nearest among some hits: nothing if there is none, or else one of them which none of
them comes before. -/
def Least (hits : List (Option (Nat × Scalar))) : Option (Nat × Scalar) → Prop
  | none => ∀ hit ∈ hits, hit = none
  | some best => some best ∈ hits ∧ ∀ hit, some hit ∈ hits → ¬ hit.2 < best.2

theorem Least.closer {hits : List (Option (Nat × Scalar))} {nearest : Option (Nat × Scalar)}
    (least : Least hits nearest) (hit : Option (Nat × Scalar)) :
    Least (hits ++ [hit]) (closer nearest hit) := by
  -- Whatever the earlier hits and the new one do not come before, none of all comes before.
  have none_before (best : Nat × Scalar)
      (old : ∀ other, some other ∈ hits → ¬ other.2 < best.2)
      (new : ∀ other, hit = some other → ¬ other.2 < best.2) :
      ∀ other, some other ∈ hits ++ [hit] → ¬ other.2 < best.2 := by
    intro other member
    rcases List.mem_append.mp member with before | last
    · exact old other before
    · exact new other (List.mem_singleton.mp last).symm
  have itself (hit : Nat × Scalar) : ∀ other, some hit = some other → ¬ other.2 < hit.2 := by
    rintro other ⟨⟩
    exact Scalar.lt_irrefl hit.2
  cases nearest with
  | none =>
    cases hit with
    | none =>
      intro other member
      rcases List.mem_append.mp member with before | last
      · exact least other before
      · exact List.mem_singleton.mp last
    | some hit =>
      refine ⟨List.mem_append_right _ (List.mem_singleton_self _), none_before hit ?_ (itself hit)⟩
      intro other before
      cases least _ before
  | some best =>
    cases hit with
    | none => exact ⟨List.mem_append_left _ least.1, none_before best least.2 nofun⟩
    | some hit =>
      by_cases less : hit.2 < best.2
      · rw [Targets.closer, if_pos less]
        refine ⟨List.mem_append_right _ (List.mem_singleton_self _),
          none_before hit ?_ (itself hit)⟩
        exact fun other before earlier => least.2 other before (Scalar.lt_trans earlier less)
      · rw [Targets.closer, if_neg less]
        refine ⟨List.mem_append_left _ least.1, none_before best least.2 ?_⟩
        rintro other ⟨⟩
        exact less

theorem Least.foldl_closer {before : List (Option (Nat × Scalar))} {start : Option (Nat × Scalar)}
    (least : Least before start) (hits : List (Option (Nat × Scalar))) :
    Least (before ++ hits) (hits.foldl Targets.closer start) := by
  induction hits generalizing before start with
  | nil =>
    rw [List.append_nil]
    exact least
  | cons hit rest ih =>
    have longer := ih (least.closer hit)
    rwa [List.append_assoc] at longer

section

variable (entries : List (Nat × Ball)) (segment : Segment) (reach : Scalar) (shooter : Nat)

/-- The spacecraft of a slot and where on its way a shot enters its sphere, unless it is the
shooter. -/
def hit? (slot : Nat) : Option (Nat × Scalar) :=
  entries[slot]?.bind fun entry =>
    if entry.1 = shooter then none
    else (segment.impact? entry.2.position (entry.2.radius + reach)).map fun part => (entry.1, part)

theorem nearer_eq (depth capacity : Nat) (nearest : Option (Nat × Scalar)) (slot : Nat) :
    (ofBalls entries depth capacity).nearer segment reach shooter nearest slot =
      closer nearest (hit? entries segment reach shooter slot) := by
  have owner : (ofBalls entries depth capacity).owners[slot]? = entries[slot]?.map Prod.fst := by
    simp [ofBalls]
  have ball : (ofBalls entries depth capacity).tree.balls[slot]? =
      entries[slot]?.map Prod.snd := by
    simp [ofBalls, Octree.build]
  unfold nearer impact? hit?
  rw [owner, ball]
  cases entries[slot]? with
  | none => cases nearest <;> rfl
  | some entry =>
    simp only [Option.map_some, Option.bind_some]
    by_cases own : entry.1 = shooter
    · rw [if_pos own, if_pos own]
      cases nearest <;> rfl
    · rw [if_neg own, if_neg own]
      cases segment.impact? entry.2.position (entry.2.radius + reach) with
      | none => cases nearest <;> rfl
      | some part => cases nearest <;> rfl

/-- A search yields what is nearest among the slots that it is offered. -/
theorem firstHit?_least (depth capacity : Nat) :
    let targets := ofBalls entries depth capacity
    Least ((targets.tree.order (sweptBox segment reach)).map (hit? entries segment reach shooter))
      (targets.firstHit? segment reach shooter) := by
  intro targets
  have folded : targets.firstHit? segment reach shooter =
      ((targets.tree.order (sweptBox segment reach)).map
        (hit? entries segment reach shooter)).foldl closer none := by
    have step := funext fun nearest => funext fun slot =>
      nearer_eq entries segment reach shooter depth capacity nearest slot
    rw [firstHit?, Octree.visit_eq_each, Visit.each_always, Visit.state, List.foldl_map, ← step]
  have none_ : Least [] none := fun hit member => absurd member List.not_mem_nil
  rw [folded]
  exact none_.foldl_closer _

/-- The sphere of a slot has a box that meets the box of a shot. -/
def Meets (slot : Nat) : Prop :=
  ∃ entry, entries[slot]? = some entry ∧ entry.2.box.overlaps (sweptBox segment reach) = true

instance (slot : Nat) : Decidable (Meets entries segment reach slot) :=
  decidable_of_iff (entries[slot]?.any fun entry =>
    entry.2.box.overlaps (sweptBox segment reach)) <| by
      rw [Meets]
      cases entries[slot]? <;> simp

end

variable {entries : List (Nat × Ball)} {segment : Segment} {reach : Scalar}

/-- A search is offered every slot whose box meets the box of the shot. -/
theorem Meets.mem_order (small : entries.length < UInt64.size)
    (solid : ∀ entry ∈ entries, entry.2.Solid) (nonneg : 0 ≤ reach) {slot : Nat}
    (meets : Meets entries segment reach slot) (depth capacity : Nat) :
    slot ∈ (ofBalls entries depth capacity).tree.order (sweptBox segment reach) := by
  obtain ⟨entry, there, touch⟩ := meets
  have place : (entries.map Prod.snd).toArray[slot]? = some entry.2 := by simp [there]
  refine Octree.mem_order_of_overlaps ?_ ?_ depth capacity
    (sweptBox_ordered_of_overlaps nonneg touch) place touch
  · simpa using small
  · intro ball member
    obtain ⟨entry, listed, rfl⟩ := List.mem_map.mp (List.mem_toArray.mp member)
    exact solid entry listed

/-- Whatever the depth and the capacity of the index, a search finds nothing if no sphere is
entered. What it finds is entered, and no sphere whose box meets the box of the shot is entered
earlier; if it finds nothing, none of these is entered at all. So a sphere that is entered before
all others and whose box meets that of the shot is found in every index. -/
theorem first_hit_in_every_index (entries : List (Nat × Ball))
    (small : entries.length < UInt64.size) (solid : ∀ entry ∈ entries, entry.2.Solid)
    (segment : Segment) (reach : Scalar) (nonneg : 0 ≤ reach) (shooter depth capacity : Nat) :
    let found := (ofBalls entries depth capacity).firstHit? segment reach shooter
    let hit := hit? entries segment reach shooter
    let meets := Meets entries segment reach
    ((∀ slot, hit slot = none) → found = none) ∧
    (∀ best, found = some best → (∃ slot, hit slot = some best) ∧
      ∀ slot other, meets slot → hit slot = some other → ¬ other.2 < best.2) ∧
    (found = none → ∀ slot, meets slot → hit slot = none) ∧
    ∀ slot best, meets slot → hit slot = some best →
      (∀ other later, other ≠ slot → hit other = some later → best.2 < later.2) →
        found = some best := by
  intro found hit meets
  have least : Least (((ofBalls entries depth capacity).tree.order
      (sweptBox segment reach)).map hit) found :=
    firstHit?_least entries segment reach shooter depth capacity
  have offered {slot : Nat} (near : meets slot) :
      hit slot ∈ ((ofBalls entries depth capacity).tree.order (sweptBox segment reach)).map hit :=
    List.mem_map_of_mem (near.mem_order small solid nonneg depth capacity)
  generalize found = answer at least
  cases answer with
  | none =>
    refine ⟨fun _ => rfl, nofun, fun _ slot near => least _ (offered near), ?_⟩
    intro slot best near struck _
    have missed := least _ (offered near)
    rw [struck] at missed
    cases missed
  | some best =>
    obtain ⟨slot, _, struck⟩ := List.mem_map.mp least.1
    refine ⟨?_, ?_, nofun, ?_⟩
    · intro missed
      rw [missed slot] at struck
      cases struck
    · rintro _ ⟨⟩
      refine ⟨⟨slot, struck⟩, fun other hit near there => least.2 hit ?_⟩
      rw [← there]
      exact offered near
    · intro first earliest near there others
      by_cases same : slot = first
      · rw [← there, ← same, struck]
      · have member := offered near
        rw [there] at member
        exact absurd (others slot best same struck) (least.2 earliest member)

/-- Three spheres, two of them one behind the other. -/
def file : List (Nat × Ball) :=
  [(1, ⟨⟨0, 0, -10⟩, 1⟩), (2, ⟨⟨0, 0, -5⟩, 1⟩), (3, ⟨⟨50, 50, 50⟩, 1⟩)]

/-- The one in front is found in a flat index and in a split one. -/
theorem first_hit_in_two_indices :
    let shot : Segment := ⟨⟨0, 0, 0⟩, ⟨0, 0, -20⟩⟩
    file.length < UInt64.size ∧ (∀ entry ∈ file, entry.2.Solid) ∧ (0 : Scalar) ≤ 0.5 ∧
      (ofBalls file 0 4).tree.leafCount < (ofBalls file 3 1).tree.leafCount ∧
      ∃ best : Nat × Scalar, best.1 = 2 ∧
        (ofBalls file 0 4).firstHit? shot 0.5 0 = some best ∧
        (ofBalls file 3 1).firstHit? shot 0.5 0 = some best := by
  intro shot
  obtain ⟨small, solid, nonneg, split⟩ : file.length < UInt64.size ∧
      (∀ entry ∈ file, entry.2.Solid) ∧ (0 : Scalar) ≤ 0.5 ∧
      (ofBalls file 0 4).tree.leafCount < (ofBalls file 3 1).tree.leafCount := by decide +kernel
  obtain ⟨best, struck⟩ : ∃ best, hit? file shot 0.5 0 1 = some best :=
    Option.isSome_iff_exists.mp (by decide +kernel)
  have owner : (hit? file shot 0.5 0 1).any (·.1 == 2) = true := by decide +kernel
  have meets : Meets file shot 0.5 1 := by decide +kernel
  have behind : (hit? file shot 0.5 0 1).all (fun best =>
      (hit? file shot 0.5 0 0).all fun later => best.2 < later.2) = true := by decide +kernel
  have aside : hit? file shot 0.5 0 2 = none := by decide +kernel
  rw [struck] at owner behind
  have others (other : Nat) (later : Nat × Scalar) (differs : other ≠ 1)
      (entered : hit? file shot 0.5 0 other = some later) : best.2 < later.2 := by
    match other with
    | 0 =>
      rw [entered] at behind
      exact of_decide_eq_true behind
    | 1 => exact absurd rfl differs
    | 2 =>
      rw [aside] at entered
      cases entered
    | beyond + 3 => cases entered
  have every (depth capacity : Nat) :=
    (first_hit_in_every_index file small solid shot 0.5 nonneg 0 depth capacity).2.2.2 1 best
      meets struck others
  exact ⟨small, solid, nonneg, split, best, eq_of_beq owner, every 0 4, every 3 1⟩

/-- Spheres that are entered at the same moment: the depth of the index decides which one is found.
And a sphere that is entered only as the distance is rounded, beyond the box of the shot: the depth
decides whether it is found. -/
theorem depth_decides_between_equals :
    let twins : List (Nat × Ball) := [(1, ⟨⟨1, 0, 0⟩, 1⟩), (2, ⟨⟨-1, 0, 0⟩, 1⟩)]
    let shot : Segment := ⟨⟨0, 0, 0⟩, ⟨-1, -1, -1⟩⟩
    let hair : Scalar := Float32.ofBits 0x33800000
    let pair : List (Nat × Ball) := [(1, ⟨⟨-1, 0, 0⟩, 1⟩), (2, ⟨⟨1 + Scalar.epsilon, 100, 0⟩, 1⟩)]
    let graze : Segment := ⟨⟨hair, 0, 0⟩, ⟨1, 0, 0⟩⟩
    ((∀ entry ∈ twins, entry.2.Solid) ∧ (twins.map Prod.fst).Nodup ∧
      (ofBalls twins 0 1).firstHit? shot 0 0 = some (1, 0) ∧
      (ofBalls twins 1 1).firstHit? shot 0 0 = some (2, 0)) ∧
    (∀ entry ∈ pair, entry.2.Solid) ∧ (pair.map Prod.fst).Nodup ∧
      (ofBalls pair 0 1).firstHit? graze 0 0 = some (1, 0) ∧
      (ofBalls pair 1 1).firstHit? graze 0 0 = none := by
  decide +kernel

/-- A shot enters the sphere of a spacecraft at a part of its way. What the shooter's own sphere
does to it does not count. -/
def Strikes (segment : Segment) (reach : Scalar) (shooter : Nat) (entry : Nat × Ball)
    (part : Scalar) : Prop :=
  entry.1 ≠ shooter ∧ segment.impact? entry.2.position (entry.2.radius + reach) = some part

theorem hit?_eq_some_iff {shooter slot : Nat} {best : Nat × Scalar} :
    hit? entries segment reach shooter slot = some best ↔
      ∃ entry, entries[slot]? = some entry ∧ entry.1 = best.1 ∧
        Strikes segment reach shooter entry best.2 := by
  unfold hit? Strikes
  cases entries[slot]? with
  | none => simp only [Option.bind_none, reduceCtorEq, false_and, exists_false]
  | some entry =>
    rw [Option.bind_some]
    simp only [Option.some.injEq, exists_eq_left']
    split
    · rename_i own
      exact ⟨nofun, fun struck => absurd own struck.2.1⟩
    · rename_i other
      rw [Option.map_eq_some_iff]
      constructor
      · rintro ⟨part, entered, rfl⟩
        exact ⟨rfl, other, entered⟩
      · rintro ⟨owner, _, entered⟩
        exact ⟨best.2, entered, Prod.ext owner rfl⟩

/-- Where a sphere is entered is a part of the way. -/
theorem impact?_between {center : Vec} {radius part : Scalar}
    (entered : segment.impact? center radius = some part) : 0 ≤ part ∧ part ≤ 1 := by
  unfold Segment.impact? at entered
  dsimp only at entered
  split at entered
  · cases entered
    decide
  · -- What is no part of the way is refused by the last test.
    repeat' split at entered
    all_goals cases entered
    assumption

/-- If every sphere that a shot enters has a box that meets the box of the shot, a search finds
nothing only if no sphere is entered. Otherwise it finds a spacecraft other than the shooter and the
part of the way at which its sphere is entered, and none of all spheres is entered earlier. -/
theorem first_hit_is_nearest_of_all (entries : List (Nat × Ball))
    (small : entries.length < UInt64.size) (solid : ∀ entry ∈ entries, entry.2.Solid)
    (segment : Segment) (reach : Scalar) (nonneg : 0 ≤ reach) (shooter depth capacity : Nat)
    (boxed : ∀ entry ∈ entries, ∀ part, Strikes segment reach shooter entry part →
      entry.2.box.overlaps (sweptBox segment reach) = true) :
    let found := (ofBalls entries depth capacity).firstHit? segment reach shooter
    (found = none ↔ ∀ entry ∈ entries, ∀ part, ¬ Strikes segment reach shooter entry part) ∧
    ∀ craft part, found = some (craft, part) →
      (∃ entry ∈ entries, entry.1 = craft ∧ Strikes segment reach shooter entry part) ∧
      (0 ≤ part ∧ part ≤ 1) ∧
      ∀ entry ∈ entries, ∀ other, Strikes segment reach shooter entry other → part ≤ other := by
  intro found
  let hits := ((ofBalls entries depth capacity).tree.order (sweptBox segment reach)).map
    (hit? entries segment reach shooter)
  have least : Least hits found := firstHit?_least entries segment reach shooter depth capacity
  have offered {entry : Nat × Ball} {part : Scalar} (member : entry ∈ entries)
      (struck : Strikes segment reach shooter entry part) : some (entry.1, part) ∈ hits := by
    obtain ⟨slot, here⟩ := List.mem_iff_getElem?.mp member
    have hit : hit? entries segment reach shooter slot = some (entry.1, part) :=
      hit?_eq_some_iff.mpr ⟨entry, here, rfl, struck⟩
    have meets : Meets entries segment reach slot := ⟨entry, here, boxed entry member part struck⟩
    rw [← hit]
    exact List.mem_map_of_mem (meets.mem_order small solid nonneg depth capacity)
  have struck {best : Nat × Scalar} (there : some best ∈ hits) :
      ∃ entry ∈ entries, entry.1 = best.1 ∧ Strikes segment reach shooter entry best.2 := by
    obtain ⟨slot, _, hit⟩ := List.mem_map.mp there
    obtain ⟨entry, here, owner, struck⟩ := hit?_eq_some_iff.mp hit
    exact ⟨entry, List.mem_of_getElem? here, owner, struck⟩
  generalize found = answer at least
  constructor
  · cases answer with
    | none =>
      refine ⟨fun _ entry member part entered => ?_, fun _ => rfl⟩
      cases least _ (offered member entered)
    | some best =>
      obtain ⟨entry, member, _, entered⟩ := struck least.1
      exact ⟨nofun, fun missed => absurd entered (missed entry member best.2)⟩
  · rintro craft part rfl
    obtain ⟨first, member, owner, entered⟩ := struck least.1
    have between := impact?_between entered.2
    refine ⟨⟨first, member, owner, entered⟩, between, ?_⟩
    intro entry member' other entered'
    have between' := impact?_between entered'.2
    have earliest : ¬ other < part := least.2 (entry.1, other) (offered member' entered')
    -- Both are parts of the way, so they can be compared.
    have number : part.Comparable := (Scalar.comparable_of_le between.2).1
    have number' : other.Comparable := (Scalar.comparable_of_le between'.2).1
    exact (number'.lt_or_le number).resolve_left earliest

/-- Of two spheres that overlap, the one in front is found in a split index. -/
theorem front_of_file_is_nearest :
    let shot : Segment := ⟨⟨0, 0, 0⟩, ⟨0, 0, -20⟩⟩
    ∃ part : Scalar, (ofBalls file 3 1).firstHit? shot 5 0 = some (2, part) ∧
      (0 ≤ part ∧ part ≤ 1) ∧
      ∀ entry ∈ file, ∀ other, Strikes shot 5 0 entry other → part ≤ other := by
  intro shot
  have solid : ∀ entry ∈ file, entry.2.Solid := by decide +kernel
  have tested : ∀ entry ∈ file,
      (shot.impact? entry.2.position (entry.2.radius + 5)).isSome = true →
        entry.2.box.overlaps (sweptBox shot 5) = true := by decide +kernel
  have boxed : ∀ entry ∈ file, ∀ part, Strikes shot 5 0 entry part →
      entry.2.box.overlaps (sweptBox shot 5) = true := fun entry member part struck =>
    tested entry member (Option.isSome_iff_exists.mpr ⟨part, struck.2⟩)
  have front : ((ofBalls file 3 1).firstHit? shot 5 0).map Prod.fst = some 2 := by decide +kernel
  obtain ⟨⟨craft, part⟩, answer, owner⟩ := Option.map_eq_some_iff.mp front
  cases owner
  have nearest := first_hit_is_nearest_of_all file (by decide) solid shot 5 (by decide) 0 3 1 boxed
  exact ⟨part, answer, (nearest.2 2 part answer).2⟩

end Targets

end Sortie
