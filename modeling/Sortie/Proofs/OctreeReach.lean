import Sortie.Proofs.Comparison
import Sortie.Proofs.OctreeVisits

set_option autoImplicit false

namespace Sortie

namespace Vec

/-- All components are finite. -/
structure Finite (v : Vec) : Prop where
  x : v.x.isFinite = true
  y : v.y.isFinite = true
  z : v.z.isFinite = true

instance (v : Vec) : Decidable v.Finite :=
  decidable_of_iff (v.x.isFinite = true ∧ v.y.isFinite = true ∧ v.z.isFinite = true)
    ⟨fun ⟨x, y, z⟩ => ⟨x, y, z⟩, fun ⟨x, y, z⟩ => ⟨x, y, z⟩⟩

/-- All components can be compared. -/
structure Comparable (v : Vec) : Prop where
  x : v.x.Comparable
  y : v.y.Comparable
  z : v.z.Comparable

theorem Comparable.add {v w : Vec} (number : Comparable v) (finite : Finite w) :
    Comparable (v + w) :=
  ⟨number.x.add finite.x, number.y.add finite.y, number.z.add finite.z⟩

theorem sum_comparable {vectors : List Vec} (finite : ∀ v ∈ vectors, Finite v) :
    Comparable (sum vectors) := by
  have adding (start : Vec) (number : Comparable start) : Comparable (vectors.foldl add start) := by
    induction vectors generalizing start with
    | nil => exact number
    | cons v rest ih =>
      exact ih (fun w member => finite w (List.mem_cons_of_mem v member)) (start + v)
        (number.add (finite v (List.mem_cons_self)))
  exact adding zero ⟨⟨0, rfl⟩, ⟨0, rfl⟩, ⟨0, rfl⟩⟩

end Vec

namespace Box

theorem below_iff {a b : Vec} : below a b = true ↔ a.x ≤ b.x ∧ a.y ≤ b.y ∧ a.z ≤ b.z := by
  simp only [below, Bool.and_eq_true, decide_eq_true_eq, and_assoc]

theorem below_trans {a b c : Vec} (first : below a b = true) (second : below b c = true) :
    below a c = true := by
  obtain ⟨x, y, z⟩ := below_iff.mp first
  obtain ⟨x', y', z'⟩ := below_iff.mp second
  exact below_iff.mpr ⟨Scalar.le_trans x x', Scalar.le_trans y y', Scalar.le_trans z z'⟩

theorem comparable_of_below {a b : Vec} (order : below a b = true) :
    a.Comparable ∧ b.Comparable := by
  obtain ⟨x, y, z⟩ := below_iff.mp order
  obtain ⟨ax, bx⟩ := Scalar.comparable_of_le x
  obtain ⟨ay, bY⟩ := Scalar.comparable_of_le y
  obtain ⟨az, bz⟩ := Scalar.comparable_of_le z
  exact ⟨⟨ax, ay, az⟩, ⟨bx, bY, bz⟩⟩

theorem min_below {a b : Vec} (number : a.Comparable) (number' : b.Comparable) :
    below (a.min b) a = true ∧ below (a.min b) b = true := by
  obtain ⟨x, x'⟩ := Scalar.smaller_le number.x number'.x
  obtain ⟨y, y'⟩ := Scalar.smaller_le number.y number'.y
  obtain ⟨z, z'⟩ := Scalar.smaller_le number.z number'.z
  exact ⟨below_iff.mpr ⟨x, y, z⟩, below_iff.mpr ⟨x', y', z'⟩⟩

theorem below_max {a b : Vec} (number : a.Comparable) (number' : b.Comparable) :
    below a (a.max b) = true ∧ below b (a.max b) = true := by
  obtain ⟨x, x'⟩ := Scalar.le_larger number.x number'.x
  obtain ⟨y, y'⟩ := Scalar.le_larger number.y number'.y
  obtain ⟨z, z'⟩ := Scalar.le_larger number.z number'.z
  exact ⟨below_iff.mpr ⟨x, y, z⟩, below_iff.mpr ⟨x', y', z'⟩⟩

/-- On each axis, the low side is at most the high one. -/
def Ordered (box : Box) : Prop := below box.low box.high = true

instance (box : Box) : Decidable box.Ordered := inferInstanceAs (Decidable (_ = true))

theorem overlaps_iff {a b : Box} :
    a.overlaps b = true ↔ below a.low b.high = true ∧ below b.low a.high = true := by
  rw [overlaps, Bool.and_eq_true]

/-- Every part of `inner` is in `outer`. -/
structure Encloses (outer inner : Box) : Prop where
  low : below outer.low inner.low = true
  high : below inner.high outer.high = true

theorem Encloses.refl {box : Box} (low : box.low.Comparable) (high : box.high.Comparable) :
    box.Encloses box :=
  ⟨below_iff.mpr ⟨low.x.le_refl, low.y.le_refl, low.z.le_refl⟩,
    below_iff.mpr ⟨high.x.le_refl, high.y.le_refl, high.z.le_refl⟩⟩

theorem Encloses.trans {first second third : Box} (outer : first.Encloses second)
    (inner : second.Encloses third) : first.Encloses third :=
  ⟨below_trans outer.low inner.low, below_trans inner.high outer.high⟩

theorem Encloses.overlaps {outer inner other : Box} (encloses : outer.Encloses inner)
    (touch : inner.overlaps other = true) : outer.overlaps other = true := by
  obtain ⟨under, above⟩ := overlaps_iff.mp touch
  exact overlaps_iff.mpr ⟨below_trans encloses.low under, below_trans above encloses.high⟩

end Box

namespace Ball

/-- A sphere at a finite place, of a finite radius that is not negative. -/
structure Solid (ball : Ball) : Prop where
  position : ball.position.Finite
  radius : ball.radius.isFinite = true
  nonneg : 0 ≤ ball.radius

instance (ball : Ball) : Decidable ball.Solid :=
  decidable_of_iff (ball.position.Finite ∧ ball.radius.isFinite = true ∧ 0 ≤ ball.radius)
    ⟨fun ⟨position, radius, nonneg⟩ => ⟨position, radius, nonneg⟩,
      fun ⟨position, radius, nonneg⟩ => ⟨position, radius, nonneg⟩⟩

/-- The box of a sphere has its low sides below its high ones, even if they are too far away. -/
theorem Solid.ordered {ball : Ball} (solid : ball.Solid) : ball.box.Ordered := by
  have side {place : Scalar} (finite : place.isFinite = true) :
      place - ball.radius ≤ place + ball.radius := by
    obtain ⟨p, found, _⟩ := Scalar.exists_value finite
    obtain ⟨z, r, zero, found', positive⟩ := Scalar.le_iff.mp solid.nonneg
    rw [Scalar.value?_zero] at zero
    cases zero
    exact Scalar.le_iff.mpr ⟨_, _, Scalar.value?_sub finite solid.radius found found',
      Scalar.value?_add finite solid.radius found found',
      Scalar.bounded_mono (Scalar.roundedSum_mono (by omega))⟩
  exact Box.below_iff.mpr
    ⟨side solid.position.x, side solid.position.y, side solid.position.z⟩

end Ball

namespace OctreeNode

theorem exists_octant (x y z : Bool) : ∃ octant < 8,
    octant.testBit 0 = x ∧ octant.testBit 1 = y ∧ octant.testBit 2 = z := by
  refine ⟨x.toNat + 2 * y.toNat + 4 * z.toNat, ?_⟩
  cases x <;> cases y <;> cases z <;> decide

/-- Two boxes that touch reach an octant in common. -/
theorem exists_reaches {center : Vec} (number : center.Comparable) {a b : Box}
    (ordered : a.Ordered) (ordered' : b.Ordered) (touch : a.overlaps b = true) :
    ∃ octant < 8, reaches octant center a = true ∧ reaches octant center b = true := by
  obtain ⟨x, y, z⟩ := Box.below_iff.mp ordered
  obtain ⟨x', y', z'⟩ := Box.below_iff.mp ordered'
  obtain ⟨under, above⟩ := Box.overlaps_iff.mp touch
  obtain ⟨ux, uy, uz⟩ := Box.below_iff.mp under
  obtain ⟨ox, oy, oz⟩ := Box.below_iff.mp above
  have side {low high low' high' middle : Scalar} (number : middle.Comparable)
      (order : low ≤ high) (order' : low' ≤ high') (touch : low ≤ high') (touch' : low' ≤ high) :
      ∃ upper : Bool, (if upper then decide (middle ≤ high) else decide (low < middle)) = true ∧
        (if upper then decide (middle ≤ high') else decide (low' < middle)) = true := by
    rcases Scalar.common_side number order order' touch touch' with ⟨one, other⟩ | ⟨one, other⟩
    · exact ⟨true, decide_eq_true one, decide_eq_true other⟩
    · exact ⟨false, decide_eq_true one, decide_eq_true other⟩
  obtain ⟨right, hereX, thereX⟩ := side number.x x x' ux ox
  obtain ⟨top, hereY, thereY⟩ := side number.y y y' uy oy
  obtain ⟨front, hereZ, thereZ⟩ := side number.z z z' uz oz
  obtain ⟨octant, inside, bitX, bitY, bitZ⟩ := exists_octant right top front
  refine ⟨octant, inside, ?_, ?_⟩
  · simp only [reaches, bitX, bitY, bitZ, hereX, hereY, hereZ, Bool.and_self]
  · simp only [reaches, bitX, bitY, bitZ, thereX, thereY, thereZ, Bool.and_self]

theorem mem_reachedFrom {box : Box} {center : Vec} {octant place : Nat}
    {children : List OctreeNode} {child : OctreeNode} {index : Nat}
    (found : children[place]? = some child)
    (reach : reaches (octant + place) center box = true) (member : index ∈ child.reached box) :
    index ∈ reachedFrom box center octant children := by
  induction children generalizing octant place with
  | nil => cases found
  | cons first rest ih =>
    rw [reachedFrom]
    cases place with
    | zero =>
      rw [List.getElem?_cons_zero] at found
      cases found
      rw [Nat.add_zero] at reach
      rw [if_pos reach]
      exact List.mem_append_left _ member
    | succ place =>
      rw [List.getElem?_cons_succ] at found
      refine List.mem_append_right _ (ih found ?_)
      rwa [Nat.add_right_comm]

variable {balls : Array Ball}

/-- The center of some finite spheres can be compared, even if their sum is too large. -/
theorem centroid_comparable {members : List Nat} (small : members.length < UInt64.size)
    (finite : ∀ index ∈ members, ∀ ball ∈ balls[index]?, ball.position.Finite) :
    (centroid balls members).Comparable := by
  unfold centroid
  split
  · exact ⟨⟨0, rfl⟩, ⟨0, rfl⟩, ⟨0, rfl⟩⟩
  · rename_i some_
    have positive : 0 < members.length :=
      List.length_pos_iff.mpr fun none_ => some_ (List.isEmpty_iff.mpr none_)
    obtain ⟨c, count, low, high⟩ := Scalar.ofCount_finite positive small
    have usable := Scalar.isFinite_of_value count (by omega) high
    have total : (Vec.sum (members.filterMap fun index =>
        balls[index]?.map Ball.position)).Comparable := by
      refine Vec.sum_comparable fun place member => ?_
      obtain ⟨index, listed, found⟩ := List.mem_filterMap.mp member
      obtain ⟨ball, there, rfl⟩ := Option.map_eq_some_iff.mp found
      exact finite index listed ball there
    exact ⟨total.x.div usable count (by omega), total.y.div usable count (by omega),
      total.z.div usable count (by omega)⟩

/-- A box reaches each member whose own box it touches. -/
theorem mem_reached_build {box : Box} (ordered : box.Ordered) {capacity : Nat} (depth : Nat)
    {members : List Nat} (small : members.length < UInt64.size)
    (solid : ∀ index ∈ members, ∀ ball ∈ balls[index]?, ball.Solid) {index : Nat} {ball : Ball}
    (member : index ∈ members) (there : balls[index]? = some ball)
    (touch : ball.box.overlaps box = true) :
    index ∈ (build balls capacity depth members).reached box := by
  induction depth generalizing members with
  | zero =>
    rw [build, reached]
    exact member
  | succ depth ih =>
    rw [build]
    split
    · rw [reached]
      exact member
    · have number : (centroid balls members).Comparable :=
        centroid_comparable small fun index listed ball found =>
          (solid index listed ball found).position
      generalize centroid balls members = center at number
      obtain ⟨octant, inside, here, reach⟩ :=
        exists_reaches number (solid index member ball there).ordered ordered touch
      have kept : index ∈ bucket balls members center octant :=
        List.mem_filter.mpr ⟨member, by simp only [there, here]⟩
      have fewer : (bucket balls members center octant).length ≤ members.length :=
        List.length_filter_le _ _
      have child : ((List.range 8).map fun octant =>
          build balls capacity depth (bucket balls members center octant))[octant]? =
            some (build balls capacity depth (bucket balls members center octant)) := by
        rw [List.getElem?_map, List.getElem?_range inside]
        rfl
      have later := ih (Nat.lt_of_le_of_lt fewer small)
        (fun index listed => solid index (List.mem_filter.mp listed).1) kept
      rw [← Nat.zero_add octant] at reach
      rw [reached]
      exact mem_reachedFrom child reach later

end OctreeNode

namespace Octree

/-- A box, enlarged to hold a sphere. -/
def cover (box : Box) (ball : Ball) : Box :=
  ⟨box.low.min ball.box.low, box.high.max ball.box.high⟩

theorem cover_encloses {box : Box} (low : box.low.Comparable) (high : box.high.Comparable)
    {ball : Ball} (solid : ball.Solid) :
    (cover box ball).Encloses box ∧ (cover box ball).Encloses ball.box := by
  obtain ⟨ballLow, ballHigh⟩ := Box.comparable_of_below solid.ordered
  obtain ⟨left, left'⟩ := Box.min_below low ballLow
  obtain ⟨right, right'⟩ := Box.below_max high ballHigh
  exact ⟨⟨left, right⟩, ⟨left', right'⟩⟩

theorem foldl_cover_encloses {balls : List Ball} (solid : ∀ ball ∈ balls, ball.Solid) {box : Box}
    (low : box.low.Comparable) (high : box.high.Comparable) :
    (balls.foldl cover box).Encloses box ∧
      ∀ ball ∈ balls, (balls.foldl cover box).Encloses ball.box := by
  induction balls generalizing box with
  | nil => exact ⟨.refl low high, nofun⟩
  | cons first rest ih =>
    obtain ⟨older, newer⟩ := cover_encloses low high (solid first List.mem_cons_self)
    obtain ⟨all, each⟩ := ih (fun ball member => solid ball (List.mem_cons_of_mem first member))
      (Box.comparable_of_below older.low).1 (Box.comparable_of_below older.high).2
    refine ⟨all.trans older, fun ball member => ?_⟩
    rcases List.mem_cons.mp member with rfl | later
    · exact all.trans newer
    · exact each ball later

/-- The bounds hold every sphere. -/
theorem boundsOf_encloses {balls : Array Ball} (solid : ∀ ball ∈ balls, ball.Solid) {ball : Ball}
    (member : ball ∈ balls) : (boundsOf balls).Encloses ball.box := by
  have some_ : ¬ balls.isEmpty = true := fun none_ => by
    rw [Array.isEmpty_iff.mp none_] at member
    exact Array.not_mem_empty ball member
  have finite (value : Scalar) (ends : value.isFinite = true) : (Vec.splat value).Comparable :=
    ⟨.of_finite ends, .of_finite ends, .of_finite ends⟩
  rw [boundsOf, if_neg some_]
  simp only [← Array.foldl_toList]
  exact (foldl_cover_encloses (fun ball listed => solid ball (Array.mem_def.mpr listed))
    (finite _ rfl) (finite _ rfl)).2 ball (Array.mem_def.mp member)

/-- A query offers every sphere whose box it touches. -/
theorem mem_order_of_overlaps {balls : Array Ball} (small : balls.size < UInt64.size)
    (solid : ∀ ball ∈ balls, ball.Solid) (depth capacity : Nat) {box : Box}
    (ordered : box.Ordered) {index : Nat} {ball : Ball} (there : balls[index]? = some ball)
    (touch : ball.box.overlaps box = true) :
    index ∈ (build balls depth capacity).order box := by
  have member := Array.mem_of_getElem? there
  have inside := (Array.getElem?_eq_some_iff.mp there).1
  have reached : index ∈ (build balls depth capacity).root.reached box :=
    OctreeNode.mem_reached_build ordered depth (by rwa [List.length_range])
      (fun index _ ball found => solid ball (Array.mem_of_getElem? found))
      (List.mem_range.mpr inside) there touch
  have some_ : ¬ balls.isEmpty = true := fun none_ => by
    rw [Array.isEmpty_iff.mp none_] at inside
    exact Nat.not_lt_zero index inside
  have bounds := (boundsOf_encloses solid member).overlaps touch
  have met : ¬ ((build balls depth capacity).balls.isEmpty = true ∨
      ¬ (build balls depth capacity).bounds.overlaps box = true) :=
    not_or.mpr ⟨some_, not_not.mpr bounds⟩
  rw [order, if_neg met]
  refine OctreeTrace.mem_fresh.mpr ⟨reached, ?_⟩
  simp [Array.getD, build, size, inside]

/-- A query is complete and free of duplicates, for every depth and capacity of the index. What the
visitor is offered is the front of one sequence of members, without repetitions. A visitor that
never stops is offered all of it; one that stops is offered the sequence up to the member it stops
at, and the query then tells that it was stopped. Of finite spheres, as many as the machine can
count, each whose box the query's box touches is in the sequence once. -/
theorem query_complete_without_duplicates (balls : Array Ball) (depth capacity : Nat) (box : Box) :
    let tree := build balls depth capacity
    let offered := (tree.candidates box).toList
    offered.Nodup ∧ (∀ index ∈ offered, index < balls.size) ∧
    (∀ (σ : Type) (visitor : σ → Nat → Visit σ) (start last : σ),
      (tree.visit box visitor start = .next last ↔ Visit.Passes visitor start offered last) ∧
      (tree.visit box visitor start = .stop last ↔
        ∃ earlier index later before, offered = earlier ++ index :: later ∧
          Visit.Passes visitor start earlier before ∧ visitor before index = .stop last)) ∧
    (balls.size < UInt64.size → (∀ ball ∈ balls, ball.Solid) → box.Ordered →
      ∀ index ball, balls[index]? = some ball → ball.box.overlaps box = true →
        offered.count index = 1) := by
  intro tree offered
  have sequence : offered = tree.order box := tree.candidates_eq_order box
  have nodup : offered.Nodup := by
    rw [sequence]
    exact tree.order_nodup box
  refine ⟨nodup, ?_, ?_, ?_⟩
  · rw [sequence]
    exact fun index member => tree.lt_size_of_mem_order box member
  · intro σ visitor start last
    rw [tree.visit_eq_each, sequence]
    exact ⟨Visit.each_eq_next, Visit.each_eq_stop⟩
  · intro small solid ordered index ball there touch
    have member : index ∈ offered := by
      rw [sequence]
      exact mem_order_of_overlaps small solid depth capacity ordered there touch
    exact List.count_eq_one_of_mem nodup member

/-- Two spheres that touch, and two at the same place so far away that the center is beyond all
numbers. -/
def outliers : Array Ball :=
  #[⟨⟨0, 0, 0⟩, 1⟩, ⟨⟨2, 0, 0⟩, 1⟩, ⟨⟨Scalar.largest, 0, 0⟩, 0⟩, ⟨⟨Scalar.largest, 0, 0⟩, 0⟩]

/-- A box that is a point, where two spheres touch, reaches both of them once. -/
theorem query_at_contact :
    let tree := build outliers 2 0
    let box : Box := ⟨⟨1, 0, 0⟩, ⟨1, 0, 0⟩⟩
    (OctreeNode.centroid outliers [0, 1, 2, 3]).x.isFinite = false ∧
      outliers.size < UInt64.size ∧ (∀ ball ∈ outliers, ball.Solid) ∧ box.Ordered ∧
      (tree.candidates box).toList.count 0 = 1 ∧ (tree.candidates box).toList.count 1 = 1 := by
  intro tree box
  obtain ⟨small, solid, ordered⟩ : outliers.size < UInt64.size ∧
      (∀ ball ∈ outliers, ball.Solid) ∧ box.Ordered := by decide +kernel
  have once := (query_complete_without_duplicates outliers 2 0 box).2.2.2 small solid ordered
  exact ⟨by decide +kernel, small, solid, ordered, once 0 _ rfl (by decide +kernel),
    once 1 _ rfl (by decide +kernel)⟩

end Octree

end Sortie
