import Sortie.Proofs.OctreeVisits
import Sortie.Proofs.PoolSlots

set_option autoImplicit false

namespace Sortie.Strict

/-- Look-ups that all succeed give what they find, in order. -/
theorem mapM_eq_filterMap {α β : Type} {find : α → Option β} {xs : List α}
    (found : ∀ x ∈ xs, (find x).isSome = true) : xs.mapM find = some (xs.filterMap find) := by
  induction xs with
  | nil => rfl
  | cons x rest ih =>
    obtain ⟨y, here⟩ := Option.isSome_iff_exists.mp (found x List.mem_cons_self)
    rw [List.mapM_cons, here, ih fun x later => found x (List.mem_cons_of_mem _ later),
      List.filterMap_cons_some here]
    rfl

section

variable {α : Type}

/-- The first free one of some slots. -/
def findFree? (slots : Array (Slot α)) : List Nat → Option (Option Nat)
  | [] => some none
  | index :: rest => do
    let slot ← slots[index]?
    if slot.locked then findFree? slots rest else some (some index)

/-- The slots in the order of a search: from the first one that may be free to the end, and then
those before it. -/
def searchOrder (pool : Pool α) : List Nat :=
  let start := min pool.firstFree pool.capacity
  List.range' start (pool.capacity - start) ++ List.range' 0 start

def acquire (pool : Pool α) (fresh : α) : Option (Nat × α × Pool α) := do
  let found ← findFree? pool.slots (searchOrder pool)
  let (index, slots) := match found with
    | some index => (index, pool.slots)
    | none => (pool.capacity, pool.slots.push ⟨fresh, false⟩)
  let slot ← slots[index]?
  some (index, slot.object,
    { pool with
      slots := slots.setIfInBounds index { slot with locked := true }
      lockedCount := pool.lockedCount + 1
      firstFree := index + 1 })

def renew (pool : Pool α) (fresh : α) (reset : α → α) : Option (Nat × Pool α) := do
  let (index, stale, acquired) ← acquire pool fresh
  some (index, acquired.set index (reset stale))

section

variable {σ : Type}

/-- Visits the locked ones of the slots from `index` on. The visitor may itself end in an error. -/
def sweepFrom (visitor : σ → Nat → α → Option (σ × α × SlotFate)) (state : σ) (pool : Pool α)
    (index : Nat) : Nat → Option (σ × Pool α)
  | 0 => some (state, pool)
  | remaining + 1 => do
    let slot ← pool.slots[index]?
    if slot.locked then
      let (state, object, fate) ← visitor state index slot.object
      sweepFrom visitor state (pool.leave index object fate) (index + 1) remaining
    else sweepFrom visitor state pool (index + 1) remaining

def sweep (pool : Pool α) (visitor : σ → Nat → α → Option (σ × α × SlotFate)) (state : σ) :
    Option (σ × Pool α) :=
  sweepFrom visitor state pool 0 pool.capacity

end

def update (pool : Pool α) (step : α → α × SlotFate) : Option (Pool α) := do
  let (_, pool) ← sweep pool (fun (_ : Unit) _ object => some ((), step object)) ()
  some pool

/-- Changes every object in a locked slot and releases none. -/
def mapLocked (pool : Pool α) (change : α → α) : Option (Pool α) :=
  update pool fun object => (change object, .keep)

theorem findFree?_append (slots : Array (Slot α)) (first second : List Nat) :
    findFree? slots (first ++ second) =
      (findFree? slots first).bind fun found =>
        match found with
        | some index => some (some index)
        | none => findFree? slots second := by
  induction first with
  | nil => rfl
  | cons index rest ih =>
    rw [List.cons_append, findFree?, findFree?]
    cases slots[index]? with
    | none => rfl
    | some slot =>
      cases locked : slot.locked with
      | true => simpa [locked] using ih
      | false => simp [locked]

/-- All slots from one on are in range. -/
theorem findFree?_from (slots : Array (Slot α)) {start count : Nat}
    (inside : start + count = slots.size) :
    findFree? slots (List.range' start count) = some (Pool.nextFree? slots start) := by
  induction count generalizing start with
  | zero =>
    rw [Pool.nextFree?, dif_neg (by omega)]
    rfl
  | succ count ih =>
    have lt : start < slots.size := by omega
    rw [List.range'_succ, findFree?, Pool.nextFree?, dif_pos lt, Array.getElem?_eq_getElem lt,
      ih (by omega)]
    cases locked : slots[start].locked with
    | true => simp [locked]
    | false => simp [locked]

/-- Beyond the last slot there is none to begin with. -/
theorem nextFree?_min (pool : Pool α) :
    Pool.nextFree? pool.slots (min pool.firstFree pool.capacity) =
      Pool.nextFree? pool.slots pool.firstFree := by
  rcases Nat.lt_or_ge pool.firstFree pool.capacity with before | beyond
  · rw [Nat.min_eq_left (Nat.le_of_lt before)]
  · rw [Nat.min_eq_right beyond]
    exact (Pool.nextFree?_beyond (Nat.le_refl _)).trans (Pool.nextFree?_beyond beyond).symm

theorem findFree?_eq (pool : Pool α) :
    findFree? pool.slots (searchOrder pool) = some pool.findFree? := by
  have bound : min pool.firstFree pool.capacity ≤ pool.capacity := Nat.min_le_right _ _
  have begins := nextFree?_min pool
  unfold searchOrder
  dsimp only
  generalize min pool.firstFree pool.capacity = start at bound begins
  have upper : findFree? pool.slots (List.range' start (pool.capacity - start)) =
      some (Pool.nextFree? pool.slots start) :=
    findFree?_from pool.slots (Nat.add_sub_cancel' bound)
  rw [findFree?_append, upper, Pool.findFree?, ← begins]
  cases found : Pool.nextFree? pool.slots start with
  | some index => rfl
  | none =>
    -- Nothing is free from `start` on, so the search of all slots ends before it.
    have all : findFree? pool.slots (List.range' 0 pool.capacity) =
        some (Pool.nextFree? pool.slots 0) := findFree?_from pool.slots (Nat.zero_add _)
    have parts : List.range' 0 pool.capacity =
        List.range' 0 start ++ List.range' start (pool.capacity - start) := by
      have append : List.range' 0 start ++ List.range' (0 + start) (pool.capacity - start) =
          List.range' 0 (start + (pool.capacity - start)) := List.range'_append_1
      rw [Nat.zero_add, Nat.add_sub_cancel' bound] at append
      exact append.symm
    rw [parts, findFree?_append, upper, found] at all
    show findFree? pool.slots (List.range' 0 start) = some (Pool.nextFree? pool.slots 0)
    rw [← all]
    cases findFree? pool.slots (List.range' 0 start) with
    | none => rfl
    | some found => cases found <;> rfl

theorem acquire_eq (pool : Pool α) (fresh : α) :
    acquire pool fresh = some (pool.acquire fresh) := by
  unfold acquire Pool.acquire
  dsimp only
  rw [findFree?_eq]
  cases search : pool.findFree? with
  | some index =>
    obtain ⟨slot, found, _⟩ := Pool.findFree?_some search
    simp [found]
  | none =>
    -- The new slot is the last one; it is pushed before it is locked.
    have locks : (pool.slots.push ⟨fresh, false⟩).setIfInBounds pool.slots.size ⟨fresh, true⟩ =
        pool.slots.push ⟨fresh, true⟩ := by grind
    simp [Pool.capacity, locks]

theorem renew_eq (pool : Pool α) (fresh : α) (reset : α → α) :
    renew pool fresh reset = some (pool.renew fresh reset) := by
  unfold renew
  rw [acquire_eq]
  rfl

section

variable {σ : Type} {visitor : σ → Nat → α → Option (σ × α × SlotFate)}
  {plain : σ → Nat → α → σ × α × SlotFate}

theorem sweepFrom_eq (safe : ∀ state index object,
      visitor state index object = some (plain state index object))
    (state : σ) (pool : Pool α) {index remaining : Nat}
    (inside : index + remaining = pool.capacity) :
    sweepFrom visitor state pool index remaining =
      some (Pool.sweepFrom plain state pool index remaining) := by
  induction remaining generalizing state pool index with
  | zero => rfl
  | succ remaining ih =>
    have lt : index < pool.slots.size := by
      have := inside
      unfold Pool.capacity at this
      omega
    have there : pool.slots[index]? = some pool.slots[index] := Array.getElem?_eq_getElem lt
    rw [sweepFrom, there]
    cases locked : pool.slots[index].locked with
    | true =>
      have found : pool.get? index = some pool.slots[index].object := by
        rw [Pool.get?_eq, there, Option.bind_some, if_pos locked]
      rw [Pool.sweepFrom_visit found]
      simp only [Option.bind_eq_bind, Option.bind_some, locked, if_true, safe]
      exact ih _ _ (by rw [Pool.capacity_leave]; omega)
    | false =>
      have free : pool.get? index = none := by
        rw [Pool.get?_eq, there, Option.bind_some, locked]
        rfl
      rw [Pool.sweepFrom_skip free]
      simp only [Option.bind_eq_bind, Option.bind_some, locked, Bool.false_eq_true, if_false]
      exact ih _ _ (by omega)

theorem sweep_eq (safe : ∀ state index object,
      visitor state index object = some (plain state index object))
    (pool : Pool α) (state : σ) : sweep pool visitor state = some (pool.sweep plain state) :=
  sweepFrom_eq safe state pool (Nat.zero_add _)

end

theorem update_eq (pool : Pool α) (step : α → α × SlotFate) :
    update pool step = some (pool.update step) := by
  unfold update
  have swept : sweep pool (fun (_ : Unit) _ object => some ((), step object)) () =
      some (pool.sweep (fun _ _ object => ((), step object)) ()) :=
    sweep_eq (fun _ _ _ => rfl) pool ()
  rw [swept]
  rfl

theorem mapLocked_eq (pool : Pool α) (change : α → α) :
    mapLocked pool change = some (pool.mapLocked change) := by
  rw [mapLocked, update_eq, Pool.update_keep]

end

def centroid (balls : Array Ball) (members : List Nat) : Option Vec :=
  if members.isEmpty then some .zero
  else do
    let positions ← members.mapM fun index => balls[index]?.map Ball.position
    some (Vec.sum positions / Scalar.ofCount members.length)

/-- The members in each of the octants around a center, of which all spheres are looked up first. -/
def build (balls : Array Ball) (capacity : Nat) : Nat → List Nat → Option OctreeNode
  | 0, members => do
    let _ ← centroid balls members
    some (.leaf members)
  | depth + 1, members => do
    let center ← centroid balls members
    if members.length ≤ capacity then some (.leaf members)
    else
      let entries ← members.mapM fun index => balls[index]?.map (index, ·)
      let bucket (octant : Nat) : List Nat :=
        (entries.filter fun entry => OctreeNode.reaches octant center entry.2.box).map Prod.fst
      let children ← (List.range 8).mapM fun octant => build balls capacity depth (bucket octant)
      some (.split members center children)

section

variable {β σ : Type} (objects : Array β) (visitor : σ → Nat → β → Visit σ)

/-- Offers an object to the visitor unless it was offered before. -/
def offer (trace : OctreeTrace σ) (index : Nat) : Option (Visit (OctreeTrace σ)) := do
  let offered ← trace.seen[index]?
  if offered then some (.next trace)
  else
    let object ← objects[index]?
    let seen := trace.seen.setIfInBounds index true
    some (match visitor trace.gathered index object with
      | .next gathered => .next ⟨seen, gathered⟩
      | .stop gathered => .stop ⟨seen, gathered⟩)

def offerAll : OctreeTrace σ → List Nat → Option (Visit (OctreeTrace σ))
  | trace, [] => some (.next trace)
  | trace, index :: rest => do
    match ← offer objects visitor trace index with
    | .next trace => offerAll trace rest
    | .stop trace => some (.stop trace)

mutual

def walk (box : Box) (trace : OctreeTrace σ) : OctreeNode → Option (Visit (OctreeTrace σ))
  | .leaf members => offerAll objects visitor trace members
  | .split _ center children => walkFrom box center 0 trace children

def walkFrom (box : Box) (center : Vec) (octant : Nat) (trace : OctreeTrace σ) :
    List OctreeNode → Option (Visit (OctreeTrace σ))
  | [] => some (.next trace)
  | child :: rest =>
    if OctreeNode.reaches octant center box then do
      match ← walk box trace child with
      | .next trace => walkFrom box center (octant + 1) trace rest
      | .stop trace => some (.stop trace)
    else walkFrom box center (octant + 1) trace rest

end

/-- Offers the visitor each object whose sphere is in a leaf that the box reaches, until it stops.
-/
def visit (tree : Octree) (box : Box) (start : σ) : Option (Visit σ) :=
  if objects.isEmpty ∨ ¬ tree.bounds.overlaps box then some (.next start)
  else do
    let trace : OctreeTrace σ := ⟨Array.replicate objects.size false, start⟩
    let walked ← walk objects visitor box trace tree.root
    some (OctreeTrace.outcome walked)

end

/-- The index of the spheres, which are looked up to build it. -/
def octree (balls : Array Ball) (depth capacity : Nat) : Option Octree := do
  let root ← build balls (max capacity 1) depth (List.range balls.size)
  some ⟨balls, root, Octree.boundsOf balls⟩

theorem isSome_map_getElem? {α β : Type} {xs : Array α} {index : Nat} (inside : index < xs.size)
    (f : α → β) : (xs[index]?.map f).isSome = true := by
  rw [Array.getElem?_eq_getElem inside]
  rfl

section

variable {balls : Array Ball}

theorem centroid_eq {members : List Nat} (inside : ∀ index ∈ members, index < balls.size) :
    centroid balls members = some (OctreeNode.centroid balls members) := by
  unfold centroid OctreeNode.centroid
  split
  · rfl
  · rw [mapM_eq_filterMap fun index member => isSome_map_getElem? (inside index member) _]
    rfl

theorem bucket_eq (members : List Nat) (center : Vec) (octant : Nat) :
    (((members.filterMap fun index => balls[index]?.map (index, ·)).filter fun entry =>
        OctreeNode.reaches octant center entry.2.box).map Prod.fst) =
      OctreeNode.bucket balls members center octant := by
  induction members with
  | nil => rfl
  | cons index rest ih =>
    unfold OctreeNode.bucket at ih ⊢
    rw [List.filter_cons, ← ih, List.filterMap_cons]
    cases balls[index]? with
    | none => simp
    | some ball =>
      rw [Option.map_some]
      cases reach : OctreeNode.reaches octant center ball.box <;> simp [reach]

theorem build_eq (capacity depth : Nat) {members : List Nat}
    (inside : ∀ index ∈ members, index < balls.size) :
    build balls capacity depth members = some (OctreeNode.build balls capacity depth members) := by
  induction depth generalizing members with
  | zero =>
    rw [build, centroid_eq inside]
    rfl
  | succ depth ih =>
    rw [build, centroid_eq inside, OctreeNode.build]
    simp only [Option.bind_eq_bind, Option.bind_some]
    split
    · rfl
    · have children (octant : Nat) :
          build balls capacity depth
              (OctreeNode.bucket balls members (OctreeNode.centroid balls members) octant) =
            some (OctreeNode.build balls capacity depth
              (OctreeNode.bucket balls members (OctreeNode.centroid balls members) octant)) :=
        ih fun index member => inside index (List.mem_filter.mp member).1
      rw [mapM_eq_filterMap fun index member => isSome_map_getElem? (inside index member) _,
        Option.bind_some]
      simp only [bucket_eq, children]
      rw [mapM_eq_filterMap fun _ _ => rfl]
      simp only [Option.bind_some, List.filterMap_eq_map']

theorem octree_eq (balls : Array Ball) (depth capacity : Nat) :
    octree balls depth capacity = some (Octree.build balls depth capacity) := by
  unfold octree
  rw [build_eq _ _ fun index member => List.mem_range.mp member]
  rfl

end

section

variable {β σ : Type} {objects : Array β} {visitor : σ → Nat → β → Visit σ}
  {plain : σ → Nat → Visit σ}

theorem offerAll_append (trace : OctreeTrace σ) (first second : List Nat) :
    offerAll objects visitor trace (first ++ second) =
      (offerAll objects visitor trace first).bind fun answer =>
        match answer with
        | .next trace => offerAll objects visitor trace second
        | .stop trace => some (.stop trace) := by
  induction first generalizing trace with
  | nil => rfl
  | cons index rest ih =>
    rw [List.cons_append, offerAll, offerAll]
    cases offer objects visitor trace index with
    | none => rfl
    | some answer =>
      cases answer with
      | next trace => exact ih trace
      | stop trace => rfl

mutual

theorem walk_eq_offerAll (box : Box) (trace : OctreeTrace σ) (node : OctreeNode) :
    walk objects visitor box trace node = offerAll objects visitor trace (node.reached box) := by
  cases node with
  | leaf members => rw [walk, OctreeNode.reached]
  | split members center children =>
    rw [walk, OctreeNode.reached]
    exact walkFrom_eq_offerAll box center 0 trace children

theorem walkFrom_eq_offerAll (box : Box) (center : Vec) (octant : Nat) (trace : OctreeTrace σ)
    (children : List OctreeNode) :
    walkFrom objects visitor box center octant trace children =
      offerAll objects visitor trace (OctreeNode.reachedFrom box center octant children) := by
  cases children with
  | nil =>
    rw [walkFrom, OctreeNode.reachedFrom]
    rfl
  | cons child rest =>
    rw [walkFrom, OctreeNode.reachedFrom]
    split
    · rw [offerAll_append, walk_eq_offerAll box trace child]
      cases offerAll objects visitor trace (child.reached box) with
      | none => rfl
      | some answer =>
        cases answer with
        | next trace => exact walkFrom_eq_offerAll box center (octant + 1) trace rest
        | stop trace => rfl
    · exact walkFrom_eq_offerAll box center (octant + 1) trace rest

end

theorem reachedFrom_subset {box : Box} {center : Vec} {members : List Nat} (octant : Nat)
    {children : List OctreeNode} (each : ∀ child ∈ children, child.reached box ⊆ members) :
    OctreeNode.reachedFrom box center octant children ⊆ members := by
  induction children generalizing octant with
  | nil => exact List.nil_subset _
  | cons child rest ih =>
    have later := ih (octant + 1) fun child member => each child (List.mem_cons_of_mem _ member)
    rw [OctreeNode.reachedFrom]
    split
    · exact List.append_subset.mpr ⟨each child List.mem_cons_self, later⟩
    · exact later

/-- The leaves of an index hold its members only. -/
theorem reached_build {balls : Array Ball} {capacity : Nat} {box : Box} (depth : Nat)
    (members : List Nat) :
    (OctreeNode.build balls capacity depth members).reached box ⊆ members := by
  induction depth generalizing members with
  | zero =>
    rw [OctreeNode.build, OctreeNode.reached]
    exact List.Subset.refl members
  | succ depth ih =>
    rw [OctreeNode.build]
    split
    · rw [OctreeNode.reached]
      exact List.Subset.refl members
    · dsimp only
      rw [OctreeNode.reached]
      refine reachedFrom_subset 0 fun child member => ?_
      obtain ⟨octant, _, rfl⟩ := List.mem_map.mp member
      exact fun index reached => (List.mem_filter.mp (ih _ reached)).1

/-- The visitor with the objects does as the one without, which knows them by their index. -/
def Follows (objects : Array β) (visitor : σ → Nat → β → Visit σ) (plain : σ → Nat → Visit σ) :
    Prop :=
  ∀ state index object, objects[index]? = some object →
    visitor state index object = plain state index

theorem offerAll_eq (follows : Follows objects visitor plain) {members : List Nat}
    (inside : ∀ index ∈ members, index < objects.size) {trace : OctreeTrace σ}
    (marks : trace.seen.size = objects.size) :
    offerAll objects visitor trace members = some (trace.offerAll plain members) := by
  induction members generalizing trace with
  | nil => rfl
  | cons index rest ih =>
    have here : index < objects.size := inside index List.mem_cons_self
    have later : ∀ index ∈ rest, index < objects.size :=
      fun index member => inside index (List.mem_cons_of_mem _ member)
    have seen : index < trace.seen.size := by rw [marks]; exact here
    rw [offerAll, offer, OctreeTrace.offerAll, OctreeTrace.offer, Array.getD_eq_getD_getElem?,
      Array.getElem?_eq_getElem seen]
    cases offered : trace.seen[index] with
    | true =>
      simp only [Option.bind_eq_bind, Option.bind_some, if_true, Option.getD_some]
      exact ih later marks
    | false =>
      simp only [Option.bind_eq_bind, Option.bind_some, Bool.false_eq_true, if_false,
        Option.getD_some, Array.getElem?_eq_getElem here,
        follows trace.gathered index _ (Array.getElem?_eq_getElem here)]
      cases plain trace.gathered index with
      | next gathered => exact ih later (by rw [Array.size_setIfInBounds, marks])
      | stop gathered => rfl

/-- A visit of an index over the objects' spheres looks up its own members only. -/
theorem visit_eq (follows : Follows objects visitor plain) {balls : Array Ball}
    (same : balls.size = objects.size) (depth capacity : Nat) (box : Box) (start : σ) :
    visit objects visitor (Octree.build balls depth capacity) box start =
      some ((Octree.build balls depth capacity).visit box plain start) := by
  have empty : objects.isEmpty = balls.isEmpty := by
    rw [Array.isEmpty, Array.isEmpty, same]
  unfold visit Octree.visit
  rw [empty]
  split
  · rename_i nothing
    exact (congrArg some (if_pos nothing)).symm
  · rename_i something
    have inside (index : Nat)
        (member : index ∈ (Octree.build balls depth capacity).root.reached box) :
        index < objects.size := by
      rw [← same]
      exact List.mem_range.mp (reached_build depth (List.range balls.size) member)
    refine Eq.trans ?_ (congrArg some (if_neg something).symm)
    dsimp only
    rw [walk_eq_offerAll, offerAll_eq follows inside Array.size_replicate,
      OctreeTrace.walk_eq_offerAll, Octree.size, ← same]
    rfl

end

end Sortie.Strict
