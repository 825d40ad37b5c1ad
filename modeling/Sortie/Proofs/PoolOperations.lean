import Sortie.Proofs.PoolTally

set_option autoImplicit false

namespace Sortie.Pool

variable {α : Type}

inductive Operation (α : Type) : Type 1 where
  | prefill (capacity : Nat) (make : Nat → α)
  | acquire (fresh : α)
  | release (index : Nat)
  | releaseAll
  | sweep {σ : Type} (visitor : σ → Nat → α → σ × α × SlotFate) (state : σ)
  | write (index : Nat) (change : α → α)

def Operation.apply (pool : Pool α) : Operation α → Pool α
  | prefill capacity make => pool.prefillWith capacity make
  | acquire fresh => (pool.acquire fresh).2.2
  | release index => (pool.release index).2
  | releaseAll => pool.releaseAll
  | sweep visitor state => (pool.sweep visitor state).2
  | write index change => pool.modify index change

/-- Whether an operation on a pool is given the object of a slot to change. -/
def Operation.Gives (pool : Pool α) (index : Nat) : Operation α → Prop
  | sweep _ _ => ∃ object, pool.get? index = some object
  | write place _ => place = index ∧ ∃ object, pool.get? index = some object
  | _ => False

/-- A new pool after operations. -/
def run (kind : String) (operations : List (Operation α)) : Pool α :=
  operations.foldl Operation.apply (empty kind)

/-- The object of a slot, be it locked or free. -/
def object? (pool : Pool α) (index : Nat) : Option α := pool.slots[index]?.map Slot.object

/-- The slots that may be acquired without growing the pool. -/
def Free (pool : Pool α) (index : Nat) : Prop :=
  index < pool.capacity ∧ pool.get? index = none

theorem object?_of_get? {pool : Pool α} {index : Nat} {object : α}
    (found : pool.get? index = some object) : pool.object? index = some object := by
  rw [get?_eq, Option.bind_eq_some_iff] at found
  obtain ⟨slot, place, content⟩ := found
  rw [object?, place, Option.map_some]
  split at content
  · exact content
  · cases content

theorem object?_modify (pool : Pool α) (place index : Nat) (change : α → α) :
    (pool.modify place change).object? index =
      if place = index ∧ (pool.get? index).isSome then (pool.object? index).map change
      else pool.object? index := by
  simp only [object?, get?_eq, modify, Array.getElem?_modify]
  by_cases same : place = index
  · cases pool.slots[index]? with
    | none => simp only [Option.map_none, Option.bind_none, ite_self]
    | some slot => cases locked : slot.locked <;> simp [same, locked]
  · simp only [same, if_false, false_and]

theorem slots_release (pool : Pool α) (place index : Nat) :
    (pool.release place).2.slots[index]? =
      if place = index then pool.slots[index]?.map fun slot => ⟨slot.object, false⟩
      else pool.slots[index]? := by
  rw [release]
  cases found : pool.get? place with
  | none =>
    by_cases same : place = index
    · subst same
      rw [get?_eq] at found
      cases there : pool.slots[place]? with
      | none => simp only [if_true, Option.map_none]
      | some slot =>
        obtain ⟨object, locked⟩ := slot
        cases locked with
        | false => simp only [if_true, Option.map_some]
        | true => simp only [there, Option.bind_some, if_true, reduceCtorEq] at found
    · rw [if_neg same]
  | some object =>
    have inside : place < pool.slots.size := lt_capacity_of_get? found
    simp only [Array.getElem?_setIfInBounds, inside, if_true]
    by_cases same : place = index
    · subst same
      have held := object?_of_get? found
      rw [object?, Option.map_eq_some_iff] at held
      obtain ⟨slot, there, rfl⟩ := held
      rw [if_pos rfl, if_pos rfl, there, Option.map_some]
    · rw [if_neg same, if_neg same]

theorem object?_release (pool : Pool α) (place index : Nat) :
    (pool.release place).2.object? index = pool.object? index := by
  rw [object?, slots_release]
  split
  · rw [Option.map_map]
    rfl
  · rfl

theorem object?_releaseAll (pool : Pool α) (index : Nat) :
    pool.releaseAll.object? index = pool.object? index := by
  simp only [object?, releaseAll, Array.getElem?_map, Option.map_map]
  rfl

theorem object?_prefillWith (pool : Pool α) (capacity : Nat) (make : Nat → α) {index : Nat}
    (inside : index < pool.capacity) :
    (pool.prefillWith capacity make).object? index = pool.object? index := by
  have bound : index < pool.slots.size := inside
  simp only [object?, prefillWith, Array.getElem?_append, if_pos bound]

theorem object?_acquire (pool : Pool α) (fresh : α) {index : Nat}
    (inside : index < pool.capacity) :
    (pool.acquire fresh).2.2.object? index = pool.object? index := by
  unfold acquire
  split
  · rename_i place search
    obtain ⟨slot, found, _⟩ := findFree?_some search
    have bound := (Array.getElem?_eq_some_iff.mp found).1
    simp only [object?, Array.getElem?_setIfInBounds, bound, if_true]
    split
    · rename_i same
      rw [← same, found]
      rfl
    · rfl
  · have bound : index < pool.slots.size := inside
    simp only [object?, Array.getElem?_push, Nat.ne_of_lt bound, if_false]

section

variable {σ : Type}

/-- What a visitor makes of slots that it is shown one after the other: what it ends with, and what
it answers for each of them. -/
def visitAll (visitor : σ → Nat → α → σ × α × SlotFate) (state : σ) :
    List (Nat × α) → σ × List (Nat × α × SlotFate)
  | [] => (state, [])
  | (index, object) :: rest =>
    let (next, answer) := visitor state index object
    let (last, answers) := visitAll visitor next rest
    (last, (index, answer) :: answers)

theorem visitAll_concat (visitor : σ → Nat → α → σ × α × SlotFate) (state : σ)
    (slots : List (Nat × α)) (index : Nat) (object : α) :
    visitAll visitor state (slots ++ [(index, object)]) =
      ((visitor (visitAll visitor state slots).1 index object).1,
        (visitAll visitor state slots).2 ++
          [(index, (visitor (visitAll visitor state slots).1 index object).2)]) := by
  induction slots generalizing state with
  | nil => rfl
  | cons slot rest ih =>
    obtain ⟨place, held⟩ := slot
    simp only [List.cons_append, visitAll, ih]

/-- Every slot that is shown gets one answer, in the order in which they are shown. -/
theorem visitAll_indices (visitor : σ → Nat → α → σ × α × SlotFate) (state : σ)
    (slots : List (Nat × α)) :
    (visitAll visitor state slots).2.map Prod.fst = slots.map Prod.fst := by
  induction slots generalizing state with
  | nil => rfl
  | cons slot rest ih =>
    obtain ⟨place, held⟩ := slot
    simp only [visitAll, List.map_cons, ih]

/-- The locked slots below an index, in order. -/
def lockedBelow (pool : Pool α) (bound : Nat) : List (Nat × α) :=
  (List.range bound).filterMap fun index => (pool.get? index).map (index, ·)

theorem mem_lockedBelow {pool : Pool α} {bound index : Nat} {object : α} :
    (index, object) ∈ pool.lockedBelow bound ↔
      index < bound ∧ pool.get? index = some object := by
  simp only [lockedBelow, List.mem_filterMap, List.mem_range, Option.map_eq_some_iff,
    Prod.mk.injEq]
  constructor
  · rintro ⟨_, below, _, found, rfl, rfl⟩
    exact ⟨below, found⟩
  · rintro ⟨below, found⟩
    exact ⟨index, below, object, found, rfl, rfl⟩

theorem lockedBelow_succ (pool : Pool α) (bound : Nat) :
    pool.lockedBelow (bound + 1) =
      pool.lockedBelow bound ++ ((pool.get? bound).map (bound, ·)).toList := by
  rw [lockedBelow, List.range_succ, List.filterMap_append]
  cases found : pool.get? bound with
  | none => simp only [lockedBelow, List.filterMap_cons, found, Option.map_none, List.filterMap_nil,
      Option.toList_none]
  | some object => simp only [lockedBelow, List.filterMap_cons, found, Option.map_some,
      List.filterMap_nil, Option.toList_some]

theorem mem_locked {pool : Pool α} {index : Nat} {object : α} :
    (index, object) ∈ pool.locked ↔ pool.get? index = some object := by
  rw [show pool.locked = pool.lockedBelow pool.capacity from rfl, mem_lockedBelow,
    and_iff_right_of_imp lt_capacity_of_get?]

/-- The locked slots are listed by ascending indices, and so none is listed twice. -/
theorem locked_ascending (pool : Pool α) :
    (pool.locked.map Prod.fst).Pairwise (· < ·) := by
  have kept : pool.locked.map Prod.fst =
      (List.range pool.capacity).filter fun index => (pool.get? index).isSome := by
    rw [Pool.locked, List.map_filterMap, ← List.filterMap_eq_filter]
    refine List.filterMap_congr fun index _ => ?_
    cases found : pool.get? index with
    | none => simp [Option.guard, found]
    | some object => simp [Option.guard, found]
  rw [kept]
  exact List.pairwise_lt_range.filter _

theorem slots_leave {pool : Pool α} {place : Nat} {old : α} (found : pool.get? place = some old)
    (index : Nat) (object : α) (fate : SlotFate) :
    (pool.leave place object fate).slots[index]? =
      if place = index then some ⟨object, decide (fate = .keep)⟩ else pool.slots[index]? := by
  have put (other : Nat) : (pool.set place object).slots[other]? =
      if place = other then some ⟨object, true⟩ else pool.slots[other]? := by
    rw [get?_eq, Option.bind_eq_some_iff] at found
    obtain ⟨slot, there, content⟩ := found
    have locked : slot.locked = true := by
      by_contra free
      rw [if_neg free] at content
      cases content
    simp only [set, modify, Array.getElem?_modify]
    split
    · rename_i same
      rw [← same, there, Option.map_some, if_pos locked, locked]
    · rfl
  unfold leave
  cases fate with
  | keep =>
    rw [if_neg (by decide), put]
    rfl
  | release =>
    have held : (pool.set place object).get? place = some object := by
      rw [get?_set, if_pos rfl, found, Option.map_some]
    have inside : place < (pool.set place object).slots.size := lt_capacity_of_get? held
    simp only [if_true, release, held, Array.getElem?_setIfInBounds, inside, put]
    split
    · rfl
    · rfl

/-- A pass that has come to an index: the slots below it are as the visitor left them, all others
as they were. -/
structure SweptTo (pool : Pool α) (visitor : σ → Nat → α → σ × α × SlotFate) (state : σ)
    (bound : Nat) (reached : σ) (now : Pool α) : Prop where
  gathered : reached = (visitAll visitor state (pool.lockedBelow bound)).1
  left : ∀ index object fate,
    (index, object, fate) ∈ (visitAll visitor state (pool.lockedBelow bound)).2 →
      now.slots[index]? = some ⟨object, decide (fate = .keep)⟩
  others : ∀ index, pool.get? index = none ∨ bound ≤ index →
    now.slots[index]? = pool.slots[index]?

section

variable {pool now : Pool α} {visitor : σ → Nat → α → σ × α × SlotFate} {state reached : σ}
  {bound : Nat}

theorem SweptTo.get? (swept : pool.SweptTo visitor state bound reached now) :
    now.get? bound = pool.get? bound := by
  rw [get?_eq, get?_eq, swept.others bound (.inr (Nat.le_refl bound))]

theorem SweptTo.skip (swept : pool.SweptTo visitor state bound reached now)
    (free : now.get? bound = none) : pool.SweptTo visitor state (bound + 1) reached now := by
  have same : pool.lockedBelow (bound + 1) = pool.lockedBelow bound := by
    rw [lockedBelow_succ, ← swept.get?, free]
    exact List.append_nil _
  constructor
  case gathered =>
    rw [same]
    exact swept.gathered
  case left =>
    rw [same]
    exact swept.left
  case others =>
    rintro index (never | later)
    · exact swept.others index (.inl never)
    · exact swept.others index (.inr (by omega))

theorem SweptTo.visit (swept : pool.SweptTo visitor state bound reached now) {object : α}
    (found : now.get? bound = some object) :
    pool.SweptTo visitor state (bound + 1) (visitor reached bound object).1
      (now.leave bound (visitor reached bound object).2.1 (visitor reached bound object).2.2) := by
  have there : pool.get? bound = some object := swept.get?.symm.trans found
  have more : pool.lockedBelow (bound + 1) = pool.lockedBelow bound ++ [(bound, object)] := by
    rw [lockedBelow_succ, there]
    rfl
  constructor
  case gathered => rw [more, visitAll_concat, swept.gathered]
  case left =>
    intro index last fate member
    rw [slots_leave found]
    rw [more, visitAll_concat, ← swept.gathered, List.mem_append, List.mem_singleton] at member
    rcases member with earlier | latest
    · have shown : index ∈ (pool.lockedBelow bound).map Prod.fst := by
        rw [← visitAll_indices visitor state]
        exact List.mem_map.mpr ⟨_, earlier, rfl⟩
      obtain ⟨⟨_, first⟩, among, rfl⟩ := List.mem_map.mp shown
      have below := (mem_lockedBelow.mp among).1
      rw [if_neg (by omega)]
      exact swept.left _ last fate earlier
    · obtain ⟨rfl, answer⟩ := Prod.mk.inj latest
      rw [if_pos rfl, ← answer]
  case others =>
    intro index which
    have apart : bound ≠ index := by
      rintro rfl
      rcases which with never | later
      · rw [there] at never
        cases never
      · omega
    rw [slots_leave found, if_neg apart]
    rcases which with never | later
    · exact swept.others index (.inl never)
    · exact swept.others index (.inr (by omega))

end

/-- A pass shows its visitor the slots that were locked as it began, each once and in order. It
leaves in each the object of the answer, locked unless the answer was to release it. -/
theorem sweep_visits (pool : Pool α) (visitor : σ → Nat → α → σ × α × SlotFate) (state : σ) :
    pool.SweptTo visitor state pool.capacity (pool.sweep visitor state).1
      (pool.sweep visitor state).2 := by
  have start : pool.SweptTo visitor state 0 state pool := by
    constructor
    case gathered => rfl
    case left => exact fun _ _ _ member => absurd member List.not_mem_nil
    case others => exact fun _ _ => rfl
  exact sweep_invariant (pool.SweptTo visitor state) (fun free swept => swept.skip free)
    (fun found swept => swept.visit found) start

end

/-- The number of locked slots. -/
theorem length_locked (pool : Pool α) : pool.locked.length = pool.tally fun _ => true := by
  rw [tally, List.countP_true]

/-- The count of the locked slots that a pool keeps is right. -/
def Counted (pool : Pool α) : Prop := pool.lockedCount = pool.locked.length

theorem empty_counted (kind : String) : (empty kind : Pool α).Counted := rfl

theorem Counted.of_get? {before after : Pool α} (counted : before.Counted)
    (count : after.lockedCount = before.lockedCount)
    (same : ∀ index, (after.get? index).isSome = (before.get? index).isSome) : after.Counted := by
  unfold Counted
  rw [count, counted, length_locked, length_locked]
  refine (tally_congr fun index => ?_).symm
  have both := same index
  cases pool : after.get? index <;> cases old : before.get? index <;> simp_all

theorem Counted.prefillWith {pool : Pool α} (counted : pool.Counted) (capacity : Nat)
    (make : Nat → α) : (pool.prefillWith capacity make).Counted :=
  counted.of_get? rfl fun index => by rw [get?_prefillWith]

theorem Counted.modify {pool : Pool α} (counted : pool.Counted) (place : Nat)
    (change : α → α) : (pool.modify place change).Counted :=
  counted.of_get? rfl fun index => by
    rw [get?_modify]
    split
    · rw [Option.isSome_map]
    · rfl

theorem Counted.acquire {pool : Pool α} (counted : pool.Counted) (fresh : α) :
    (pool.acquire fresh).2.2.Counted := by
  have more : (pool.acquire fresh).2.2.lockedCount = pool.lockedCount + 1 := by
    unfold Pool.acquire
    split
    · rfl
    · rfl
  have change := tally_change pool (pool.acquire fresh).2.2 (pool.acquire fresh).1
    (fun _ => true) fun index other => by rw [get?_acquire, if_neg other]
  rw [acquire_free, get?_acquire, if_pos rfl] at change
  unfold Counted at *
  rw [length_locked] at *
  simp only [Option.any_none, Option.any_some, Bool.toNat_true, Bool.toNat_false] at change
  omega

theorem Counted.release {pool : Pool α} (counted : pool.Counted) (index : Nat) :
    (pool.release index).2.Counted := by
  cases found : pool.get? index with
  | none =>
    rw [Pool.release, found]
    exact counted
  | some object =>
    have fewer : (pool.release index).2.lockedCount = pool.lockedCount - 1 := by
      rw [Pool.release, found]
    have change := tally_change pool (pool.release index).2 index (fun _ => true)
      fun other apart => by rw [get?_release, if_neg (Ne.symm apart)]
    rw [get?_release, if_pos rfl, found] at change
    unfold Counted at *
    rw [length_locked] at *
    simp only [Option.any_none, Option.any_some, Bool.toNat_true, Bool.toNat_false] at change
    omega

theorem releaseAll_counted (pool : Pool α) : pool.releaseAll.Counted := by
  unfold Counted
  rw [releaseAll_locked]
  rfl

theorem Counted.sweep {σ : Type} {pool : Pool α} (counted : pool.Counted)
    (visitor : σ → Nat → α → σ × α × SlotFate) (state : σ) :
    (pool.sweep visitor state).2.Counted := by
  refine sweep_invariant (fun _ _ pool => pool.Counted) (fun _ held => held) ?_ counted
  intro index state pool object _ held
  unfold leave
  split
  · exact (held.modify _ _).release _
  · exact held.modify _ _

/-- What every operation restores. -/
structure Sound (pool : Pool α) : Prop where
  counted : pool.Counted
  tight : pool.Tight

theorem Sound.apply {pool : Pool α} (sound : pool.Sound) (operation : Operation α) :
    (operation.apply pool).Sound := by
  obtain ⟨counted, tight⟩ := sound
  cases operation with
  | prefill capacity make =>
    exact ⟨counted.prefillWith capacity make, tight.prefillWith capacity make⟩
  | acquire fresh => exact ⟨counted.acquire fresh, tight.acquire fresh⟩
  | release index => exact ⟨counted.release index, tight.release index⟩
  | releaseAll => exact ⟨pool.releaseAll_counted, pool.releaseAll_tight⟩
  | sweep visitor state => exact ⟨counted.sweep visitor state, tight.sweep visitor state⟩
  | write index change => exact ⟨counted.modify index change, tight.modify index change⟩

theorem run_sound (kind : String) (operations : List (Operation α)) :
    (run kind operations).Sound := by
  have from_ (pool : Pool α) (sound : pool.Sound) :
      (operations.foldl Operation.apply pool).Sound := by
    induction operations generalizing pool with
    | nil => exact sound
    | cons operation rest ih => exact ih _ (sound.apply operation)
  exact from_ (empty kind) ⟨empty_counted kind, empty_tight kind⟩

theorem slots_acquire (pool : Pool α) (fresh : α) (index : Nat) :
    (pool.acquire fresh).2.2.slots[index]? =
      if index = (pool.acquire fresh).1 then some ⟨(pool.acquire fresh).2.1, true⟩
      else pool.slots[index]? := by
  unfold acquire
  split
  · rename_i place search
    obtain ⟨slot, found, _⟩ := findFree?_some search
    have inside := (Array.getElem?_eq_some_iff.mp found).1
    simp only [Array.getElem?_setIfInBounds, inside, if_true, eq_comm (a := place)]
  · simp only [Array.getElem?_push, capacity]
    rfl

theorem acquire_of_free {pool : Pool α} (tight : pool.Tight) (fresh : α)
    (some_ : ∃ index, pool.Free index) :
    pool.Free (pool.acquire fresh).1 ∧
      (∀ index, pool.Free index → (pool.acquire fresh).1 ≤ index) ∧
      (pool.acquire fresh).2.2.capacity = pool.capacity := by
  have least (index : Nat) (free : pool.Free index) : (pool.acquire fresh).1 ≤ index := by
    by_contra above
    have used := (acquire_next tight fresh).2 index (by omega)
    rw [free.2] at used
    cases used
  obtain ⟨spare, inside, free⟩ := some_
  have low := least spare ⟨inside, free⟩
  refine ⟨⟨by omega, pool.acquire_free fresh⟩, least, ?_⟩
  unfold acquire
  cases search : pool.findFree? with
  | none =>
    have used := findFree?_none search spare inside
    rw [free] at used
    cases used
  | some index => simp only [capacity, Array.size_setIfInBounds]

theorem acquire_of_full {pool : Pool α} (fresh : α) (full : ¬∃ index, pool.Free index) :
    (pool.acquire fresh).1 = pool.capacity ∧ (pool.acquire fresh).2.1 = fresh ∧
      (pool.acquire fresh).2.2.capacity = pool.capacity + 1 := by
  unfold acquire
  cases search : pool.findFree? with
  | none => exact ⟨rfl, rfl, Array.size_push _⟩
  | some index =>
    obtain ⟨slot, found, free⟩ := findFree?_some search
    refine absurd ⟨index, (Array.getElem?_eq_some_iff.mp found).1, ?_⟩ full
    rw [get?_eq, found, Option.bind_some, free]
    rfl

theorem release_eq_true {pool : Pool α} {index : Nat} :
    (pool.release index).1 = true ↔ ∃ object, pool.get? index = some object := by
  rw [release]
  cases pool.get? index with
  | none => simp only [Bool.false_eq_true, reduceCtorEq, exists_false]
  | some object => simp only [Option.some.injEq, exists_eq']

theorem capacity_le_acquire (pool : Pool α) (fresh : α) :
    pool.capacity ≤ (pool.acquire fresh).2.2.capacity := by
  unfold acquire capacity
  split
  · exact Nat.le_of_eq Array.size_setIfInBounds.symm
  · rw [Array.size_push]
    exact Nat.le_succ _

/-- No slot is ever removed. -/
theorem capacity_le_apply (pool : Pool α) (operation : Operation α) :
    pool.capacity ≤ (operation.apply pool).capacity := by
  cases operation with
  | prefill capacity make =>
    show pool.slots.size ≤ (pool.prefillWith capacity make).slots.size
    rw [prefillWith, Array.size_append]
    exact Nat.le_add_right _ _
  | acquire fresh => exact pool.capacity_le_acquire fresh
  | release index => exact Nat.le_of_eq (pool.capacity_release index).symm
  | releaseAll => exact Nat.le_of_eq (Array.size_map ..).symm
  | sweep visitor state => exact Nat.le_of_eq (pool.capacity_sweep visitor state).symm
  | write index change => exact Nat.le_of_eq (pool.capacity_modify index change).symm

/-- An object is only changed by an operation that is given its slot. -/
theorem object?_apply (pool : Pool α) (operation : Operation α) {index : Nat}
    (inside : index < pool.capacity) (kept : ¬operation.Gives pool index) :
    (operation.apply pool).object? index = pool.object? index := by
  cases operation with
  | prefill capacity make => exact pool.object?_prefillWith capacity make inside
  | acquire fresh => exact pool.object?_acquire fresh inside
  | release place => exact pool.object?_release place index
  | releaseAll => exact pool.object?_releaseAll index
  | sweep visitor state =>
    have free : pool.get? index = none := by
      cases found : pool.get? index with
      | none => rfl
      | some object => exact absurd ⟨object, found⟩ kept
    have same := (pool.sweep_visits visitor state).others index (.inl free)
    rw [object?, Operation.apply, same, object?]
  | write place change =>
    rw [Operation.apply, object?_modify, if_neg]
    rintro ⟨rfl, used⟩
    exact kept ⟨rfl, Option.isSome_iff_exists.mp used⟩

/-- What the users of a pool rely on. -/
structure Lawful (pool : Pool α) : Prop where
  counted : pool.lockedCount = pool.locked.length
  hinted : ∀ index < pool.firstFree, ∃ object, pool.get? index = some object
  reuses : ∀ fresh, (∃ index, pool.Free index) →
    pool.Free (pool.acquire fresh).1 ∧
      (∀ index, pool.Free index → (pool.acquire fresh).1 ≤ index) ∧
      (pool.acquire fresh).2.2.capacity = pool.capacity
  grows : ∀ fresh, (¬∃ index, pool.Free index) →
    (pool.acquire fresh).1 = pool.capacity ∧ (pool.acquire fresh).2.1 = fresh ∧
      (pool.acquire fresh).2.2.capacity = pool.capacity + 1
  acquires : ∀ fresh index, (pool.acquire fresh).2.2.slots[index]? =
    if index = (pool.acquire fresh).1 then some ⟨(pool.acquire fresh).2.1, true⟩
    else pool.slots[index]?
  released : ∀ index, (pool.release index).1 = true ↔ ∃ object, pool.get? index = some object
  releases : ∀ place index, (pool.release place).2.slots[index]? =
    if place = index then pool.slots[index]?.map fun slot => ⟨slot.object, false⟩
    else pool.slots[index]?
  clears : pool.releaseAll.locked = []
  stays : ∀ (operation : Operation α) (index : Nat), index < pool.capacity →
    index < (operation.apply pool).capacity ∧
      (¬operation.Gives pool index → (operation.apply pool).object? index = pool.object? index)
  writes : ∀ place change index, (pool.modify place change).object? index =
    if place = index ∧ (pool.get? index).isSome then (pool.object? index).map change
    else pool.object? index
  listed : ∀ index object, (index, object) ∈ pool.locked ↔ pool.get? index = some object
  ordered : (pool.locked.map Prod.fst).Pairwise (· < ·)
  sweeps : ∀ {σ : Type} (visitor : σ → Nat → α → σ × α × SlotFate) (state : σ),
    (pool.sweep visitor state).1 = (visitAll visitor state pool.locked).1 ∧
      (visitAll visitor state pool.locked).2.map Prod.fst = pool.locked.map Prod.fst ∧
      (∀ index object fate,
        (index, object, fate) ∈ (visitAll visitor state pool.locked).2 →
          (pool.sweep visitor state).2.slots[index]? = some ⟨object, decide (fate = .keep)⟩) ∧
      ∀ index, pool.get? index = none →
        (pool.sweep visitor state).2.slots[index]? = pool.slots[index]?

/-- A pool that was put together by its operations keeps every promise, whatever their order. -/
theorem run_lawful (kind : String) (operations : List (Operation α)) :
    (run kind operations).Lawful := by
  obtain ⟨counted, tight⟩ := run_sound kind operations
  generalize run kind operations = pool at counted tight
  constructor
  case counted => exact counted
  case hinted =>
    intro index below
    exact Option.isSome_iff_exists.mp (tight index below)
  case reuses => exact fun fresh free => acquire_of_free tight fresh free
  case grows => exact fun fresh full => acquire_of_full fresh full
  case acquires => exact pool.slots_acquire
  case released => exact fun _ => release_eq_true
  case releases => exact pool.slots_release
  case clears => exact pool.releaseAll_locked
  case stays =>
    intro operation index inside
    have remains := pool.capacity_le_apply operation
    exact ⟨by omega, pool.object?_apply operation inside⟩
  case writes => exact fun place change index => pool.object?_modify place index change
  case listed => exact fun _ _ => mem_locked
  case ordered => exact pool.locked_ascending
  case sweeps =>
    intro σ visitor state
    have swept := pool.sweep_visits visitor state
    refine ⟨swept.gathered, visitAll_indices visitor state pool.locked, swept.left, ?_⟩
    intro index free
    exact swept.others index (.inl free)

end Sortie.Pool
