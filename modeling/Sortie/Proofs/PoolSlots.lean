import Sortie.Effects.Pools

set_option autoImplicit false

namespace Sortie.Pool

variable {α : Type}

theorem get?_eq (pool : Pool α) (index : Nat) :
    pool.get? index = (pool.slots[index]?).bind fun slot =>
      if slot.locked then some slot.object else none := by
  unfold get?
  cases pool.slots[index]? <;> rfl

theorem get?_eq_none_of_le {pool : Pool α} {index : Nat} (outside : pool.capacity ≤ index) :
    pool.get? index = none := by
  rw [get?_eq, Array.getElem?_eq_none outside, Option.bind_none]

theorem lt_capacity_of_get? {pool : Pool α} {index : Nat} {object : α}
    (found : pool.get? index = some object) : index < pool.capacity := by
  refine Nat.lt_of_not_le fun outside => ?_
  rw [get?_eq_none_of_le outside] at found
  cases found

theorem get?_modify (pool : Pool α) (place index : Nat) (change : α → α) :
    (pool.modify place change).get? index =
      if place = index then (pool.get? index).map change else pool.get? index := by
  simp only [get?_eq, modify, Array.getElem?_modify]
  split
  · cases pool.slots[index]? with
    | none => rfl
    | some slot => cases locked : slot.locked <;> simp [locked]
  · rfl

theorem get?_set (pool : Pool α) (place index : Nat) (object : α) :
    (pool.set place object).get? index =
      if place = index then (pool.get? index).map fun _ => object else pool.get? index :=
  get?_modify pool place index _

theorem get?_release (pool : Pool α) (place index : Nat) :
    (pool.release place).2.get? index = if place = index then none else pool.get? index := by
  unfold release
  cases found : pool.get? place with
  | none =>
    dsimp only
    split
    · rename_i same
      rw [← same, found]
    · rfl
  | some object =>
    have inside : place < pool.slots.size := lt_capacity_of_get? found
    simp only [get?_eq, Array.getElem?_setIfInBounds, inside, if_true]
    split
    · rfl
    · rfl

theorem get?_releaseAll (pool : Pool α) (index : Nat) : pool.releaseAll.get? index = none := by
  simp only [get?_eq, releaseAll, Array.getElem?_map]
  cases pool.slots[index]? <;> rfl

theorem get?_mapLocked (pool : Pool α) (change : α → α) (index : Nat) :
    (pool.mapLocked change).get? index = (pool.get? index).map change := by
  simp only [get?_eq, mapLocked, Array.getElem?_map]
  cases pool.slots[index]? with
  | none => rfl
  | some slot => cases locked : slot.locked <;> simp [locked]

theorem get?_prefillWith (pool : Pool α) (capacity : Nat) (make : Nat → α) (index : Nat) :
    (pool.prefillWith capacity make).get? index = pool.get? index := by
  simp only [get?_eq, prefillWith, Array.getElem?_append]
  split
  · rfl
  · rename_i outside
    rw [Array.getElem?_eq_none (Nat.le_of_not_lt outside), Array.getElem?_ofFn]
    split <;> rfl

/-- No slot below the first that may be free is free. -/
def Tight (pool : Pool α) : Prop := ∀ index < pool.firstFree, (pool.get? index).isSome = true

/-- The least slot that is not locked. -/
def Next (pool : Pool α) (index : Nat) : Prop :=
  pool.get? index = none ∧ ∀ below < index, (pool.get? below).isSome = true

theorem Next.unique {one other : Pool α} (same : ∀ index, other.get? index = one.get? index)
    {first second : Nat} (next : one.Next first) (nextOther : other.Next second) :
    second = first := by
  obtain ⟨free, locked⟩ := next
  obtain ⟨freeOther, lockedOther⟩ := nextOther
  rcases Nat.lt_trichotomy second first with before | equal | after
  · have used := locked second before
    rw [← same, freeOther] at used
    cases used
  · exact equal
  · have used := lockedOther first after
    rw [same, free] at used
    cases used

theorem nextFree?_some {slots : Array (Slot α)} {start index : Nat}
    (found : nextFree? slots start = some index) :
    (∃ slot, slots[index]? = some slot ∧ slot.locked = false) ∧
      ∀ below, start ≤ below → below < index →
        ∃ slot, slots[below]? = some slot ∧ slot.locked = true := by
  fun_induction nextFree? slots start with
  | case1 start inside locked ih =>
    obtain ⟨free, used⟩ := ih found
    refine ⟨free, ?_⟩
    intro below low high
    rcases Nat.eq_or_lt_of_le low with same | later
    · subst same
      exact ⟨_, Array.getElem?_eq_getElem inside, locked⟩
    · exact used below later high
  | case2 start inside free =>
    cases found
    refine ⟨⟨_, Array.getElem?_eq_getElem inside, by simpa using free⟩, ?_⟩
    intro below low high
    omega
  | case3 start outside => cases found

theorem nextFree?_none {slots : Array (Slot α)} {start : Nat}
    (none_ : nextFree? slots start = none) :
    ∀ index, start ≤ index → index < slots.size →
      ∃ slot, slots[index]? = some slot ∧ slot.locked = true := by
  fun_induction nextFree? slots start with
  | case1 start inside locked ih =>
    intro index low high
    rcases Nat.eq_or_lt_of_le low with same | later
    · subst same
      exact ⟨_, Array.getElem?_eq_getElem inside, locked⟩
    · exact ih none_ index later high
  | case2 start inside free => cases none_
  | case3 start outside =>
    intro index low high
    omega

/-- There is nothing to find beyond the last slot. -/
theorem nextFree?_beyond {slots : Array (Slot α)} {start : Nat} (beyond : slots.size ≤ start) :
    nextFree? slots start = none := by
  rw [nextFree?, dif_neg (Nat.not_lt.mpr beyond)]

theorem get?_of_locked {pool : Pool α} {index : Nat}
    (locked : ∃ slot, pool.slots[index]? = some slot ∧ slot.locked = true) :
    (pool.get? index).isSome = true := by
  obtain ⟨slot, found, locked⟩ := locked
  rw [get?_eq, found, Option.bind_some, if_pos locked]
  rfl

theorem findFree?_some {pool : Pool α} {index : Nat} (found : pool.findFree? = some index) :
    ∃ slot, pool.slots[index]? = some slot ∧ slot.locked = false := by
  unfold findFree? at found
  split at found
  · rename_i search
    cases found
    exact (nextFree?_some search).1
  · exact (nextFree?_some found).1

/-- The search finds nothing in a full pool only, whatever it starts from. -/
theorem findFree?_none {pool : Pool α} (none_ : pool.findFree? = none) :
    ∀ index < pool.capacity, (pool.get? index).isSome = true := by
  unfold findFree? at none_
  split at none_
  · cases none_
  · intro index inside
    exact get?_of_locked (nextFree?_none none_ index (Nat.zero_le index) inside)

/-- No locked slot is handed out. -/
theorem acquire_free (pool : Pool α) (fresh : α) : pool.get? (pool.acquire fresh).1 = none := by
  unfold acquire
  cases search : pool.findFree? with
  | none => exact get?_eq_none_of_le (Nat.le_refl _)
  | some index =>
    obtain ⟨slot, found, free⟩ := findFree?_some search
    show pool.get? index = none
    rw [get?_eq, found, Option.bind_some, free]
    rfl

/-- A tight pool hands out its least slot that is not locked. -/
theorem acquire_next {pool : Pool α} (tight : pool.Tight) (fresh : α) :
    pool.Next (pool.acquire fresh).1 := by
  refine ⟨pool.acquire_free fresh, ?_⟩
  unfold acquire
  cases search : pool.findFree? with
  | none => exact findFree?_none search
  | some index =>
    intro below high
    unfold findFree? at search
    split at search
    · rename_i found
      cases search
      by_cases low : below < pool.firstFree
      · exact tight below low
      · exact get?_of_locked ((nextFree?_some found).2 below (Nat.le_of_not_lt low) high)
    · exact get?_of_locked ((nextFree?_some search).2 below (Nat.zero_le below) high)

theorem acquire_firstFree (pool : Pool α) (fresh : α) :
    (pool.acquire fresh).2.2.firstFree = (pool.acquire fresh).1 + 1 := by
  unfold acquire
  split
  · rfl
  · rfl

theorem get?_acquire (pool : Pool α) (fresh : α) (index : Nat) :
    (pool.acquire fresh).2.2.get? index =
      if index = (pool.acquire fresh).1 then some (pool.acquire fresh).2.1
      else pool.get? index := by
  unfold acquire
  cases search : pool.findFree? with
  | none =>
    simp only [get?_eq, Array.getElem?_push, capacity]
    split
    · rfl
    · rfl
  | some place =>
    obtain ⟨slot, found, _⟩ := findFree?_some search
    have inside := (Array.getElem?_eq_some_iff.mp found).1
    simp only [get?_eq, Array.getElem?_setIfInBounds, inside, if_true, eq_comm (a := place)]
    split
    · rfl
    · rfl

/-- What is renewed is what was left in the slot, reset. -/
theorem get?_renew (pool : Pool α) (fresh : α) (reset : α → α) (index : Nat) :
    (pool.renew fresh reset).2.get? index =
      if index = (pool.renew fresh reset).1 then some (reset (pool.acquire fresh).2.1)
      else pool.get? index := by
  show ((pool.acquire fresh).2.2.set (pool.acquire fresh).1 _).get? index =
    if index = (pool.acquire fresh).1 then _ else _
  rw [get?_set, get?_acquire]
  by_cases same : index = (pool.acquire fresh).1
  · rw [if_pos same.symm, if_pos same, if_pos same, Option.map_some]
    rfl
  · rw [if_neg (Ne.symm same), if_neg same, if_neg same]

theorem renew_free (pool : Pool α) (fresh : α) (reset : α → α) :
    pool.get? (pool.renew fresh reset).1 = none :=
  pool.acquire_free fresh

theorem capacity_modify (pool : Pool α) (index : Nat) (change : α → α) :
    (pool.modify index change).capacity = pool.capacity := by
  simp only [capacity, Pool.modify, Array.size_modify]

theorem capacity_release (pool : Pool α) (index : Nat) :
    (pool.release index).2.capacity = pool.capacity := by
  unfold Pool.release capacity
  split
  · simp only [Array.size_setIfInBounds]
  · rfl

/-- A pool after one visit of a pass: the visitor leaves an object in the slot, which is freed if it
is done with it. -/
def leave (pool : Pool α) (index : Nat) (object : α) (fate : SlotFate) : Pool α :=
  if fate = .release then ((pool.set index object).release index).2 else pool.set index object

theorem get?_leave (pool : Pool α) (place index : Nat) (object : α) (fate : SlotFate) :
    (pool.leave place object fate).get? index =
      if place = index then
        if fate = .release then none else (pool.get? index).map fun _ => object
      else pool.get? index := by
  unfold leave
  by_cases done : fate = .release
  · simp only [done, if_true, get?_release, get?_set]
    split
    · rfl
    · rfl
  · simp only [done, if_false, get?_set]

theorem capacity_leave (pool : Pool α) (index : Nat) (object : α) (fate : SlotFate) :
    (pool.leave index object fate).capacity = pool.capacity := by
  unfold leave set
  split
  · rw [capacity_release, capacity_modify]
  · rw [capacity_modify]

section

variable {σ : Type} {visitor : σ → Nat → α → σ × α × SlotFate}

theorem sweepFrom_skip {pool : Pool α} {index : Nat} (free : pool.get? index = none) (state : σ)
    (remaining : Nat) :
    sweepFrom visitor state pool index (remaining + 1) =
      sweepFrom visitor state pool (index + 1) remaining := by
  rw [sweepFrom, free]

theorem sweepFrom_visit {pool : Pool α} {index : Nat} {object : α}
    (found : pool.get? index = some object) (state : σ) (remaining : Nat) :
    sweepFrom visitor state pool index (remaining + 1) =
      sweepFrom visitor (visitor state index object).1
        (pool.leave index (visitor state index object).2.1 (visitor state index object).2.2)
        (index + 1) remaining := by
  rw [sweepFrom, found]
  rfl

/-- What holds before a pass and is kept as it skips a free slot and as it visits a locked one holds
after the pass, where it has come to the end of the slots. -/
theorem sweep_invariant (holds : Nat → σ → Pool α → Prop)
    (skip : ∀ {index state pool}, pool.get? index = none → holds index state pool →
      holds (index + 1) state pool)
    (visit : ∀ {index state pool object}, pool.get? index = some object →
      holds index state pool →
      holds (index + 1) (visitor state index object).1
        (pool.leave index (visitor state index object).2.1 (visitor state index object).2.2))
    {pool : Pool α} {state : σ} (held : holds 0 state pool) :
    holds pool.capacity (pool.sweep visitor state).1 (pool.sweep visitor state).2 := by
  have from_ (remaining : Nat) : ∀ {index state pool}, holds index state pool →
      holds (index + remaining) (sweepFrom visitor state pool index remaining).1
        (sweepFrom visitor state pool index remaining).2 := by
    induction remaining with
    | zero =>
      intro index state pool held
      exact held
    | succ remaining ih =>
      intro index state pool held
      rw [show index + (remaining + 1) = index + 1 + remaining by omega]
      cases found : pool.get? index with
      | none =>
        rw [sweepFrom_skip found]
        exact ih (skip found held)
      | some object =>
        rw [sweepFrom_visit found]
        exact ih (visit found held)
  have swept := from_ pool.capacity held
  rw [Nat.zero_add] at swept
  exact swept

/-- What a visitor keeps holds after a pass. -/
theorem sweep_keeps (visitor : σ → Nat → α → σ × α × SlotFate) (holds : σ → Prop)
    (kept : ∀ state index object, holds state → holds (visitor state index object).1)
    (pool : Pool α) (state : σ) (held : holds state) : holds (pool.sweep visitor state).1 :=
  sweep_invariant (fun _ state _ => holds state) (fun _ held => held)
    (fun _ held => kept _ _ _ held) held
/-- A pass adds no slot and removes none. -/
theorem capacity_sweep (pool : Pool α) (visitor : σ → Nat → α → σ × α × SlotFate) (state : σ) :
    (pool.sweep visitor state).2.capacity = pool.capacity :=
  sweep_invariant (fun _ _ now => now.capacity = pool.capacity) (fun _ same => same)
    (fun _ same => (capacity_leave _ _ _ _).trans same) rfl

end

/-- What an update leaves of an object, if it is not done with it. -/
def updated (step : α → α × SlotFate) (object : α) : Option α :=
  if (step object).2 = .release then none else some (step object).1

theorem get?_update (pool : Pool α) (step : α → α × SlotFate) (index : Nat) :
    (pool.update step).get? index = (pool.get? index).bind (updated step) := by
  -- Below the slot that a pass has come to all are updated, and from there on none.
  have swept : ∀ index, (pool.update step).get? index =
      if index < pool.capacity then (pool.get? index).bind (updated step)
      else pool.get? index := by
    refine sweep_invariant (fun bound (_ : Unit) now => ∀ index, now.get? index =
      if index < bound then (pool.get? index).bind (updated step) else pool.get? index)
      ?_ ?_ ?_
    · intro bound _ now free held index
      have here := held bound
      rw [free, if_neg (Nat.lt_irrefl bound)] at here
      by_cases same : index = bound
      · rw [same, free, if_pos (Nat.lt_succ_self bound), ← here, Option.bind_none]
      · rw [held index]
        simp only [show index < bound + 1 ↔ index < bound by omega]
    · intro bound _ now object found held index
      have here := held bound
      rw [found, if_neg (Nat.lt_irrefl bound)] at here
      rw [get?_leave]
      by_cases same : bound = index
      · rw [← same, if_pos rfl, if_pos (Nat.lt_succ_self bound), ← here, found, Option.bind_some,
          updated, Option.map_some]
      · rw [if_neg same, held index]
        simp only [show index < bound + 1 ↔ index < bound by omega]
    · intro index
      rw [if_neg (Nat.not_lt_zero index)]
  rw [swept index]
  split
  · rfl
  · rename_i outside
    rw [get?_eq_none_of_le (Nat.le_of_not_lt outside), Option.bind_none]

/-- A slot with its object changed, if it is locked. -/
def slotChanged (change : α → α) (slot : Slot α) : Slot α :=
  if slot.locked then { slot with object := change slot.object } else slot

/-- A pool in a pass that keeps every slot: below `bound` all that are locked are changed, and from
there on none. -/
structure ChangedBelow (pool : Pool α) (change : α → α) (bound : Nat) (now : Pool α) : Prop where
  kind : now.kind = pool.kind
  lockedCount : now.lockedCount = pool.lockedCount
  firstFree : now.firstFree = pool.firstFree
  slots : ∀ index, now.slots[index]? =
    if index < bound then (pool.slots[index]?).map (slotChanged change) else pool.slots[index]?

theorem ChangedBelow.skip {pool now : Pool α} {change : α → α} {bound : Nat}
    (free : now.get? bound = none) (held : pool.ChangedBelow change bound now) :
    pool.ChangedBelow change (bound + 1) now := by
  refine ⟨held.kind, held.lockedCount, held.firstFree, fun index => ?_⟩
  rw [held.slots index]
  by_cases same : index = bound
  · subst same
    have here := held.slots index
    rw [if_neg (Nat.lt_irrefl index)] at here ⊢
    rw [get?_eq, here] at free
    rw [if_pos (Nat.lt_succ_self index)]
    cases found : pool.slots[index]? with
    | none => rfl
    | some slot =>
      rw [found, Option.bind_some] at free
      cases locked : slot.locked with
      | true => rw [locked] at free; cases free
      | false => rw [Option.map_some, slotChanged, locked]; rfl
  · simp only [show index < bound + 1 ↔ index < bound by omega]

theorem ChangedBelow.visit {pool now : Pool α} {change : α → α} {bound : Nat} {object : α}
    (found : now.get? bound = some object) (held : pool.ChangedBelow change bound now) :
    pool.ChangedBelow change (bound + 1) (now.leave bound (change object) .keep) := by
  refine ⟨held.kind, held.lockedCount, held.firstFree, fun index => ?_⟩
  show (now.slots.modify bound _)[index]? = _
  rw [Array.getElem?_modify, held.slots index]
  by_cases same : bound = index
  · subst same
    have here := held.slots bound
    rw [if_neg (Nat.lt_irrefl bound)] at here ⊢
    rw [get?_eq, here] at found
    rw [if_pos rfl, if_pos (Nat.lt_succ_self bound)]
    cases there : pool.slots[bound]? with
    | none => rfl
    | some slot =>
      rw [there, Option.bind_some] at found
      cases locked : slot.locked with
      | true =>
        rw [if_pos locked] at found
        cases found
        rw [Option.map_some, Option.map_some, slotChanged, if_pos locked]
      | false => rw [locked] at found; cases found
  · rw [if_neg same]
    simp only [show index < bound + 1 ↔ index < bound by omega]

/-- A pass that keeps every slot changes the locked ones, and only them. -/
theorem update_keep (pool : Pool α) (change : α → α) :
    pool.update (fun object => (change object, .keep)) = pool.mapLocked change := by
  have swept : pool.ChangedBelow change pool.capacity
      (pool.update fun object => (change object, .keep)) :=
    sweep_invariant (fun bound (_ : Unit) now => pool.ChangedBelow change bound now)
      ChangedBelow.skip ChangedBelow.visit ⟨rfl, rfl, rfl, fun _ => rfl⟩
  have slots : (pool.update fun object => (change object, .keep)).slots =
      pool.slots.map (slotChanged change) := by
    refine Array.ext_getElem? fun index => ?_
    rw [Array.getElem?_map, swept.slots index]
    split
    · rfl
    · rename_i outside
      rw [Array.getElem?_eq_none (Nat.le_of_not_lt outside), Option.map_none]
  calc pool.update (fun object => (change object, .keep))
    _ = ⟨pool.kind, pool.slots.map (slotChanged change), pool.lockedCount, pool.firstFree⟩ := by
      rw [← slots, ← swept.kind, ← swept.lockedCount, ← swept.firstFree]
    _ = pool.mapLocked change := rfl

theorem Tight.of_get? {before after : Pool α} (tight : before.Tight)
    (hint : after.firstFree ≤ before.firstFree)
    (kept : ∀ index < after.firstFree, (before.get? index).isSome = true →
      (after.get? index).isSome = true) : after.Tight :=
  fun index below => kept index below (tight index (Nat.lt_of_lt_of_le below hint))

theorem empty_tight (kind : String) : (empty kind : Pool α).Tight := by
  intro index below
  exact absurd below (Nat.not_lt_zero index)

theorem Tight.prefillWith {pool : Pool α} (tight : pool.Tight) (capacity : Nat)
    (make : Nat → α) : (pool.prefillWith capacity make).Tight :=
  tight.of_get? (Nat.le_refl _) fun index _ used => by
    rw [get?_prefillWith]
    exact used

theorem Tight.modify {pool : Pool α} (tight : pool.Tight) (place : Nat) (change : α → α) :
    (pool.modify place change).Tight :=
  tight.of_get? (Nat.le_refl _) fun index _ used => by
    rw [get?_modify]
    split
    · rw [Option.isSome_map]
      exact used
    · exact used

theorem Tight.set {pool : Pool α} (tight : pool.Tight) (place : Nat) (object : α) :
    (pool.set place object).Tight :=
  tight.modify place _

theorem Tight.mapLocked {pool : Pool α} (tight : pool.Tight) (change : α → α) :
    (pool.mapLocked change).Tight :=
  tight.of_get? (Nat.le_refl _) fun index _ used => by
    rw [get?_mapLocked, Option.isSome_map]
    exact used

theorem releaseAll_tight (pool : Pool α) : pool.releaseAll.Tight := by
  intro index below
  exact absurd below (Nat.not_lt_zero index)

theorem release_firstFree (pool : Pool α) (place : Nat) :
    (pool.release place).2.firstFree ≤ pool.firstFree ∧
      (pool.get? place ≠ none → (pool.release place).2.firstFree ≤ place) := by
  unfold release
  split
  · exact ⟨Nat.min_le_left _ _, fun _ => Nat.min_le_right _ _⟩
  · rename_i free
    exact ⟨Nat.le_refl _, fun used => absurd free used⟩

theorem Tight.release {pool : Pool α} (tight : pool.Tight) (place : Nat) :
    (pool.release place).2.Tight := by
  obtain ⟨lower, low⟩ := pool.release_firstFree place
  refine tight.of_get? lower fun index below used => ?_
  rw [get?_release, if_neg]
  · exact used
  · rintro rfl
    have bound := low (Option.isSome_iff_ne_none.mp used)
    omega

theorem Tight.acquire {pool : Pool α} (tight : pool.Tight) (fresh : α) :
    (pool.acquire fresh).2.2.Tight := by
  intro index below
  rw [acquire_firstFree] at below
  rw [get?_acquire]
  split
  · rfl
  · exact (acquire_next tight fresh).2 index (by omega)

theorem Tight.leave {pool : Pool α} (tight : pool.Tight) (index : Nat) (object : α)
    (fate : SlotFate) : (pool.leave index object fate).Tight := by
  unfold Pool.leave
  split
  · exact (tight.set index object).release index
  · exact tight.set index object

theorem Tight.sweep {σ : Type} {pool : Pool α} (tight : pool.Tight)
    (visitor : σ → Nat → α → σ × α × SlotFate) (state : σ) : (pool.sweep visitor state).2.Tight :=
  sweep_invariant (fun _ _ pool => pool.Tight) (fun _ held => held)
    (fun _ held => held.leave _ _ _) tight

/-- A pool as its users come by it: new, handed to them, or either one after any operations. -/
inductive Attained (handed : Pool α → Prop) : Pool α → Prop where
  | fresh (kind : String) : Attained handed (.empty kind)
  | handed {pool : Pool α} : handed pool → Attained handed pool
  | prefilled {pool : Pool α} (capacity : Nat) (make : Nat → α) : Attained handed pool →
      Attained handed (pool.prefillWith capacity make)
  | acquired {pool : Pool α} (fresh : α) : Attained handed pool →
      Attained handed (pool.acquire fresh).2.2
  | released {pool : Pool α} (index : Nat) : Attained handed pool →
      Attained handed (pool.release index).2
  | releasedAll {pool : Pool α} : Attained handed pool → Attained handed pool.releaseAll
  | modified {pool : Pool α} (index : Nat) (change : α → α) : Attained handed pool →
      Attained handed (pool.modify index change)
  | mapped {pool : Pool α} (change : α → α) : Attained handed pool →
      Attained handed (pool.mapLocked change)
  | swept {pool : Pool α} {σ : Type} (visitor : σ → Nat → α → σ × α × SlotFate) (state : σ) :
      Attained handed pool → Attained handed (pool.sweep visitor state).2

theorem Attained.tight {handed : Pool α → Prop} (tight : ∀ pool, handed pool → pool.Tight)
    {pool : Pool α} (attained : pool.Attained handed) : pool.Tight := by
  induction attained with
  | fresh kind => exact empty_tight kind
  | handed given => exact tight _ given
  | prefilled capacity make _ ih => exact ih.prefillWith capacity make
  | acquired fresh _ ih => exact ih.acquire fresh
  | released index _ ih => exact ih.release index
  | releasedAll _ _ => exact releaseAll_tight _
  | modified index change _ ih => exact ih.modify index change
  | mapped change _ ih => exact ih.mapLocked change
  | swept visitor state _ ih => exact ih.sweep visitor state

/-- Two pools with the same objects in the same locked slots. -/
structure Alike (one other : Pool α) : Prop where
  tight : one.Tight
  tightOther : other.Tight
  same : ∀ index, other.get? index = one.get? index

/-- The list of the locked slots does not depend on how far one looks for more. -/
theorem locked_eq_of_le (pool : Pool α) {bound : Nat} (enough : pool.capacity ≤ bound) :
    pool.locked =
      (List.range bound).filterMap fun index => (pool.get? index).map (index, ·) := by
  obtain ⟨extra, rfl⟩ := Nat.exists_eq_add_of_le enough
  rw [List.range_add, List.filterMap_append, List.filterMap_map]
  have none_ : (List.range extra).filterMap
      ((fun index => (pool.get? index).map (index, ·)) ∘ (pool.capacity + ·)) = [] := by
    rw [List.filterMap_eq_nil_iff]
    intro index _
    rw [Function.comp_apply, get?_eq_none_of_le (Nat.le_add_right _ _), Option.map_none]
  rw [none_, List.append_nil]
  rfl

theorem get?_of_locked_eq_nil {pool : Pool α} (spare : pool.locked = []) (index : Nat) :
    pool.get? index = none := by
  cases found : pool.get? index with
  | none => rfl
  | some object =>
    have member : (index, object) ∈ pool.locked := by
      rw [Pool.locked, List.mem_filterMap]
      exact ⟨index, List.mem_range.mpr (lt_capacity_of_get? found), by rw [found, Option.map_some]⟩
    rw [spare] at member
    cases member

theorem releaseAll_locked (pool : Pool α) : pool.releaseAll.locked = [] := by
  rw [Pool.locked, List.filterMap_eq_nil_iff]
  intro index _
  rw [get?_releaseAll, Option.map_none]

section

variable {one other : Pool α}

/-- Pools without a locked slot are alike, whatever is left in the free ones. -/
theorem Alike.of_locked_eq_nil (tight : one.Tight) (tightOther : other.Tight)
    (spare : one.locked = []) (spareOther : other.locked = []) : one.Alike other :=
  ⟨tight, tightOther, fun index => by
    rw [get?_of_locked_eq_nil spare, get?_of_locked_eq_nil spareOther]⟩

theorem Alike.locked (alike : one.Alike other) : other.locked = one.locked := by
  rw [one.locked_eq_of_le (Nat.le_max_left one.capacity other.capacity),
    other.locked_eq_of_le (Nat.le_max_right one.capacity other.capacity)]
  simp only [alike.same]

/-- How far pools are filled in advance does not show in their locked slots. -/
theorem Alike.prefill (alike : one.Alike other) (capacity capacityOther : Nat) (object : α) :
    (one.prefill capacity object).Alike (other.prefill capacityOther object) :=
  ⟨alike.tight.prefillWith _ _, alike.tightOther.prefillWith _ _, fun index => by
    rw [Pool.prefill, Pool.prefill, get?_prefillWith, get?_prefillWith, alike.same]⟩

theorem Alike.modify (alike : one.Alike other) (place : Nat) (change : α → α) :
    (one.modify place change).Alike (other.modify place change) :=
  ⟨alike.tight.modify _ _, alike.tightOther.modify _ _, fun index => by
    rw [get?_modify, get?_modify, alike.same]⟩

theorem Alike.set (alike : one.Alike other) (place : Nat) (object : α) :
    (one.set place object).Alike (other.set place object) :=
  alike.modify place _

theorem Alike.release (alike : one.Alike other) (place : Nat) :
    (one.release place).2.Alike (other.release place).2 :=
  ⟨alike.tight.release _, alike.tightOther.release _, fun index => by
    rw [get?_release, get?_release, alike.same]⟩

theorem Alike.mapLocked (alike : one.Alike other) (change : α → α) :
    (one.mapLocked change).Alike (other.mapLocked change) :=
  ⟨alike.tight.mapLocked _, alike.tightOther.mapLocked _, fun index => by
    rw [get?_mapLocked, get?_mapLocked, alike.same]⟩

/-- Nothing is left of what a slot held before. -/
def Overwrites (reset : α → α) : Prop := ∀ stale old, reset stale = reset old

/-- Alike pools give out the same slot. If whatever was left in it is overwritten, they stay alike.
-/
theorem Alike.renew (alike : one.Alike other) (fresh : α) {reset : α → α}
    (overwrites : Overwrites reset) :
    (other.renew fresh reset).1 = (one.renew fresh reset).1 ∧
      (one.renew fresh reset).2.Alike (other.renew fresh reset).2 := by
  have index : (other.acquire fresh).1 = (one.acquire fresh).1 :=
    Next.unique alike.same (acquire_next alike.tight fresh) (acquire_next alike.tightOther fresh)
  refine ⟨index, (alike.tight.acquire fresh).set _ _, (alike.tightOther.acquire fresh).set _ _, ?_⟩
  intro place
  have slot : (other.renew fresh reset).1 = (one.renew fresh reset).1 := index
  rw [get?_renew, get?_renew, slot, alike.same,
    overwrites (other.acquire fresh).2.1 (one.acquire fresh).2.1]

variable {σ : Type}

/-- A pass has nothing to visit beyond the last slot. -/
theorem sweepFrom_beyond (visitor : σ → Nat → α → σ × α × SlotFate) (state : σ) (pool : Pool α)
    (index remaining extra : Nat) (enough : pool.capacity ≤ index + remaining) :
    sweepFrom visitor state pool index (remaining + extra) =
      sweepFrom visitor state pool index remaining := by
  induction remaining generalizing state pool index with
  | zero =>
    rw [Nat.zero_add]
    show _ = (state, pool)
    induction extra generalizing index with
    | zero => rfl
    | succ extra ih =>
      unfold sweepFrom
      rw [get?_eq_none_of_le (by omega)]
      exact ih (index + 1) (by omega)
  | succ remaining ih =>
    rw [Nat.add_right_comm, sweepFrom, sweepFrom]
    split
    · exact ih _ _ _ (by omega)
    · rename_i object _
      apply ih
      have size : (pool.set index (visitor state index object).2.1).capacity = pool.capacity :=
        pool.capacity_modify index _
      split
      · rw [capacity_release, size]
        omega
      · rw [size]
        omega

section

variable {visitor : σ → Nat → α → σ × α × SlotFate} {related : σ → σ → Prop}
  (agrees : ∀ state stateOther index object, related state stateOther →
    related (visitor state index object).1 (visitor stateOther index object).1 ∧
      (visitor stateOther index object).2 = (visitor state index object).2)

include agrees

theorem Alike.sweepFrom (alike : one.Alike other) {state stateOther : σ}
    (start : related state stateOther) (index remaining : Nat) :
    related (Pool.sweepFrom visitor state one index remaining).1
        (Pool.sweepFrom visitor stateOther other index remaining).1 ∧
      (Pool.sweepFrom visitor state one index remaining).2.Alike
        (Pool.sweepFrom visitor stateOther other index remaining).2 := by
  induction remaining generalizing state stateOther one other index with
  | zero => exact ⟨start, alike⟩
  | succ remaining ih =>
    rw [Pool.sweepFrom, Pool.sweepFrom, alike.same]
    split
    · exact ih alike start _
    · rename_i object _
      have next := agrees state stateOther index object start
      generalize visitor state index object = answer at next ⊢
      generalize visitor stateOther index object = answerOther at next ⊢
      obtain ⟨gathered, fresh, fate⟩ := answer
      obtain ⟨gatheredOther, freshOther, fateOther⟩ := answerOther
      obtain ⟨next, ⟨⟩⟩ := next
      dsimp only
      split
      · exact ih ((alike.set _ _).release _) next _
      · exact ih (alike.set _ _) next _

/-- A pass over alike pools visits the same objects and leaves the pools alike. So it gathers the
same, or what its visitor takes to be the same. -/
theorem Alike.sweep (alike : one.Alike other) {state stateOther : σ}
    (start : related state stateOther) :
    related (one.sweep visitor state).1 (other.sweep visitor stateOther).1 ∧
      (one.sweep visitor state).2.Alike (other.sweep visitor stateOther).2 := by
  have both (pool : Pool α) (bound : Nat) (enough : pool.capacity ≤ bound) (state : σ) :
      pool.sweep visitor state = Pool.sweepFrom visitor state pool 0 bound := by
    obtain ⟨extra, rfl⟩ := Nat.exists_eq_add_of_le enough
    exact (sweepFrom_beyond visitor state pool 0 pool.capacity extra (by omega)).symm
  rw [both one _ (Nat.le_max_left one.capacity other.capacity),
    both other _ (Nat.le_max_right one.capacity other.capacity)]
  exact alike.sweepFrom agrees start 0 _

end

theorem Alike.sweep_same (alike : one.Alike other)
    (visitor : σ → Nat → α → σ × α × SlotFate) (state : σ) :
    (other.sweep visitor state).1 = (one.sweep visitor state).1 ∧
      (one.sweep visitor state).2.Alike (other.sweep visitor state).2 := by
  have agrees (first second : σ) (index : Nat) (object : α) (same : second = first) :
      (visitor second index object).1 = (visitor first index object).1 ∧
        (visitor second index object).2 = (visitor first index object).2 := by
    rw [same]
    exact ⟨rfl, rfl⟩
  exact Alike.sweep agrees alike rfl

theorem Alike.update (alike : one.Alike other) (step : α → α × SlotFate) :
    (one.update step).Alike (other.update step) :=
  (alike.sweep_same _ ()).2

end

end Sortie.Pool
