namespace Sortie

structure Slot (α : Type) where
  object : α
  locked : Bool

/-- What a pass over the locked slots wants done with one. -/
inductive SlotFate where
  | keep
  | release
  deriving DecidableEq, Repr

/-- The slots of one kind of object, with stable indices. A released slot keeps its object, so that
the next owner can reuse it; slots are never removed. No slot below `firstFree` is free. -/
structure Pool (α : Type) where
  kind : String
  slots : Array (Slot α)
  lockedCount : Nat
  firstFree : Nat

namespace Pool

variable {α : Type}

def empty (kind : String) : Pool α := ⟨kind, #[], 0, 0⟩

def capacity (pool : Pool α) : Nat := pool.slots.size

/-- The object of a locked slot. -/
def get? (pool : Pool α) (index : Nat) : Option α :=
  match pool.slots[index]? with
  | some slot => if slot.locked then some slot.object else none
  | none => none

/-- The locked slots with their indices, in order. -/
def locked (pool : Pool α) : List (Nat × α) :=
  (List.range pool.capacity).filterMap fun index => (pool.get? index).map (index, ·)

/-- Grows the pool to a capacity with free objects, of which `make` gives the first, the second
and so on. -/
def prefillWith (pool : Pool α) (capacity : Nat) (make : Nat → α) : Pool α :=
  let added := Array.ofFn fun index : Fin (capacity - pool.capacity) =>
    (⟨make index, false⟩ : Slot α)
  { pool with slots := pool.slots ++ added }

/-- Grows the pool to a capacity with free copies of an object. -/
def prefill (pool : Pool α) (capacity : Nat) (object : α) : Pool α :=
  pool.prefillWith capacity fun _ => object

/-- The least free index from `start` on. -/
def nextFree? (slots : Array (Slot α)) (start : Nat) : Option Nat :=
  if inside : start < slots.size then
    if slots[start].locked then nextFree? slots (start + 1) else some start
  else none
termination_by slots.size - start

/-- The least free index from `firstFree` on, or else the least of all. -/
def findFree? (pool : Pool α) : Option Nat :=
  match nextFree? pool.slots pool.firstFree with
  | some index => some index
  | none => nextFree? pool.slots 0

/-- A locked slot and the object it was left with, from a pool that grows by `fresh` if it is
full. -/
def acquire (pool : Pool α) (fresh : α) : Nat × α × Pool α :=
  match pool.findFree? with
  | some index =>
    let object := (pool.slots[index]?.map Slot.object).getD fresh
    (index, object,
      { pool with
        slots := pool.slots.setIfInBounds index ⟨object, true⟩
        lockedCount := pool.lockedCount + 1
        firstFree := index + 1 })
  | none =>
    (pool.capacity, fresh,
      { pool with
        slots := pool.slots.push ⟨fresh, true⟩
        lockedCount := pool.lockedCount + 1
        firstFree := pool.capacity + 1 })

/-- Frees a slot. False if it was not locked. -/
def release (pool : Pool α) (index : Nat) : Bool × Pool α :=
  match pool.get? index with
  | some object =>
    (true,
      { pool with
        slots := pool.slots.setIfInBounds index ⟨object, false⟩
        lockedCount := pool.lockedCount - 1
        firstFree := min pool.firstFree index })
  | none => (false, pool)

def releaseAll (pool : Pool α) : Pool α :=
  { pool with
    slots := pool.slots.map fun slot => { slot with locked := false }
    lockedCount := 0
    firstFree := 0 }

/-- Changes the object of a locked slot. -/
def modify (pool : Pool α) (index : Nat) (change : α → α) : Pool α :=
  { pool with
    slots := pool.slots.modify index fun slot =>
      if slot.locked then { slot with object := change slot.object } else slot }

/-- Puts an object into a locked slot. -/
def set (pool : Pool α) (index : Nat) (object : α) : Pool α :=
  pool.modify index fun _ => object

/-- Acquires a slot and resets the object it was left with. -/
def renew (pool : Pool α) (fresh : α) (reset : α → α) : Nat × Pool α :=
  let (index, stale, acquired) := pool.acquire fresh
  (index, acquired.set index (reset stale))

/-- Visits the slots from `index` on that are locked, releasing those that the visitor is done
with. The state is handed from slot to slot. -/
def sweepFrom {σ : Type} (visitor : σ → Nat → α → σ × α × SlotFate) (state : σ) (pool : Pool α)
    (index : Nat) : Nat → σ × Pool α
  | 0 => (state, pool)
  | remaining + 1 =>
    match pool.get? index with
    | none => sweepFrom visitor state pool (index + 1) remaining
    | some object =>
      let (state, object, fate) := visitor state index object
      let pool := pool.set index object
      let pool := if fate = .release then (pool.release index).2 else pool
      sweepFrom visitor state pool (index + 1) remaining

/-- Visits the locked slots in order. -/
def sweep {σ : Type} (pool : Pool α) (visitor : σ → Nat → α → σ × α × SlotFate) (state : σ) :
    σ × Pool α :=
  sweepFrom visitor state pool 0 pool.capacity

/-- Changes every object in a locked slot, releasing those that are done. -/
def update (pool : Pool α) (step : α → α × SlotFate) : Pool α :=
  (pool.sweep (fun (_ : Unit) _ object => ((), step object)) ()).2

/-- Changes every object in a locked slot. -/
def mapLocked (pool : Pool α) (change : α → α) : Pool α :=
  { pool with
    slots := pool.slots.map fun slot =>
      if slot.locked then { slot with object := change slot.object } else slot }

/-- The kind with its locked and total slots. -/
def telemetry (pool : Pool α) : String :=
  pool.kind ++ ": " ++ toString pool.lockedCount ++ "/" ++ toString pool.capacity

end Pool

end Sortie
