import Mathlib.Data.List.Nodup
import Sortie.Proofs.PoolSlots

set_option autoImplicit false

namespace Sortie

/-- Two counts of a range that differ at one place only. -/
theorem countP_range_change (before after : Nat → Bool) {place bound : Nat}
    (inside : place < bound) (elsewhere : ∀ index ≠ place, after index = before index) :
    (List.range bound).countP after + (before place).toNat =
      (List.range bound).countP before + (after place).toNat := by
  have apart (counts : Nat → Bool) : (List.range bound).countP counts =
      ((List.range bound).erase place).countP counts + (counts place).toNat := by
    rw [(List.perm_cons_erase (List.mem_range.mpr inside)).countP_eq counts, List.countP_cons]
    cases counts place <;> rfl
  have others : ((List.range bound).erase place).countP after =
      ((List.range bound).erase place).countP before := by
    refine List.countP_congr fun index member => ?_
    rw [elsewhere index (List.nodup_range.mem_erase_iff.mp member).1]
  rw [apart after, apart before, others]
  omega

namespace Pool

variable {α : Type}

/-- How many locked slots hold an object that counts. -/
def tally (pool : Pool α) (counts : α → Bool) : Nat :=
  pool.locked.countP fun slot => counts slot.2

theorem tally_eq (pool : Pool α) (counts : α → Bool) {bound : Nat}
    (enough : pool.capacity ≤ bound) :
    pool.tally counts = (List.range bound).countP fun index => (pool.get? index).any counts := by
  rw [tally, pool.locked_eq_of_le enough, List.countP_filterMap]
  refine List.countP_congr fun index _ => ?_
  cases pool.get? index <;> simp

theorem tally_congr {before after : Pool α} {counts : α → Bool}
    (same : ∀ index, (after.get? index).any counts = (before.get? index).any counts) :
    after.tally counts = before.tally counts := by
  rw [after.tally_eq counts (Nat.le_max_left after.capacity before.capacity),
    before.tally_eq counts (Nat.le_max_right after.capacity before.capacity)]
  exact List.countP_congr fun index _ => by rw [same]

theorem tally_change (before after : Pool α) (place : Nat) (counts : α → Bool)
    (elsewhere : ∀ index ≠ place, after.get? index = before.get? index) :
    after.tally counts + ((before.get? place).any counts).toNat =
      before.tally counts + ((after.get? place).any counts).toNat := by
  let bound := max (place + 1) (max after.capacity before.capacity)
  rw [after.tally_eq counts (show after.capacity ≤ bound by omega),
    before.tally_eq counts (show before.capacity ≤ bound by omega)]
  exact countP_range_change (fun index => (before.get? index).any counts)
    (fun index => (after.get? index).any counts) (show place < bound by omega)
    fun index other => by rw [elsewhere index other]

theorem tally_prefill (pool : Pool α) (capacity : Nat) (object : α) (counts : α → Bool) :
    (pool.prefill capacity object).tally counts = pool.tally counts :=
  tally_congr fun index => by rw [prefill, get?_prefillWith]

theorem tally_mapLocked (pool : Pool α) {change : α → α} {counts : α → Bool}
    (same : ∀ object, counts (change object) = counts object) :
    (pool.mapLocked change).tally counts = pool.tally counts :=
  tally_congr fun index => by
    rw [get?_mapLocked]
    cases pool.get? index with
    | none => rfl
    | some object => simp [same]

/-- A renewed slot was not in use, so that what is in it counts in addition. -/
theorem tally_renew (pool : Pool α) (fresh : α) {reset : α → α} {counts : α → Bool}
    {counted : Prop} [Decidable counted] (known : ∀ stale, counts (reset stale) = decide counted) :
    (pool.renew fresh reset).2.tally counts =
      pool.tally counts + if counted then 1 else 0 := by
  have change := tally_change pool (pool.renew fresh reset).2 (pool.renew fresh reset).1 counts
    fun index other => by rw [get?_renew, if_neg other]
  rw [renew_free, get?_renew, if_pos rfl, Option.any_some, known] at change
  by_cases now : counted
  · simpa [now] using change
  · simpa [now] using change

/-- A visit takes what it finds out of the count, and counts what it leaves. -/
theorem tally_leave {pool : Pool α} {index : Nat} {object : α}
    (found : pool.get? index = some object) (left : α) (fate : SlotFate) (counts : α → Bool) :
    (pool.leave index left fate).tally counts + (counts object).toNat =
      pool.tally counts + if fate = .release then 0 else (counts left).toNat := by
  have change := tally_change pool (pool.leave index left fate) index counts
    fun other apart => by rw [get?_leave, if_neg (Ne.symm apart)]
  rw [get?_leave, if_pos rfl, found, Option.any_some] at change
  rw [change]
  split
  · rfl
  · rfl

/-- If what a visitor gathers is paid for by the slots that it takes out of the count, a pass over
the pool gathers no more than what was in the count. -/
theorem sweep_tally {σ : Type} {visitor : σ → Nat → α → σ × α × SlotFate} {counts : α → Bool}
    (worth : σ → Nat)
    (paid : ∀ state index object,
      worth (visitor state index object).1 +
          (if (visitor state index object).2.2 = .release then 0
            else (counts (visitor state index object).2.1).toNat) ≤
        worth state + (counts object).toNat)
    (pool : Pool α) (state : σ) :
    worth (pool.sweep visitor state).1 + (pool.sweep visitor state).2.tally counts ≤
      worth state + pool.tally counts := by
  refine sweep_invariant (fun _ gathered now => worth gathered + now.tally counts ≤
    worth state + pool.tally counts) (fun _ held => held) ?_ (Nat.le_refl _)
  intro index gathered now object found held
  have price := paid gathered index object
  have moved := tally_leave found (visitor gathered index object).2.1
    (visitor gathered index object).2.2 counts
  omega

end Pool

end Sortie
