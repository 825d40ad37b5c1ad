import Mathlib.Data.List.Forall2
import Sortie.Proofs.Decline

set_option autoImplicit false

namespace Sortie

open Condition (percent isGone needed)

/-- Whether too many of some spacecraft have lost something for all or any of them to have it. -/
def Quantity.Fails (which : Quantity) (lost : Spacecraft → Prop) (crafts : List Spacecraft) :
    Prop :=
  match which with
  | .all => ∃ craft ∈ crafts, lost craft
  | .any => ∀ craft ∈ crafts, lost craft

namespace Quantity

variable {which : Quantity} {lost : Spacecraft → Prop} {crafts : List Spacecraft}

theorem Fails.holdsOfSome (fails : which.Fails lost crafts) {test : Spacecraft → Bool}
    (without : ∀ craft ∈ crafts, lost craft → test craft = false) :
    which.holdsOfSome (crafts.map test) = false := by
  refine Bool.and_eq_false_iff.mpr (.inr ?_)
  cases which with
  | all =>
    obtain ⟨craft, member, gone⟩ := fails
    refine List.all_eq_false.mpr ⟨test craft, List.mem_map_of_mem member, ?_⟩
    rw [without craft member gone]
    exact Bool.false_ne_true
  | any =>
    refine List.any_eq_false.mpr fun result member => ?_
    obtain ⟨craft, there, rfl⟩ := List.mem_map.mp member
    rw [without craft there (fails craft there)]
    exact Bool.false_ne_true

/-- What tests of all or any of some spacecraft find. -/
theorem Fails.of_tests {test : Spacecraft → Bool} (kept : ∀ craft, test craft = true → lost craft)
    (found : (match which with
      | .all => (crafts.map test).any id
      | .any => (crafts.map test).all id) = true) : which.Fails lost crafts := by
  cases which with
  | all =>
    obtain ⟨craft, member, there⟩ : ∃ craft ∈ crafts, test craft = true := by
      simpa only [List.any_map, List.any_eq_true, Function.comp_apply, id_eq] using found
    exact ⟨craft, member, kept craft there⟩
  | any =>
    have all : ∀ craft ∈ crafts, test craft = true := by
      simpa only [List.all_map, List.all_eq_true, Function.comp_apply, id_eq] using found
    exact fun craft member => kept craft (all craft member)

theorem Fails.of_each {R : Spacecraft → Spacecraft → Prop} (fails : which.Fails lost crafts)
    {later : List Spacecraft} (each : List.Forall₂ R crafts later)
    (kept : ∀ before after, R before after → lost before → lost after) :
    which.Fails lost later := by
  induction each with
  | nil => exact fails
  | @cons craft after rest others related _ ih =>
    cases which with
    | all =>
      obtain ⟨member, there, gone⟩ := fails
      rcases List.mem_cons.mp there with rfl | there
      · exact ⟨after, List.mem_cons_self, kept _ _ related gone⟩
      · obtain ⟨member, there, gone⟩ := ih ⟨member, there, gone⟩
        exact ⟨member, List.mem_cons_of_mem _ there, gone⟩
    | any =>
      have first := kept _ _ related (fails craft List.mem_cons_self)
      have rest := ih fun member there => fails member (List.mem_cons_of_mem _ there)
      exact List.forall_mem_cons.mpr ⟨first, rest⟩

end Quantity

namespace SubjectGroup

/-- The members of a group decline as the spacecraft of the world do. -/
theorem crafts_declines (group : SubjectGroup) {before after : World}
    (declines : before.Declines after) :
    List.Forall₂ Spacecraft.Declines (group.crafts before) (group.crafts after) := by
  unfold crafts
  induction group.members with
  | nil => exact .nil
  | cons index rest ih =>
    cases found : before.craft? index with
    | none =>
      have missing : after.craft? index = none := by
        rw [World.craft?, Array.getElem?_eq_none_iff, declines.size]
        exact Array.getElem?_eq_none_iff.mp found
      rw [List.filterMap_cons_none found, List.filterMap_cons_none missing]
      exact ih
    | some craft =>
      obtain ⟨later, there, declined⟩ := declines.crafts index craft found
      rw [List.filterMap_cons_some found, List.filterMap_cons_some there]
      exact .cons declined ih

end SubjectGroup

/-- What declining does not bring about counts no more of later spacecraft. -/
theorem countP_le_of_each {R : Spacecraft → Spacecraft → Prop} {test : Spacecraft → Bool}
    (kept : ∀ before after, R before after → test after = true → test before = true)
    {before after : List Spacecraft} (each : List.Forall₂ R before after) :
    after.countP test ≤ before.countP test := by
  induction each with
  | nil => exact Nat.le_refl _
  | @cons craft later rest others related _ ih =>
    rw [List.countP_cons, List.countP_cons]
    have first := kept _ _ related
    cases here : test later with
    | true =>
      rw [first here]
      omega
    | false =>
      simp only [Bool.false_eq_true, ↓reduceIte]
      omega

namespace Timer

/-- What is over never comes, whatever the clock does. -/
theorem evaluate_of_isImpossible {timer : Timer} (ended : timer.isImpossible = true) (world : World)
    {dt : Scalar} (accepted : Mission.accepts dt = true) :
    (timer.evaluate world dt).1 = false ∧ (timer.evaluate world dt).2.isImpossible = true := by
  obtain ⟨finite, forward⟩ := Mission.finite_of_accepts accepted
  unfold evaluate
  split
  · cases when_ : timer.plan.when with
    | before =>
      simp only [isImpossible, when_, Bool.and_eq_true, decide_eq_true_eq] at ended
      obtain ⟨running, late⟩ := ended
      -- The clock may stand still, but does not go back.
      have later := Scalar.le_add late finite forward
      simp only [judge, advance, when_, running, ↓reduceIte]
      refine ⟨decide_eq_false (Scalar.not_lt_of_le later), ?_⟩
      simp only [isImpossible, when_, Bool.true_and]
      exact decide_eq_true later
    | after => simp only [isImpossible, when_, Bool.false_eq_true] at ended
    | once =>
      simp only [isImpossible, when_] at ended
      simp only [judge, advance, when_, ended, not_true_eq_false, false_and, ↓reduceIte,
        isImpossible, and_self]
    | repeating =>
      simp only [isImpossible, when_, Option.any_eq_true, decide_eq_true_eq] at ended
      obtain ⟨most, bound, reached⟩ := ended
      have spent : (timer.advance dt).countsLeft = 0 := by
        simp only [countsLeft, advance, bound]
        exact Nat.sub_eq_zero_of_le reached
      have judged : (timer.advance dt).judge = (false, timer.advance dt) := by
        simp only [judge, advance_plan, when_, countPeriods, spent, true_or, ↓reduceIte]
      rw [judged]
      refine ⟨rfl, ?_⟩
      simp only [isImpossible, advance, when_, bound, Option.any_some]
      exact decide_eq_true reached
  · exact ⟨rfl, ended⟩

end Timer

namespace Condition

/-- The ways in which a condition is lost for good. -/
inductive Doomed (condition : Condition) (world : World) : Prop
  /-- Too many subjects left by jumping out before they could be destroyed. -/
  | escaped (count : Option Nat) (kind : condition.kind = .destroyed count)
      (settled : condition.subjects.resolved.isSome = true)
      (few : (condition.subjects.crafts world).countP (fun craft =>
        !craft.alive || !craft.departed) < needed count condition.subjects)
  /-- Too few subjects are left. -/
  | reduced (threshold : Nat) (relation : CountRelation)
      (kind : condition.kind = .count threshold relation) (upward : relation ≠ .below)
      (settled : condition.subjects.resolved.isSome = true)
      (few : condition.subjects.liveCount world < threshold)
  /-- The moment has passed, or the last one has. -/
  | past (timer : Timer) (kind : condition.kind = .time timer) (ended : timer.isImpossible = true)
  /-- Too much of the hulls is damaged. -/
  | damaged (band : Band) (which : Quantity) (kind : condition.kind = .integrity .hull band which)
      (least : Scalar) (bound : band.least = some least) (positive : 0 < least)
      (settled : condition.subjects.resolved.isSome = true)
      (fails : which.Fails (fun craft => ¬ least ≤ percent .hull craft)
        (condition.subjects.crafts world))
  /-- The spacecraft that distances are measured to is gone. -/
  | lonely (target : Nat) (band : Band) (which : Quantity)
      (kind : condition.kind = .distance target band which)
      (gone : ∀ craft, world.craft? target = some craft → isGone craft = true)
  /-- Too many subjects are gone. -/
  | gone (target : Nat) (band : Band) (which : Quantity)
      (kind : condition.kind = .distance target band which)
      (settled : condition.subjects.resolved.isSome = true)
      (fails : which.Fails (fun craft => isGone craft = true) (condition.subjects.crafts world))
  /-- Too many subjects are destroyed. -/
  | dead (which : Quantity) (kind : condition.kind = .away which)
      (settled : condition.subjects.resolved.isSome = true)
      (fails : which.Fails (fun craft => craft.alive = false) (condition.subjects.crafts world))

theorem Doomed.of_same {condition other : Condition} {world : World}
    (doomed : condition.Doomed world) (kind : other.kind = condition.kind)
    (subjects : other.subjects = condition.subjects) : other.Doomed world := by
  cases doomed with
  | escaped count here settled few =>
    exact .escaped count (kind.trans here) (subjects ▸ settled) (subjects ▸ few)
  | reduced threshold relation here upward settled few =>
    exact .reduced threshold relation (kind.trans here) upward (subjects ▸ settled) (subjects ▸ few)
  | past timer here ended => exact .past timer (kind.trans here) ended
  | damaged band which here least bound positive settled fails =>
    exact .damaged band which (kind.trans here) least bound positive (subjects ▸ settled)
      (subjects ▸ fails)
  | lonely target band which here gone => exact .lonely target band which (kind.trans here) gone
  | gone target band which here settled fails =>
    exact .gone target band which (kind.trans here) (subjects ▸ settled) (subjects ▸ fails)
  | dead which here settled fails =>
    exact .dead which (kind.trans here) (subjects ▸ settled) (subjects ▸ fails)

theorem isGone_of_declines {before after : Spacecraft} (declines : before.Declines after)
    (gone : isGone before = true) : isGone after = true := by
  simp only [isGone, Bool.or_eq_true, Bool.not_eq_true'] at gone ⊢
  exact gone.imp declines.dead declines.departed

/-- What is lost for good stays lost. -/
theorem Doomed.declines {condition : Condition} {before after : World}
    (doomed : condition.Doomed before) (declines : before.Declines after) :
    condition.Doomed after := by
  have each := condition.subjects.crafts_declines declines
  cases doomed with
  | escaped count kind settled few =>
    refine .escaped count kind settled (Nat.lt_of_le_of_lt (countP_le_of_each ?_ each) few)
    intro craft later declined here
    simp only [Bool.or_eq_true, Bool.not_eq_true'] at here ⊢
    cases gone : craft.departed with
    | false => exact .inr rfl
    | true =>
      rw [declined.departed gone, declined.unharmed gone] at here
      exact here.imp_right nofun
  | reduced threshold relation kind upward settled few =>
    refine .reduced threshold relation kind upward settled
      (Nat.lt_of_le_of_lt (countP_le_of_each ?_ each) few)
    intro craft later declined live
    simp only [Bool.and_eq_true, Bool.not_eq_true'] at live ⊢
    refine ⟨?_, ?_⟩
    · cases alive : craft.alive with
      | true => rfl
      | false => rw [declined.dead alive] at live; exact live.1
    · cases gone : craft.departed with
      | false => rfl
      | true => rw [declined.departed gone] at live; exact live.2
  | past timer kind ended => exact .past timer kind ended
  | damaged band which kind least bound positive settled fails =>
    refine .damaged band which kind least bound positive settled (fails.of_each each ?_)
    exact fun _ _ declined short reached => short (declined.wears least positive reached)
  | lonely target band which kind gone =>
    refine .lonely target band which kind ?_
    intro later found
    obtain ⟨craft, there, declined⟩ := World.craft?_before declines.size declines.crafts found
    exact isGone_of_declines declined (gone craft there)
  | gone target band which kind settled fails =>
    exact .gone target band which kind settled
      (fails.of_each each fun _ _ declined => isGone_of_declines declined)
  | dead which kind settled fails =>
    exact .dead which kind settled (fails.of_each each fun _ _ declined => declined.dead)

theorem resolve_of_isSome {condition : Condition}
    (settled : condition.subjects.resolved.isSome = true) (world : World) :
    condition.resolve world = condition := by
  unfold resolve
  rw [SubjectGroup.resolve_of_isSome settled]

/-- To name the subjects does not help. -/
theorem Doomed.resolve {condition : Condition} {world : World} (doomed : condition.Doomed world)
    (seen : World) : (condition.resolve seen).Doomed world := by
  cases doomed with
  | past timer kind ended => exact .past timer kind ended
  | lonely target band which kind gone => exact .lonely target band which kind gone
  | escaped count kind settled few =>
    rw [resolve_of_isSome settled]
    exact .escaped count kind settled few
  | reduced threshold relation kind upward settled few =>
    rw [resolve_of_isSome settled]
    exact .reduced threshold relation kind upward settled few
  | damaged band which kind least bound positive settled fails =>
    rw [resolve_of_isSome settled]
    exact .damaged band which kind least bound positive settled fails
  | gone target band which kind settled fails =>
    rw [resolve_of_isSome settled]
    exact .gone target band which kind settled fails
  | dead which kind settled fails =>
    rw [resolve_of_isSome settled]
    exact .dead which kind settled fails

theorem destroyedCount_le (group : SubjectGroup) (world : World) :
    group.destroyedCount world ≤ (group.crafts world).countP fun craft =>
      !craft.alive || !craft.departed :=
  List.countP_mono_left fun _ _ dead => Bool.or_eq_true_iff.mpr (.inl dead)

theorem not_isPresent_of_isGone {craft : Spacecraft}
    (away : craft.departed = true → craft.isAway = true) (gone : isGone craft = true) :
    craft.isPresent = false := by
  simp only [isGone, Bool.or_eq_true, Bool.not_eq_true'] at gone
  rcases gone with dead | departed
  · rw [Spacecraft.isPresent, dead, Bool.false_and]
  · rw [Spacecraft.isPresent, away departed, Bool.not_true, Bool.and_false]

/-- What is lost for good does not hold, and is not won back by the evaluation. -/
theorem Doomed.evaluate {condition : Condition} {world : World} (doomed : condition.Doomed world)
    (parted : world.Parted) {dt : Scalar} (accepted : Mission.accepts dt = true) :
    (condition.evaluate world dt).1 = false ∧
      (condition.evaluate world dt).2.Doomed world := by
  have again := doomed
  cases doomed with
  | escaped count kind settled few =>
    have fewer := Nat.lt_of_le_of_lt (destroyedCount_le condition.subjects world) few
    simp only [Condition.evaluate, kind, resolve_of_isSome settled]
    exact ⟨by rw [decide_eq_false (Nat.not_le_of_lt fewer), Bool.and_false], again⟩
  | reduced threshold relation kind upward settled few =>
    simp only [Condition.evaluate, kind, resolve_of_isSome settled]
    refine ⟨?_, again⟩
    cases relation with
    | below => exact absurd rfl upward
    | above => exact decide_eq_false (Nat.not_le_of_lt few)
    | equals => exact beq_eq_false_iff_ne.mpr (Nat.ne_of_lt few)
  | past timer kind ended =>
    obtain ⟨late, still⟩ := Timer.evaluate_of_isImpossible ended world accepted
    simp only [Condition.evaluate, kind]
    exact ⟨late, .past _ rfl still⟩
  | damaged band which kind least bound positive settled fails =>
    simp only [Condition.evaluate, kind, resolve_of_isSome settled]
    refine ⟨fails.holdsOfSome fun craft _ short => ?_, again⟩
    rw [Band.contains, bound, Option.all_some, decide_eq_false short, Bool.false_and]
  | lonely target band which kind gone =>
    have nobody : presentTarget? world target = none := by
      refine Option.filter_eq_none_iff.mpr fun craft found present => ?_
      have away := parted.away target craft found
      rw [not_isPresent_of_isGone away (gone craft found)] at present
      cases present
    simp only [Condition.evaluate, kind, nobody]
    exact ⟨trivial, again⟩
  | gone target band which kind settled fails =>
    cases found : presentTarget? world target with
    | none =>
      simp only [Condition.evaluate, kind, found]
      exact ⟨trivial, again⟩
    | some craft =>
      simp only [Condition.evaluate, kind, found, resolve_of_isSome settled]
      refine ⟨fails.holdsOfSome fun subject member lost => ?_, again⟩
      obtain ⟨index, _, there⟩ := List.mem_filterMap.mp member
      rw [inBand, not_isPresent_of_isGone (parted.away index subject there) lost, Bool.false_and]
  | dead which kind settled fails =>
    simp only [Condition.evaluate, kind, resolve_of_isSome settled]
    refine ⟨fails.holdsOfSome fun craft _ gone => ?_, again⟩
    rw [gone, Bool.false_and]

/-- Who has not escaped is destroyed, or alive and here. -/
theorem remaining_eq (group : SubjectGroup) (world : World) :
    ((group.crafts world).countP fun craft => !craft.alive || !craft.departed) =
      group.destroyedCount world + group.liveCount world := by
  unfold SubjectGroup.destroyedCount SubjectGroup.liveCount
  induction group.crafts world with
  | nil => rfl
  | cons craft rest ih =>
    simp only [List.countP_cons]
    cases craft.alive <;> cases craft.departed <;>
      simp only [Bool.not_true, Bool.not_false, Bool.or_true, Bool.or_false, Bool.and_true,
        Bool.and_false, Bool.false_eq_true, ↓reduceIte] <;> omega

/-- Hulls of which all or any are found to be below a bound, which is positive then. -/
theorem fails_of_below {which : Quantity} {crafts : List Spacecraft} {least : Scalar}
    (found : (match which with
      | .all => (crafts.map fun craft => decide (percent .hull craft < least)).any id
      | .any => Quantity.all.holdsOfSome
          (crafts.map fun craft => decide (percent .hull craft < least))) = true) :
    0 < least ∧ which.Fails (fun craft => ¬ least ≤ percent .hull craft) crafts := by
  have short {craft : Spacecraft} (below : decide (percent .hull craft < least) = true) :
      percent .hull craft < least := of_decide_eq_true below
  have fails : which.Fails (fun craft => percent .hull craft < least) crafts := by
    refine .of_tests (fun _ => short) ?_
    cases which with
    | all => exact found
    | any => exact (Bool.and_eq_true_iff.mp found).2
  cases which with
  | all =>
    obtain ⟨craft, member, below⟩ := fails
    exact ⟨Spacecraft.pos_of_percent_lt below, craft, member, Scalar.not_le_of_lt below⟩
  | any =>
    refine ⟨?_, fun craft member => Scalar.not_le_of_lt (fails craft member)⟩
    cases crafts with
    | nil => cases found
    | cons craft rest => exact Spacecraft.pos_of_percent_lt (fails craft List.mem_cons_self)

/-- Only a condition that is lost for good is found impossible. -/
theorem judgeImpossible_doomed {condition : Condition} {world : World}
    (able : condition.canBeImpossible = true)
    (found : (condition.judgeImpossible world).1 = true) :
    (condition.judgeImpossible world).2.Doomed world := by
  have settled := condition.subjects.resolve_isSome world
  cases kind : condition.kind with
  | destroyed count =>
    simp only [judgeImpossible, kind, decide_eq_true_eq] at found ⊢
    exact .escaped count kind settled (Nat.lt_of_le_of_lt (remaining_eq _ world).le found)
  | count threshold relation =>
    simp only [canBeImpossible, kind, bne_iff_ne] at able
    simp only [judgeImpossible, kind, decide_eq_true_eq] at found ⊢
    exact .reduced threshold relation kind able settled found
  | time timer =>
    simp only [judgeImpossible, kind] at found ⊢
    exact .past timer kind found
  | integrity measure band which =>
    simp only [canBeImpossible, kind, Bool.and_eq_true, beq_iff_eq] at able
    obtain ⟨rfl, some_⟩ := able
    obtain ⟨least, bound⟩ := Option.isSome_iff_exists.mp some_
    simp only [judgeImpossible, kind, bound] at found ⊢
    obtain ⟨positive, fails⟩ := fails_of_below found
    exact .damaged band which kind least bound positive settled fails
  | distance target band which =>
    simp only [judgeImpossible, kind] at found ⊢
    split at found
    · rename_i gone
      rw [if_pos gone]
      refine .lonely target band which kind fun craft there => ?_
      rwa [there, Option.all_some] at gone
    · rename_i present
      rw [if_neg present]
      exact .gone target band which kind settled (.of_tests (fun _ gone => gone) found)
  | away which =>
    simp only [judgeImpossible, kind] at found ⊢
    exact .dead which kind settled (.of_tests (fun _ dead => by simpa using dead) found)
  | hit _ _ | onTeam _ | missionState _ | getsTargeted _ _ | isTargeted _ =>
    simp only [judgeImpossible, kind, Bool.false_eq_true] at found

end Condition

end Sortie
