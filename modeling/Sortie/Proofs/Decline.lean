import Sortie.Proofs.Roster
import Sortie.Proofs.ScalarOrder
import Sortie.Proofs.Sight

set_option autoImplicit false

namespace Sortie

open Condition (percent)

namespace Spacecraft

theorem percent_of_dead {craft : Spacecraft} (dead : craft.alive = false) :
    percent .hull craft = 0 := by
  simp only [percent, dead, Bool.false_eq_true, not_false_eq_true, ↓reduceIte]

theorem percent_of_alive {craft : Spacecraft} (alive : craft.alive = true) :
    percent .hull craft = craft.hullIntegrity * 100 := by
  simp only [percent, alive, not_true_eq_false, ↓reduceIte]

/-- Only a positive bound is above the percentage of a hull. -/
theorem pos_of_percent_lt {craft : Spacecraft} {bound : Scalar}
    (short : percent .hull craft < bound) : 0 < bound := by
  obtain ⟨p, b, size, above, order⟩ := Scalar.lt_iff.mp short
  refine Scalar.lt_iff.mpr ⟨0, b, Scalar.value?_zero, above, Int.lt_of_le_of_lt ?_ order⟩
  cases alive : craft.alive with
  | false =>
    rw [percent_of_dead alive, Scalar.value?_zero] at size
    cases size
    exact Int.le_refl 0
  | true =>
    rw [percent_of_alive alive, hullIntegrity] at size
    split at size
    · have none_ : Scalar.value? (0 * 100) = some 0 := by decide
      rw [none_] at size
      cases size
      exact Int.le_refl 0
    · exact Scalar.percentage_nonneg size

/-- The percentage of the hull reaches no positive bound that it did not reach before. -/
def Wears (before after : Spacecraft) : Prop :=
  ∀ bound, 0 < bound → bound ≤ percent .hull after → bound ≤ percent .hull before

theorem Wears.of_dead {before after : Spacecraft} (dead : after.alive = false) :
    before.Wears after := by
  intro bound positive reached
  rw [percent_of_dead dead] at reached
  exact absurd reached (Scalar.not_le_zero_of_pos bound positive)

theorem Wears.of_same {before after : Spacecraft}
    (craftClass : after.craftClass = before.craftClass) (hull : after.hull = before.hull)
    (alive : after.alive = before.alive) : before.Wears after := by
  intro bound _ reached
  simpa only [percent, hullIntegrity, craftClass, hull, alive] using reached

theorem damage_wears (craft : Spacecraft) (amount : Scalar) :
    craft.Wears (craft.damage amount).2 := by
  unfold damage
  split
  · exact .of_same rfl rfl rfl
  · rename_i harm
    obtain ⟨alive, harm⟩ := not_or.mp harm
    dsimp only
    generalize taken : (if craft.hasShield = true then amount.min craft.shield else 0) = part
    cases destroyed : decide (craft.hull - (amount - part).min craft.hull ≤ 0) with
    | true => exact .of_dead (by simp only [Bool.not_true])
    | false =>
      have left : ¬ craft.hull - (amount - part).min craft.hull ≤ 0 := of_decide_eq_false destroyed
      have shielded : (∃ shield, part = amount.min shield) ∨ part = 0 := by
        rw [← taken]
        split
        · exact .inl ⟨_, rfl⟩
        · exact .inr rfl
      intro bound _ reached
      rw [percent_of_alive rfl] at reached
      rw [percent_of_alive (Decidable.not_not.mp alive)]
      unfold hullIntegrity at reached ⊢
      dsimp only at reached
      split at reached
      · rename_i none_
        rw [if_pos none_]
        exact reached
      · rename_i positive
        rw [if_neg positive]
        exact (Scalar.within_damaged positive
          (fun _ rest => Scalar.rest_nonneg harm shielded rest) left).percentage.le reached

/-- What commands and damage leave of a spacecraft: its place in the jump sequence, no more life or
hull than before and, outside the battle space, all of its life. -/
structure Wanes (before after : Spacecraft) : Prop extends Fares before after where
  sheltered : before.isAway = true → after.alive = before.alive
  wears : before.Wears after

theorem Wanes.of_mild {before after : Spacecraft} (mild : before.Mild after) :
    before.Wanes after where
  toFares := fares_bears.mild before after mild
  sheltered _ := mild.alive
  wears := .of_same mild.craftClass mild.hull mild.alive

theorem wanes_bears : Bears Wanes where
  mild _ _ := .of_mild
  trans _ _ _ early late :=
    { toFares := fares_bears.trans _ _ _ early.toFares late.toFares
      sheltered := fun away =>
        (late.sheltered (early.isAway.trans away)).trans (early.sheltered away)
      wears := fun bound positive reached =>
        early.wears bound positive (late.wears bound positive reached) }
  isAway _ _ wanes := wanes.isAway
  damaged craft amount near :=
    { toFares := fares_bears.damaged craft amount near
      sheltered := fun away => by rw [near] at away; cases away
      wears := craft.damage_wears amount }
  credited craft stats :=
    { toFares := fares_bears.credited craft stats
      sheltered := fun _ => rfl
      wears := .of_same rfl rfl rfl }

/-- What a run takes from a spacecraft for good: who is dead stays so, who left by jumping out stays
away unharmed, and no hull grows. -/
structure Declines (before after : Spacecraft) : Prop where
  dead : before.alive = false → after.alive = false
  departed : before.departed = true → after.departed = true
  unharmed : before.departed = true → after.alive = before.alive
  wears : before.Wears after

theorem Declines.refl (craft : Spacecraft) : craft.Declines craft :=
  ⟨fun dead => dead, fun gone => gone, fun _ => rfl, fun _ _ reached => reached⟩

theorem Declines.trans {first second third : Spacecraft} (early : first.Declines second)
    (late : second.Declines third) : first.Declines third :=
  ⟨fun dead => late.dead (early.dead dead), fun gone => late.departed (early.departed gone),
    fun gone => (late.unharmed (early.departed gone)).trans (early.unharmed gone),
    fun bound positive reached => early.wears bound positive (late.wears bound positive reached)⟩

theorem Wanes.declines {before after : Spacecraft} (wanes : before.Wanes after)
    (away : before.departed = true → before.isAway = true) : before.Declines after :=
  ⟨wanes.dead, wanes.departed.trans, fun gone => wanes.sheltered (away gone), wanes.wears⟩

theorem Declines.of_here {before after : Spacecraft} (here : before.departed = false)
    (lasting : after.alive = before.alive ∧ after.hull = before.hull ∧
      after.craftClass = before.craftClass) : before.Declines after := by
  obtain ⟨alive, hull, craftClass⟩ := lasting
  refine ⟨alive.trans, ?_, fun _ => alive, .of_same craftClass hull alive⟩
  intro gone
  rw [here] at gone
  cases gone

/-- Who is gone after a step of flight is away, if that was so before. -/
theorem simulate_away {craft : Spacecraft} (dt : Scalar)
    (away : craft.departed = true → craft.isAway = true)
    (gone : (craft.simulate dt).2.departed = true) : (craft.simulate dt).2.isAway = true := by
  have flies := craft.simulate_flies dt
  generalize (craft.simulate dt).1 = way at flies
  cases flies with
  | on same kept => rw [same]; exact away (kept.symm.trans gone)
  | out _ out _ => exact out
  | back _ _ kept => rw [kept] at gone; cases gone

/-- Who left by jumping out is out of reach. -/
def Sheltered (craft : Spacecraft) : Prop :=
  craft.departed = true → craft.isAway = true ∧ craft.alive = true

theorem Sheltered.wanes {before after : Spacecraft} (sheltered : before.Sheltered)
    (wanes : before.Wanes after) : after.Sheltered := by
  intro gone
  obtain ⟨away, alive⟩ := sheltered (wanes.departed.symm.trans gone)
  exact ⟨wanes.isAway.trans away, (wanes.sheltered away).trans alive⟩

theorem simulate_of_dead {craft : Spacecraft} (dead : craft.alive = false) (dt : Scalar) :
    (craft.simulate dt).2 = craft := by
  simp only [simulate, dead, Bool.false_eq_true, not_false_eq_true, ↓reduceIte]

theorem Sheltered.simulate {craft : Spacecraft} (sheltered : craft.Sheltered) (dt : Scalar) :
    (craft.simulate dt).2.Sheltered := by
  cases alive : craft.alive with
  | false =>
    rw [simulate_of_dead alive]
    exact sheltered
  | true =>
    intro gone
    exact ⟨simulate_away dt (fun left => (sheltered left).1) gone,
      (craft.simulate_lasting dt).1.trans alive⟩

theorem Sheltered.not_departed {craft : Spacecraft} (sheltered : craft.Sheltered)
    (here : craft.isPresent = true ∨ craft.alive = false) : craft.departed = false := by
  cases gone : craft.departed with
  | false => rfl
  | true =>
    obtain ⟨away, alive⟩ := sheltered gone
    simp only [isPresent, away, alive, Bool.not_true, Bool.and_false, Bool.false_eq_true,
      Bool.true_eq_false, or_self] at here

end Spacecraft

namespace World

/-- Pointwise the decline of spacecraft that keep their indices. -/
structure Declines (before after : World) : Prop where
  size : after.crafts.size = before.crafts.size
  crafts : ∀ index craft, before.craft? index = some craft →
    ∃ later, after.craft? index = some later ∧ craft.Declines later

theorem Declines.refl (world : World) : world.Declines world :=
  ⟨rfl, fun _ craft found => ⟨craft, found, .refl craft⟩⟩

theorem Declines.trans {first second third : World} (early : first.Declines second)
    (late : second.Declines third) : first.Declines third := by
  refine ⟨late.size.trans early.size, ?_⟩
  intro index craft found
  obtain ⟨middle, there, changed⟩ := early.crafts index craft found
  obtain ⟨last, here, further⟩ := late.crafts index middle there
  exact ⟨last, here, changed.trans further⟩

theorem Declines.of_same {before after : World} (crafts : after.crafts = before.crafts) :
    before.Declines after := by
  refine ⟨by rw [crafts], fun index craft found => ⟨craft, ?_, .refl craft⟩⟩
  simpa only [craft?, crafts] using found

/-- The lists are pruned, and who left by jumping out is away and not among those that take part. -/
structure Parted (world : World) : Prop where
  pruned : world.settings.multiActor = false
  away : ∀ index craft, world.craft? index = some craft → craft.departed = true →
    craft.isAway = true
  unlisted : ∀ index craft, world.craft? index = some craft → craft.departed = true →
    index ∉ world.listed

theorem Parted.proceeds {before after : World} (parted : before.Parted)
    (proceeds : Proceeds Spacecraft.Wanes before after) : after.Parted := by
  refine ⟨by rw [proceeds.settings]; exact parted.pruned, ?_, ?_⟩
  · intro index later found gone
    obtain ⟨craft, there, wanes⟩ := proceeds.before found
    rw [wanes.isAway]
    exact parted.away index craft there (wanes.departed.symm.trans gone)
  · intro index later found gone
    obtain ⟨craft, there, wanes⟩ := proceeds.before found
    rw [proceeds.listed]
    exact parted.unlisted index craft there (wanes.departed.symm.trans gone)

theorem Parted.declines {before after : World} (parted : before.Parted)
    (proceeds : Proceeds Spacecraft.Wanes before after) : before.Declines after := by
  refine ⟨proceeds.size, ?_⟩
  intro index craft found
  obtain ⟨later, there, wanes⟩ := proceeds.crafts index craft found
  exact ⟨later, there, wanes.declines (parted.away index craft found)⟩

/-- All who left by jumping out are out of reach. -/
def Sheltered (world : World) : Prop :=
  ∀ index craft, world.craft? index = some craft → craft.Sheltered

theorem Sheltered.proceeds {before after : World} (sheltered : before.Sheltered)
    (proceeds : Proceeds Spacecraft.Wanes before after) : after.Sheltered := by
  intro index later found
  obtain ⟨craft, there, wanes⟩ := proceeds.before found
  exact (sheltered index craft there).wanes wanes

/-- The flight of a step: that of each spacecraft, and then the lists. -/
theorem simulateCrafts_same (world : World) (dt : Scalar) :
    ∃ crafts hitObjects, (simulateEach dt world.listed world).2 = { world with crafts } ∧
      crafts.size = world.crafts.size ∧
      world.simulateCrafts dt = ({ world with crafts, hitObjects } : World).prune := by
  obtain ⟨crafts, flown, size⟩ := simulateEach_same dt world.listed world
  obtain ⟨hitObjects, added, _, _⟩ := foldl_addHitObject (simulateEach dt world.listed world).2
    (((world.listed.zip (simulateEach dt world.listed world).1).filter
      fun craft => craft.2 == some JumpWay.inward).map Prod.fst)
  refine ⟨crafts, hitObjects, flown, size, ?_⟩
  unfold simulateCrafts
  dsimp only
  rw [added, flown]

theorem craft?_simulateCrafts (world : World) (dt : Scalar) (index : Nat) :
    (world.simulateCrafts dt).craft? index =
      (simulateEach dt world.listed world).2.craft? index := by
  obtain ⟨_, _, flown, _, after⟩ := world.simulateCrafts_same dt
  rw [after, flown]
  rfl

/-- Who left by jumping out does not fly any more. -/
theorem simulateCrafts_declines {world : World} (parted : world.Parted) (dt : Scalar) :
    world.Declines (world.simulateCrafts dt) := by
  refine ⟨?_, ?_⟩
  · obtain ⟨_, _, _, size, after⟩ := world.simulateCrafts_same dt
    rw [after]
    exact size
  · intro index craft found
    rw [craft?_simulateCrafts]
    cases here : craft.departed with
    | true =>
      have resting := simulateEach_other dt _ world (parted.unlisted index craft found here)
      exact ⟨craft, resting.trans found, .refl craft⟩
    | false =>
      obtain ⟨later, there, lasting⟩ := simulateEach_crafts
        (R := fun before after => after.alive = before.alive ∧ after.hull = before.hull ∧
          after.craftClass = before.craftClass)
        (fun _ => ⟨rfl, rfl, rfl⟩)
        (fun _ _ _ early late => ⟨late.1.trans early.1, late.2.1.trans early.2.1,
          late.2.2.trans early.2.2⟩)
        dt (fun craft => craft.simulate_lasting dt) world.listed world found
      exact ⟨later, there, .of_here here lasting⟩

/-- What a step of flight keeps for each spacecraft is kept for all. -/
theorem simulateCrafts_each {P : Spacecraft → Prop} {dt : Scalar}
    (flown : ∀ craft : Spacecraft, P craft → P (craft.simulate dt).2) {world : World}
    (each : ∀ index craft, world.craft? index = some craft → P craft) {index : Nat}
    {later : Spacecraft} (found : (world.simulateCrafts dt).craft? index = some later) :
    P later := by
  obtain ⟨crafts, same, size⟩ := simulateEach_same dt world.listed world
  rw [craft?_simulateCrafts] at found
  obtain ⟨craft, there, kept⟩ := craft?_before (by rw [same]; exact size) (fun _ _ =>
    simulateEach_crafts (R := fun before after => P before → P after) (fun _ held => held)
      (fun _ _ _ early late held => late (early held)) dt flown world.listed world) found
  exact kept (each index craft there)

/-- Who leaves by jumping out is not listed any more. -/
theorem Parted.simulateCrafts {world : World} (parted : world.Parted) (dt : Scalar) :
    (world.simulateCrafts dt).Parted := by
  obtain ⟨_, _, _, _, after⟩ := world.simulateCrafts_same dt
  refine ⟨by rw [after]; exact parted.pruned, ?_, ?_⟩
  · intro index later found
    exact simulateCrafts_each (P := fun craft => craft.departed = true → craft.isAway = true)
      (fun craft away => craft.simulate_away dt away) parted.away found
  · intro index later found gone listed
    rw [after] at found listed
    unfold prune at found listed
    simp only [craft?] at found
    simp only [parted.pruned, Bool.false_eq_true, ↓reduceIte, List.mem_filter, craft?, found,
      Option.any_some, gone, Bool.not_true, Bool.and_false, and_false] at listed

end World

namespace Mission

variable {π : Type}

theorem ofDescriptor_settings (descriptor : MissionDescriptor) (catalog : Catalog)
    (settings : Settings) (pools : Pools) :
    (ofDescriptor (π := π) descriptor catalog settings pools).world.settings = settings := by
  obtain ⟨_, _, _, _, _, _, loaded⟩ := LoadedMission.ofDescriptor_same descriptor catalog settings
    (pools.prefill settings.poolSizes)
  have started (world : World) (state : MissionState) :
      (world.setState state).settings = world.settings :=
    (world.setState_changes state).settings
  rw [ofDescriptor, started, loaded]

theorem ofDescriptor_parted (descriptor : MissionDescriptor) (catalog : Catalog)
    {settings : Settings} (single : settings.multiActor = false) (pools : Pools) :
    (ofDescriptor (π := π) descriptor catalog settings pools).world.Parted := by
  refine ⟨by rw [ofDescriptor_settings]; exact single, ?_, ?_⟩
  · intro index craft found gone
    rw [(ofDescriptor_untried descriptor catalog settings pools found).departed] at gone
    cases gone
  · intro index craft found gone
    rw [(ofDescriptor_untried descriptor catalog settings pools found).departed] at gone
    cases gone

theorem ofDescriptor_sheltered (descriptor : MissionDescriptor) (catalog : Catalog)
    (settings : Settings) (pools : Pools) :
    (ofDescriptor (π := π) descriptor catalog settings pools).world.Sheltered := by
  intro index craft found gone
  rw [(ofDescriptor_untried descriptor catalog settings pools found).departed] at gone
  cases gone

theorem sight_parted {mission : Mission π} (parted : mission.world.Parted) (dt : Scalar)
    (index : Nat) : (mission.sight dt index).Parted :=
  parted.proceeds
    ((mission.sight_changes dt index).proceeds Spacecraft.wanes_bears.toSpans (by decide))

theorem sight_sheltered {mission : Mission π} (sheltered : mission.world.Sheltered) (dt : Scalar)
    (index : Nat) : (mission.sight dt index).Sheltered :=
  sheltered.proceeds
    ((mission.sight_changes dt index).proceeds Spacecraft.wanes_bears.toSpans (by decide))

/-- From the start of a step to what an event sees in it. -/
theorem sight_declines {mission : Mission π} (parted : mission.world.Parted) (dt : Scalar)
    (index : Nat) : mission.world.Declines (mission.sight dt index) :=
  parted.declines
    ((mission.sight_changes dt index).proceeds Spacecraft.wanes_bears.toSpans (by decide))

theorem runRules_parted {mission : Mission π} (parted : mission.world.Parted) (dt : Scalar) :
    (mission.runRules dt).world.Parted := by
  have ruled := parted.proceeds
    ((mission.waited_ruled_changes dt).proceeds Spacecraft.wanes_bears.toSpans (by decide))
  rw [runRules, runEvents_world]
  exact ⟨ruled.pruned, ruled.away, ruled.unlisted⟩

variable [Pilot π]

/-- What follows the rules of a step. -/
theorem runRules_tick {mission : Mission π} {dt : Scalar} (accepted : accepts dt = true)
    (parted : (mission.runRules dt).world.Parted) :
    (mission.tick dt).world.Parted ∧
      (mission.runRules dt).world.Declines (mission.tick dt).world := by
  have steered : World.Proceeds Spacecraft.Wanes _ _ :=
    ((mission.runRules dt).controlCrafts_changes dt).proceeds Spacecraft.wanes_bears.toSpans
      (by decide)
  have flying := parted.proceeds steered
  have flown : (mission.flown dt).world.Parted := flying.simulateCrafts dt
  have fight : World.Proceeds Spacecraft.Wanes (mission.flown dt).world (mission.tick dt).world :=
    (fight_proceeds Spacecraft.wanes_bears (mission.flown dt) dt).trans
      Spacecraft.wanes_bears.toSpans
        ((mission.fought_tick_changes accepted).proceeds Spacecraft.wanes_bears.toSpans (by decide))
  exact ⟨flown.proceeds fight, ((parted.declines steered).trans
    (World.simulateCrafts_declines flying dt)).trans (flown.declines fight)⟩

theorem take_parted (mission : Mission π) (input : Input π) (parted : mission.world.Parted) :
    (mission.take input).world.Parted := by
  rcases mission.take_cases input with ⟨dt, rfl, accepted⟩ | ⟨world, _, _⟩
  · exact (runRules_tick accepted (runRules_parted parted dt)).1
  · rw [world]
    exact parted

/-- From what an event sees in a step to the end of the step. -/
theorem sight_tick_declines {mission : Mission π} {dt : Scalar} (accepted : accepts dt = true)
    (parted : mission.world.Parted) (index : Nat) :
    (mission.sight dt index).Declines (mission.tick dt).world := by
  have ruled := (sight_parted parted dt index).declines
    ((mission.sight_ruled_changes dt index).proceeds Spacecraft.wanes_bears.toSpans (by decide))
  have retired : ((mission.waited dt).ruled dt).Declines (mission.runRules dt).world := by
    rw [runRules, runEvents_world]
    exact .of_same rfl
  exact (ruled.trans retired).trans (runRules_tick accepted (runRules_parted parted dt)).2

theorem tick_sheltered {mission : Mission π} (sheltered : mission.world.Sheltered) {dt : Scalar}
    (accepted : accepts dt = true) : (mission.tick dt).world.Sheltered := by
  have ruled : (mission.runRules dt).world.Sheltered := by
    have acted := sheltered.proceeds
      ((mission.waited_ruled_changes dt).proceeds Spacecraft.wanes_bears.toSpans (by decide))
    rw [runRules, runEvents_world]
    exact acted
  have steered := ruled.proceeds
    (((mission.runRules dt).controlCrafts_changes dt).proceeds Spacecraft.wanes_bears.toSpans
      (by decide))
  have flown : (mission.flown dt).world.Sheltered := fun _ _ =>
    World.simulateCrafts_each (fun _ sheltered => sheltered.simulate dt) steered
  exact (flown.proceeds (fight_proceeds Spacecraft.wanes_bears (mission.flown dt) dt)).proceeds
    ((mission.fought_tick_changes accepted).proceeds Spacecraft.wanes_bears.toSpans (by decide))

theorem take_sheltered (mission : Mission π) (input : Input π)
    (sheltered : mission.world.Sheltered) : (mission.take input).world.Sheltered := by
  rcases mission.take_cases input with ⟨dt, rfl, accepted⟩ | ⟨world, _, _⟩
  · exact tick_sheltered sheltered accepted
  · rw [world]
    exact sheltered

theorem Reachable.sheltered {mission : Mission π} (reachable : mission.Reachable) :
    mission.world.Sheltered := by
  obtain ⟨descriptor, catalog, settings, pools, inputs, rfl⟩ := reachable
  exact play_keeps (fun mission => mission.world.Sheltered) take_sheltered _ inputs
    (ofDescriptor_sheltered descriptor catalog settings pools)

theorem take_settings (mission : Mission π) (input : Input π) :
    (mission.take input).world.settings = mission.world.settings := by
  rcases mission.take_cases input with ⟨dt, rfl, accepted⟩ | ⟨world, _, _⟩
  · exact (mission.tick_changes accepted).settings
  · rw [world]

/-- Where the lists are pruned, who left by jumping out is not listed, at any time of any run. -/
theorem Reachable.parted {mission : Mission π} (reachable : mission.Reachable)
    (single : mission.world.settings.multiActor = false) : mission.world.Parted := by
  obtain ⟨descriptor, catalog, settings, pools, inputs, rfl⟩ := reachable
  have kept := play_keeps (fun mission : Mission π => mission.world.settings = settings)
    (fun mission input same => (mission.take_settings input).trans same)
    (ofDescriptor descriptor catalog settings pools) inputs (ofDescriptor_settings ..)
  rw [kept] at single
  exact play_keeps (fun mission => mission.world.Parted) take_parted _ inputs
    (ofDescriptor_parted descriptor catalog single pools)

end Mission

end Sortie
