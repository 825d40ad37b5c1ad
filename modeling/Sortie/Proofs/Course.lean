import Sortie.Proofs.Phases
import Sortie.Proofs.PoolSlots

set_option autoImplicit false

namespace Sortie

namespace Spacecraft

/-- A change that touches neither hull nor shield of a spacecraft, nor its side, its life and its
kills, nor whether it is away or gone. The jump of a dead one stands still. -/
structure Mild (before after : Spacecraft) : Prop where
  craftClass : after.craftClass = before.craftClass
  team : after.team = before.team
  hull : after.hull = before.hull
  shield : after.shield = before.shield
  alive : after.alive = before.alive
  kills : after.stats.kills = before.stats.kills
  isAway : after.isAway = before.isAway
  departed : after.departed = before.departed
  halted : before.alive = false → after.jump = before.jump

/-- What a mild change leaves alone, but for a jump that begins. -/
def makeup (craft : Spacecraft) :
    CraftClass × Option String × Scalar × Scalar × Bool × Nat × Bool × JumpState :=
  (craft.craftClass, craft.team, craft.hull, craft.shield, craft.alive, craft.stats.kills,
    craft.departed, craft.jump)

theorem Mild.of_makeup {before after : Spacecraft} (same : after.makeup = before.makeup) :
    before.Mild after := by
  simp only [makeup, Prod.mk.injEq] at same
  obtain ⟨craftClass, team, hull, shield, alive, kills, departed, jump⟩ := same
  exact ⟨craftClass, team, hull, shield, alive, kills, by rw [Spacecraft.isAway, jump]; rfl, departed,
    fun _ => jump⟩

theorem Mild.refl (craft : Spacecraft) : craft.Mild craft := .of_makeup rfl

theorem Mild.trans {first second third : Spacecraft} (early : first.Mild second)
    (late : second.Mild third) : first.Mild third :=
  ⟨late.craftClass.trans early.craftClass, late.team.trans early.team,
    late.hull.trans early.hull, late.shield.trans early.shield, late.alive.trans early.alive,
    late.kills.trans early.kills, late.isAway.trans early.isAway,
    late.departed.trans early.departed, fun dead =>
      (late.halted (early.alive.trans dead)).trans (early.halted dead)⟩

/-- A relation that spans any number of mild changes. -/
structure Spans (R : Spacecraft → Spacecraft → Prop) : Prop where
  mild : ∀ before after, before.Mild after → R before after
  trans : ∀ first second third, R first second → R second third → R first third

/-- A relation that spans damage in the battle space and the credit for it too. -/
structure Bears (R : Spacecraft → Spacecraft → Prop) : Prop extends Spans R where
  isAway : ∀ before after, R before after → after.isAway = before.isAway
  damaged : ∀ craft amount, craft.isAway = false → R craft (craft.damage amount).2
  credited : ∀ (craft : Spacecraft) stats, R craft { craft with stats }

theorem mild_spans : Spans Mild := ⟨fun _ _ mild => mild, fun _ _ _ early late => early.trans late⟩

theorem setTarget_mild (craft : Spacecraft) (target : Option Nat) :
    craft.Mild (craft.setTarget target).2 := by
  unfold setTarget
  split
  · exact .refl craft
  · exact .of_makeup rfl

/-- A jump that begins takes nobody out of the battle space or into it. -/
theorem obey_mild (craft : Spacecraft) (command : Command) : craft.Mild (craft.obey command).2 := by
  cases command with
  | jump way =>
    cases way <;> cases jump : craft.jump <;> simp only [obey, jump]
    case outward.present =>
      split
      · rename_i alive
        exact ⟨rfl, rfl, rfl, rfl, rfl, rfl, by simp only [isAway, jump], rfl,
          fun dead => absurd (alive.symm.trans dead) (by decide)⟩
      · exact .refl craft
    case inward.away =>
      split
      · rename_i alive
        exact ⟨rfl, rfl, rfl, rfl, rfl, rfl, by simp only [isAway, jump], rfl,
          fun dead => absurd (alive.symm.trans dead) (by decide)⟩
      · exact .refl craft
    all_goals exact .refl craft
  | target single list priority =>
    have listed : craft.Mild { craft with targetList := list, priorityTargets := priority } :=
      .of_makeup rfl
    simp only [obey]
    split
    · exact listed
    · exact listed.trans (setTarget_mild _ _)
  | reachDistance goal => exact .of_makeup rfl

theorem steer_mild (craft : Spacecraft) (intent : Intent) (dt : Scalar) :
    craft.Mild (craft.steer intent dt) := by
  unfold steer
  split
  · exact .refl craft
  · exact .of_makeup rfl

theorem damage_isAway (craft : Spacecraft) (amount : Scalar) :
    (craft.damage amount).2.isAway = craft.isAway := by
  unfold damage
  split
  · rfl
  · rfl

theorem damage_departed (craft : Spacecraft) (amount : Scalar) :
    (craft.damage amount).2.departed = craft.departed := by
  unfold damage
  split
  · rfl
  · rfl

theorem not_isAway_of_isPresent {craft : Spacecraft} (present : craft.isPresent = true) :
    craft.isAway = false := by
  simp only [isPresent, Bool.and_eq_true, Bool.not_eq_true'] at present
  exact present.2

end Spacecraft

namespace NoticeLog

/-- The same log with more notices. -/
structure Grows (before after : NoticeLog) : Prop where
  base : after.base = before.base
  kept : before.kept <+: after.kept

theorem Grows.refl (log : NoticeLog) : log.Grows log := ⟨rfl, List.prefix_rfl⟩

theorem Grows.trans {first second third : NoticeLog} (early : first.Grows second)
    (late : second.Grows third) : first.Grows third :=
  ⟨late.base.trans early.base, early.kept.trans late.kept⟩

theorem push_grows (log : NoticeLog) (notice : Notice) : log.Grows (log.push notice) :=
  ⟨rfl, List.prefix_append _ _⟩

end NoticeLog

namespace World

/-- Until old notices are dropped, the log only grows. -/
theorem Change.grows {kind : ChangeKind} {before after : World} (change : Change kind before after)
    (kept : kind ≠ .retire) : before.notices.Grows after.notices := by
  cases change with
  | retire => exact absurd rfl kept
  | sight target source => exact before.notices.push_grows (.targeted target source)
  | hit target attacker => exact before.notices.push_grows (.hit target attacker)
  | _ => exact .refl _

theorem Changes.grows {kinds : List ChangeKind} {before after : World}
    (changes : Changes kinds before after) (kept : .retire ∉ kinds) :
    before.notices.Grows after.notices :=
  changes.lift (R := fun before after => before.notices.Grows after.notices) (fun _ => .refl _)
    (fun _ _ _ early late => early.trans late)
    fun _ member _ _ change => change.grows (ne_of_mem_of_not_mem member kept)

/-- A change of a world that keeps its lists and settings, only adds notices, and relates every
spacecraft to what becomes of it. -/
structure Proceeds (R : Spacecraft → Spacecraft → Prop) (before after : World) : Prop where
  size : after.crafts.size = before.crafts.size
  listed : after.listed = before.listed
  hitObjects : after.hitObjects = before.hitObjects
  settings : after.settings = before.settings
  notices : before.notices.Grows after.notices
  crafts : ∀ index craft, before.craft? index = some craft →
    ∃ later, after.craft? index = some later ∧ R craft later

variable {R : Spacecraft → Spacecraft → Prop}

theorem Proceeds.of_same (spans : Spacecraft.Spans R) {before after : World}
    (crafts : after.crafts = before.crafts) (listed : after.listed = before.listed)
    (hitObjects : after.hitObjects = before.hitObjects)
    (settings : after.settings = before.settings)
    (notices : before.notices.Grows after.notices) : Proceeds R before after := by
  refine ⟨by rw [crafts], listed, hitObjects, settings, notices, ?_⟩
  intro index craft found
  exact ⟨craft, by simpa only [craft?, crafts] using found, spans.mild _ _ (.refl craft)⟩

theorem Proceeds.refl (spans : Spacecraft.Spans R) (world : World) : Proceeds R world world :=
  .of_same spans rfl rfl rfl rfl (.refl _)

theorem Proceeds.trans (spans : Spacecraft.Spans R) {first second third : World}
    (early : Proceeds R first second) (late : Proceeds R second third) :
    Proceeds R first third := by
  refine ⟨late.size.trans early.size, late.listed.trans early.listed,
    late.hitObjects.trans early.hitObjects, late.settings.trans early.settings,
    early.notices.trans late.notices, ?_⟩
  intro index craft found
  obtain ⟨middle, there, changed⟩ := early.crafts index craft found
  obtain ⟨last, here, further⟩ := late.crafts index middle there
  exact ⟨last, here, spans.trans _ _ _ changed further⟩

theorem Proceeds.ite {before first second : World} (condition : Prop) [Decidable condition]
    (yes : Proceeds R before first) (no : Proceeds R before second) :
    Proceeds R before (if condition then first else second) := by
  split
  · exact yes
  · exact no

/-- Every index of the arena has a spacecraft after the change just if it has one before. -/
theorem Proceeds.before {before after : World} (proceeds : Proceeds R before after)
    {index : Nat} {later : Spacecraft} (found : after.craft? index = some later) :
    ∃ craft, before.craft? index = some craft ∧ R craft later :=
  craft?_before proceeds.size proceeds.crafts found

theorem setCraft_proceeds (spans : Spacecraft.Spans R) {world : World} {index : Nat}
    {craft fresh : Spacecraft} (found : world.craft? index = some craft) (related : R craft fresh) :
    Proceeds R world (world.setCraft index fresh) := by
  refine ⟨by simp [setCraft], rfl, rfl, rfl, .refl _, ?_⟩
  intro other old present
  rw [craft?_setCraft]
  by_cases same : index = other
  · subst same
    rw [found] at present
    cases present
    exact ⟨fresh, by simp [found], related⟩
  · exact ⟨old, by simp [same, present], spans.mild _ _ (.refl old)⟩

theorem setCraft_mild (spans : Spacecraft.Spans R) {world : World} {index : Nat}
    {craft fresh : Spacecraft} (found : world.craft? index = some craft)
    (mild : craft.Mild fresh) : Proceeds R world (world.setCraft index fresh) :=
  setCraft_proceeds spans found (spans.mild _ _ mild)

theorem notify_proceeds (spans : Spacecraft.Spans R) (world : World) (notice : Notice) :
    Proceeds R world (world.notify notice) :=
  .of_same spans rfl rfl rfl rfl (world.notices.push_grows notice)

theorem Proceeds.withPools (spans : Spacecraft.Spans R) {before after : World}
    (proceeds : Proceeds R before after) (pools : Pools) :
    Proceeds R before { after with pools } :=
  proceeds.trans spans (.of_same spans rfl rfl rfl rfl (.refl _))

theorem translate_proceeds (spans : Spacecraft.Spans R) (world : World) (offset : Vec) :
    Proceeds R world (world.translate offset) := by
  refine ⟨by simp [translate], rfl, rfl, rfl, .refl _, ?_⟩
  intro index craft found
  refine ⟨craft.translate offset, ?_, spans.mild _ _ (.of_makeup rfl)⟩
  simp only [craft?, translate, Array.getElem?_map] at found ⊢
  rw [found, Option.map_some]

/-- Neither flight nor damage is mild, and a log that notices are dropped from does not grow. -/
theorem Change.proceeds {kind : ChangeKind} {before after : World}
    (spans : Spacecraft.Spans R) (change : Change kind before after)
    (mild : kind ∉ [.retire, .fly, .arrive, .prune, .harm, .credit]) : Proceeds R before after := by
  cases change with
  | retire | fly | arrive | prune | harm | credit => exact absurd (by decide) mild
  | aim target found => exact setCraft_mild spans found (Spacecraft.setTarget_mild _ target)
  | steer intent dt found => exact setCraft_mild spans found (Spacecraft.steer_mild _ intent dt)
  | fire _ _ _ _ _ found =>
    apply Proceeds.withPools spans
    exact setCraft_mild spans found (.of_makeup rfl)
  | launch _ _ _ _ _ found =>
    apply Proceeds.withPools spans
    exact setCraft_mild spans found (.of_makeup rfl)
  | obey command found => exact setCraft_mild spans found (Spacecraft.obey_mild _ command)
  | push _ _ found => exact setCraft_mild spans found (.of_makeup rfl)
  | count found => exact setCraft_mild spans found (.of_makeup rfl)
  | sight => exact notify_proceeds spans _ _
  | hit => exact notify_proceeds spans _ _
  | shift offset => exact translate_proceeds spans _ offset
  | _ => exact .of_same spans rfl rfl rfl rfl (.refl _)

theorem Changes.proceeds {kinds : List ChangeKind} {before after : World}
    (changes : Changes kinds before after) (spans : Spacecraft.Spans R)
    (mild : ∀ kind ∈ kinds, kind ∉ [.retire, .fly, .arrive, .prune, .harm, .credit]) :
    Proceeds R before after :=
  changes.lift (.refl spans) (fun _ _ _ early late => early.trans spans late)
    fun kind member _ _ change => change.proceeds spans (mild kind member)

/-- Whether no spacecraft of an index is outside the battle space. -/
def Near (world : World) (index : Nat) : Prop :=
  ∀ craft, world.craft? index = some craft → craft.isAway = false

theorem Near.of_isPresent {world : World} {index : Nat} {craft : Spacecraft}
    (found : world.craft? index = some craft) (present : craft.isPresent = true) :
    world.Near index := by
  intro other there
  rw [found] at there
  cases there
  exact Spacecraft.not_isAway_of_isPresent present

theorem Near.proceeds (bears : Spacecraft.Bears R) {before after : World} {index : Nat}
    (near : before.Near index) (proceeds : Proceeds R before after) : after.Near index := by
  intro later found
  obtain ⟨craft, there, related⟩ := proceeds.before found
  rw [bears.isAway _ _ related]
  exact near craft there

theorem creditDamage_proceeds (bears : Spacecraft.Bears R) (world : World)
    (attacker : Option Nat) (hostile : Bool) (outcome : DamageOutcome) :
    Proceeds R world (world.creditDamage attacker hostile outcome) := by
  rcases world.creditDamage_cases attacker hostile outcome with
    idle | ⟨index, pilot, _, _, _, found, credited⟩
  · rw [idle]
    exact .refl bears.toSpans world
  · rw [credited]
    exact setCraft_proceeds bears.toSpans found (bears.credited _ _)

theorem applyDamage_proceeds (bears : Spacecraft.Bears R) (world : World) (target : Nat)
    (amount : Scalar) (attacker : Option Nat) (near : world.Near target) :
    Proceeds R world (world.applyDamage target amount attacker).2 := by
  have spans := bears.toSpans
  rcases world.applyDamage_cases target amount attacker with
    idle | ⟨victim, scaled, found, _, done⟩
  · rw [idle]
    exact .refl spans world
  · have harmed := (setCraft_proceeds spans found
      (bears.damaged victim scaled (near victim found))).trans spans
        (notify_proceeds spans _ (.hit target attacker))
    have struck : Proceeds R world (world.struck target attacker (victim.damage scaled)) :=
      harmed.trans spans (creditDamage_proceeds bears _ attacker _ _)
    rw [done]
    exact .ite _ (.withPools spans struck _) struck

end World

end Sortie
