import Sortie.Proofs.Decline
import Sortie.Proofs.Deeds
import Sortie.Proofs.Guests

set_option autoImplicit false

namespace Sortie

namespace World

theorem craft?_dispatch (world : World) (index other : Nat) (command : Command) :
    (world.dispatch index command).craft? other =
      if index = other then (world.craft? index).map fun craft => (craft.obey command).2
      else world.craft? other := by
  unfold dispatch
  cases found : world.craft? index with
  | none =>
    dsimp only
    split
    · rename_i same
      rw [← same, found, Option.map_none]
    · rfl
  | some craft =>
    have set := world.craft?_setCraft index other (craft.obey command).2
    rw [found, Option.map_some] at set
    dsimp only [Option.map_some]
    split
    · exact set
    · exact set

/-- The notice that a command to a spacecraft causes: that it has another target. -/
def targeting? (world : World) (command : Command) (index : Nat) : Option Notice :=
  (world.craft? index).bind fun craft => (craft.obey command).1.map (.targeted · index)

theorem dispatch_notices (world : World) (index : Nat) (command : Command) :
    (world.dispatch index command).notices.kept =
      world.notices.kept ++ (world.targeting? command index).toList := by
  unfold dispatch targeting?
  cases found : world.craft? index with
  | none => exact (List.append_nil _).symm
  | some craft =>
    dsimp only [Option.bind_some]
    cases (craft.obey command).1 with
    | none => exact (List.append_nil _).symm
    | some target => rfl

/-- What a command to some spacecraft does: each of them obeys it, which is told in their order, and
notices tell of those that have another target now. Nothing becomes of the others. -/
structure Commands (command : Command) (recipients : List Nat) (before after : World) : Prop where
  crafts : ∀ index, after.craft? index =
    if index ∈ recipients then (before.craft? index).map fun craft => (craft.obey command).2
    else before.craft? index
  observations : after.observations.toList =
    before.observations.toList ++ recipients.map (.command · command)
  notices : after.notices.kept =
    before.notices.kept ++ recipients.filterMap (before.targeting? command)

theorem dispatchAll_commands (command : Command) (recipients : List Nat) (world : World)
    (once : recipients.Nodup) (inside : ∀ index ∈ recipients, (world.craft? index).isSome = true) :
    Commands command recipients world
      (recipients.foldl (fun world craft => world.dispatch craft command) world) := by
  induction recipients generalizing world with
  | nil => exact ⟨fun _ => rfl, (List.append_nil _).symm, (List.append_nil _).symm⟩
  | cons first rest ih =>
    obtain ⟨fresh, others⟩ := List.nodup_cons.mp once
    -- The others of the list still are as they were when the first one has obeyed.
    have still (index : Nat) (member : index ∈ rest) :
        (world.dispatch first command).craft? index = world.craft? index := by
      rw [craft?_dispatch, if_neg]
      rintro rfl
      exact fresh member
    have later := ih (world.dispatch first command) others fun index member => by
      rw [still index member]
      exact inside index (List.mem_cons_of_mem first member)
    refine ⟨fun index => ?_, ?_, ?_⟩
    · rw [List.foldl_cons, later.crafts]
      by_cases member : index ∈ rest
      · rw [if_pos member, if_pos (List.mem_cons_of_mem first member), still index member]
      · rw [if_neg member, craft?_dispatch]
        by_cases same : first = index
        · subst same
          rw [if_pos rfl, if_pos List.mem_cons_self]
        · rw [if_neg same, if_neg (List.not_mem_cons_of_ne_of_not_mem (Ne.symm same) member)]
    · rw [List.foldl_cons, later.observations, dispatch_observations,
        if_pos (inside first List.mem_cons_self), Array.toList_push, List.append_assoc]
      rfl
    · have same : rest.filterMap ((world.dispatch first command).targeting? command) =
          rest.filterMap (world.targeting? command) :=
        List.filterMap_congr fun index member => by
          rw [targeting?, still index member, targeting?]
      rw [List.foldl_cons, later.notices, dispatch_notices, same, List.append_assoc]
      cases told : world.targeting? command first with
      | none => rw [List.filterMap_cons_none told]; rfl
      | some notice => rw [List.filterMap_cons_some told]; rfl

/-- A world of the same lists and settings, in which spacecraft at most carried out commands. -/
structure Serves (before after : World) : Prop where
  listed : after.listed = before.listed
  settings : after.settings = before.settings
  size : after.crafts.size = before.crafts.size
  crafts : ∀ index craft, before.craft? index = some craft →
    ∃ later, after.craft? index = some later ∧ craft.Mild later

theorem serves_kept (start : World) : Kept start.Serves where
  same {before after} serves _ crafts _ _ listed settings := by
    have same (index : Nat) : after.craft? index = before.craft? index := by
      rw [craft?, crafts, craft?]
    refine ⟨listed.trans serves.listed, settings.trans serves.settings,
      (congrArg Array.size crafts).trans serves.size, fun index craft found => ?_⟩
    rw [same]
    exact serves.crafts index craft found
  executed action world serves := by
    have done := (action.execute_changes world).proceeds Spacecraft.mild_spans (by decide)
    refine ⟨done.listed.trans serves.listed, done.settings.trans serves.settings,
      done.size.trans serves.size, fun index craft found => ?_⟩
    obtain ⟨middle, there, early⟩ := serves.crafts index craft found
    obtain ⟨later, here, late⟩ := done.crafts index middle there
    exact ⟨later, here, early.trans late⟩

end World

namespace Mission

variable {π : Type}

theorem deeds_serve (mission : Mission π) (dt : Scalar) :
    ∀ deed ∈ mission.deeds dt, mission.world.Serves deed.2 :=
  (runRules_through (World.serves_kept mission.world) mission dt
    ⟨rfl, rfl, rfl, fun _ craft found => ⟨craft, found, .refl craft⟩⟩).deeds

variable [Pilot π]

/-- Whether the collisions and shots of the latest step of a run have destroyed a spacecraft. -/
def LatelyLost (mission : Mission π) (inputs : List (Input π)) (index : Nat) : Prop :=
  ∃ before dt after, inputs = before ++ .tick dt :: after ∧ accepts dt = true ∧
    (∀ late, .tick late ∈ after → accepts late = false) ∧
    (∃ craft, ((mission.play before).flown dt).world.craft? index = some craft ∧
      craft.takesPart = true) ∧
    ∃ craft, ((mission.play before).fought dt).world.craft? index = some craft ∧
      craft.alive = false

/-- What is no accepted step takes no spacecraft off the latest losses. -/
theorem LatelyLost.take {mission : Mission π} {inputs : List (Input π)} {index : Nat}
    (lost : mission.LatelyLost inputs index) {input : Input π}
    (idle : ∀ late, input = .tick late → accepts late = false) :
    mission.LatelyLost (inputs ++ [input]) index := by
  obtain ⟨before, dt, after, rfl, accepted, refused, flown, fought⟩ := lost
  refine ⟨before, dt, after ++ [input], by simp, accepted, fun late member => ?_, flown, fought⟩
  rcases List.mem_append.mp member with early | last
  · exact refused late early
  · exact idle late (List.mem_singleton.mp last).symm

/-- Who is listed after a step took part after the flight of it, where the lists are pruned. -/
theorem tick_listed {mission : Mission π} (rostered : mission.world.Rostered)
    (single : mission.world.settings.multiActor = false) {dt : Scalar}
    (accepted : accepts dt = true) {index : Nat} (listed : index ∈ (mission.tick dt).world.listed) :
    ∃ craft, (mission.flown dt).world.craft? index = some craft ∧ craft.takesPart = true := by
  have fight : World.Proceeds Spacecraft.Fares (mission.flown dt).world (mission.tick dt).world :=
    (fight_proceeds Spacecraft.fares_bears (mission.flown dt) dt).trans
      Spacecraft.fares_bears.toSpans
        ((mission.fought_tick_changes accepted).proceeds Spacecraft.fares_bears.toSpans (by decide))
  have settings := (mission.take_settings (.tick dt)).symm.trans fight.settings
  rw [fight.listed, (mission.flown_exact dt rostered).listed, List.mem_filter, ← settings,
    single, Bool.false_or, Option.any_eq_true] at listed
  exact listed.2

/-- Where the lists are pruned, who is listed has not left, and is alive unless lost lately. -/
theorem play_listed {mission : Mission π} (rostered : mission.world.Rostered)
    (single : mission.world.settings.multiActor = false)
    (fresh : ∀ index craft, mission.world.craft? index = some craft → craft.takesPart = true)
    (inputs : List (Input π)) :
    ∀ index ∈ (mission.play inputs).world.listed, ∀ craft,
      (mission.play inputs).world.craft? index = some craft →
        craft.departed = false ∧ (craft.alive = true ∨ mission.LatelyLost inputs index) := by
  induction inputs using List.reverseRecOn with
  | nil =>
    intro index _ craft found
    have fighting := fresh index craft found
    simp only [Spacecraft.takesPart, Bool.and_eq_true, Bool.not_eq_true'] at fighting
    exact ⟨fighting.2, .inl fighting.1⟩
  | append_singleton before input ih =>
    rw [play_append, play_cons, play_nil]
    obtain ⟨still, pruned⟩ := play_keeps (fun mission : Mission π => mission.world.Rostered ∧
      mission.world.settings.multiActor = false)
      (fun mission input kept =>
        ⟨mission.take_rostered input kept.1, by rw [mission.take_settings]; exact kept.2⟩)
      mission before ⟨rostered, single⟩
    intro index listed craft found
    by_cases stepping : ∃ dt, input = .tick dt ∧ accepts dt = true
    · obtain ⟨dt, rfl, accepted⟩ := stepping
      obtain ⟨flier, there, fighting⟩ := tick_listed still pruned accepted listed
      obtain ⟨fighter, fought, fares⟩ := (fight_proceeds Spacecraft.fares_bears
        ((mission.play before).flown dt) dt).crafts index flier there
      have settled := ((mission.play before).fought_tick_changes accepted).proceeds
        Spacecraft.mild_spans (by decide)
      obtain ⟨_, here, mild⟩ := settled.crafts index fighter fought
      cases here.symm.trans found
      have stayed := fighting
      simp only [Spacecraft.takesPart, Bool.and_eq_true, Bool.not_eq_true'] at stayed
      refine ⟨(mild.departed.trans fares.departed).trans stayed.2, ?_⟩
      cases alive : fighter.alive with
      | true => exact .inl (mild.alive.trans alive)
      | false =>
        exact .inr ⟨before, dt, [], rfl, accepted, fun _ none_ => absurd none_ List.not_mem_nil,
          ⟨flier, there, fighting⟩, fighter, fought, alive⟩
    · have world : ((mission.play before).take input).world = (mission.play before).world :=
        ((mission.play before).take_cases input).elim (absurd · stepping) And.left
      rw [world] at listed found
      obtain ⟨stayed, fate⟩ := ih index listed craft found
      refine ⟨stayed, fate.imp_right fun lost => lost.take fun late same => ?_⟩
      exact Bool.eq_false_iff.mpr fun accepted => stepping ⟨late, same, accepted⟩

/-- Who carries out a command to a group: spacecraft of the group in the order of the arena, and
among them all that take part. Where the lists are pruned, the others are lost ones; where all
participants number alike, these are all of the group. -/
structure Recipients (group : SubjectGroup) (lost : Nat → Prop) (world : World)
    (recipients : List Nat) : Prop where
  ordered : recipients.Pairwise (· < ·)
  described : ∀ index ∈ recipients, group.hasIndex world index = true
  fighting : ∀ index craft, world.craft? index = some craft → group.has craft = true →
    craft.takesPart = true → index ∈ recipients
  lasting : world.settings.multiActor = false → ∀ index ∈ recipients, ∀ craft,
    world.craft? index = some craft → craft.departed = false ∧ (craft.alive = true ∨ lost index)
  everyone : world.settings.multiActor = true → ∀ index, group.hasIndex world index = true →
    index ∈ recipients

theorem hasIndex_iff {group : SubjectGroup} {world : World} {index : Nat} :
    group.hasIndex world index = true ↔
      ∃ craft, world.craft? index = some craft ∧ group.has craft = true := by
  rw [SubjectGroup.hasIndex, Option.any_eq_true]

/-- What the listed ones of a group are in a world that the rules of a step have come to. -/
theorem recipients_of_serves {before after : World} (serves : before.Serves after)
    (rostered : before.Rostered) {lost : Nat → Prop}
    (lasting : before.settings.multiActor = false → ∀ index ∈ before.listed, ∀ craft,
      before.craft? index = some craft → craft.departed = false ∧ (craft.alive = true ∨ lost index))
    (group : SubjectGroup) : Recipients group lost after (group.current after) where
  ordered := by
    have whole : after.listed.Sublist (List.range before.crafts.size) := by
      rw [serves.listed]
      exact rostered.listed
    exact List.pairwise_lt_range.sublist (List.filter_sublist.trans whole)
  described index member := (List.mem_filter.mp member).2
  fighting index later found has fighting := by
    obtain ⟨craft, there, mild⟩ := World.craft?_before serves.size serves.crafts found
    have listed := rostered.fighting index craft there
      ((Spacecraft.fares_bears.mild _ _ mild).takesPart fighting)
    rw [SubjectGroup.current, List.mem_filter, serves.listed]
    exact ⟨listed, hasIndex_iff.mpr ⟨later, found, has⟩⟩
  lasting single index member later found := by
    obtain ⟨craft, there, mild⟩ := World.craft?_before serves.size serves.crafts found
    rw [serves.settings] at single
    have listed := (List.mem_filter.mp member).1
    rw [serves.listed] at listed
    rw [mild.departed, mild.alive]
    exact lasting single index listed craft there
  everyone multi index has := by
    rw [serves.settings] at multi
    rw [SubjectGroup.current, List.mem_filter, serves.listed, rostered.everyone multi,
      ← serves.size, List.mem_range]
    obtain ⟨craft, found, _⟩ := hasIndex_iff.mp has
    exact ⟨(Array.getElem?_eq_some_iff.mp found).1, has⟩

theorem execute_command {action : Action} {command : Command}
    (commands : action.kind = .command command) (world : World) :
    (action.execute world).2 = (action.subjects.current world).foldl
      (fun world craft => world.dispatch craft command) world := by
  simp only [Action.execute, commands]
  rfl

/-- A command that a step of a run carries out goes once to each of its recipients, in the order of
the arena, and to nobody else; only recipients cause notices by it. The recipients belong to its
subjects, and all subjects that take part at that moment are among them. Where the lists are pruned,
the others have been destroyed by the collisions and shots of the latest step; where all
participants number alike, the recipients are all of the subjects, in the battle or not. -/
theorem commands_reach_all_who_take_part (descriptor : MissionDescriptor) (catalog : Catalog)
    (settings : Settings) (pools : Pools) (inputs : List (Input π)) (dt : Scalar)
    {action : Action} {world : World} {command : Command}
    (done : (action, world) ∈
      ((ofDescriptor (π := π) descriptor catalog settings pools).play inputs).deeds dt)
    (commands : action.kind = .command command) :
    ∃ recipients,
      World.Commands command recipients world (action.execute world).2 ∧
        Recipients action.subjects
          ((ofDescriptor (π := π) descriptor catalog settings pools).LatelyLost inputs) world
          recipients := by
  have reachable : ((ofDescriptor (π := π) descriptor catalog settings pools).play
      inputs).Reachable := ⟨_, _, _, _, _, rfl⟩
  have fresh (index : Nat) (craft : Spacecraft) (found : (ofDescriptor (π := π) descriptor catalog
      settings pools).world.craft? index = some craft) : craft.takesPart = true := by
    have untried := ofDescriptor_untried descriptor catalog settings pools found
    simp only [Spacecraft.takesPart, untried.alive, untried.departed, Bool.not_false, Bool.and_self]
  have settled := play_keeps (fun mission : Mission π => mission.world.settings = settings)
    (fun mission input same => (mission.take_settings input).trans same)
    (ofDescriptor descriptor catalog settings pools) inputs (ofDescriptor_settings ..)
  have recipients := recipients_of_serves (deeds_serve _ dt _ done) reachable.rostered
    (fun single => play_listed (ofDescriptor_rostered descriptor catalog settings pools)
      ((ofDescriptor_settings ..).symm ▸ settled ▸ single) fresh inputs) action.subjects
  refine ⟨action.subjects.current world, ?_, recipients⟩
  rw [execute_command commands]
  refine World.dispatchAll_commands command _ world
    (recipients.ordered.imp fun less => Nat.ne_of_lt less) fun index member => ?_
  obtain ⟨craft, found, _⟩ := hasIndex_iff.mp (recipients.described index member)
  rw [found, Option.isSome_some]

/-- Two spacecraft that run into each other while a third one watches. All three are ordered to
attack the third one, in the third step. -/
def wrecks (multiActor : Bool) : Mission Pursuit :=
  let attack : ActionDescriptor :=
    { kind := "command"
      delay := 20
      subjects := { spacecrafts := ["red", "blue", "watch"] }
      params := .object [("command", .text "target"), ("single", .text "watch")] }
  ofDescriptor
    { spacecrafts :=
        [.single { id := some "red", craftClass := "interceptor", velocity := ⟨0, 0, 100⟩ },
          .single
            { id := some "blue"
              craftClass := "interceptor"
              position := some ⟨0, 0, 5⟩
              velocity := ⟨0, 0, -100⟩ },
          .single
            { id := some "watch", craftClass := "interceptor", position := some ⟨0, 900, 0⟩ }]
      events :=
        [{ trigger := { fireWhen := .missionStarts, oneShot := true }, actions := [attack] }] }
    .standard { quality := .low, particles := false, multiActor } {}

/-- What comes before the third step. -/
def twoSteps : List (Input Pursuit) := List.replicate 2 (.tick 16)

theorem isCommand_of_typeName {action : Action} (named : action.typeName = "command") :
    ∃ command, action.kind = .command command := by
  unfold Action.typeName at named
  split at named
  case h_5 command kind => exact ⟨command, kind⟩
  all_goals exact absurd named (by decide)

/-- Where the lists are pruned, the one that watches is a recipient. -/
theorem watch_is_commanded :
    ∃ deed ∈ ((wrecks false).play twoSteps).deeds 16,
      ∃ command, deed.1.kind = .command command ∧ ∃ recipients,
        World.Commands command recipients deed.2 (deed.1.execute deed.2).2 ∧
          Recipients deed.1.subjects ((wrecks false).LatelyLost twoSteps) deed.2 recipients ∧
          2 ∈ recipients := by
  have ordered : (((wrecks false).play twoSteps).deeds 16).any (fun deed =>
      deed.1.typeName == "command" &&
        (deed.2.craft? 2).any fun craft => deed.1.subjects.has craft && craft.takesPart) = true := by
    decide +kernel
  obtain ⟨deed, member, holds⟩ := List.any_eq_true.mp ordered
  rw [Bool.and_eq_true, beq_iff_eq, Option.any_eq_true] at holds
  obtain ⟨named, craft, found, part⟩ := holds
  rw [Bool.and_eq_true] at part
  obtain ⟨command, kind⟩ := isCommand_of_typeName named
  obtain ⟨recipients, commands, who⟩ :=
    commands_reach_all_who_take_part _ _ _ _ twoSteps 16 member kind
  exact ⟨deed, member, command, kind, recipients, commands, who,
    who.fighting 2 craft found part.1 part.2⟩

/-- Where all participants number alike, the two that were destroyed two steps ago are commanded
too, and cause notices. -/
theorem wrecks_are_commanded :
    ∃ deed ∈ ((wrecks true).play twoSteps).deeds 16,
      ∃ command, deed.1.kind = .command command ∧
        deed.2.crafts.map Spacecraft.alive = #[false, false, true] ∧
        (deed.1.execute deed.2).2.observations.toList =
          deed.2.observations.toList ++ [0, 1, 2].map (.command · command) ∧
        (deed.1.execute deed.2).2.notices.kept =
          deed.2.notices.kept ++ [.targeted 2 0, .targeted 2 1, .targeted 2 2] := by
  have ordered : (((wrecks true).play twoSteps).deeds 16).any (fun deed =>
      deed.1.typeName == "command" && deed.1.subjects.current deed.2 == [0, 1, 2] &&
        deed.2.crafts.map Spacecraft.alive == #[false, false, true] &&
        (deed.1.execute deed.2).2.notices.kept ==
          deed.2.notices.kept ++ [.targeted 2 0, .targeted 2 1, .targeted 2 2]) = true := by
    decide +kernel
  obtain ⟨deed, member, holds⟩ := List.any_eq_true.mp ordered
  simp only [Bool.and_eq_true, beq_iff_eq] at holds
  obtain ⟨⟨⟨named, current⟩, alive⟩, notices⟩ := holds
  obtain ⟨command, kind⟩ := isCommand_of_typeName named
  refine ⟨deed, member, command, kind, alive, ?_, notices⟩
  have inside (index : Nat) (there : index ∈ [0, 1, 2]) :
      (deed.2.craft? index).isSome = true := by
    rw [← current] at there
    obtain ⟨craft, found, _⟩ := hasIndex_iff.mp (List.mem_filter.mp there).2
    rw [found, Option.isSome_some]
  rw [execute_command kind, current]
  exact (World.dispatchAll_commands command [0, 1, 2] deed.2 (by decide) inside).observations

end Mission

end Sortie
