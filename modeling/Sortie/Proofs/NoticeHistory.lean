import Sortie.Proofs.Latch
import Sortie.Proofs.Roster
import Sortie.Proofs.Sight

set_option autoImplicit false

namespace Sortie

namespace NoticeLog

/-- A log that keeps the end of all notices, from number `base` on. -/
structure Keeps (log : NoticeLog) (total : List Notice) : Prop where
  base : log.base ≤ total.length
  kept : log.kept = total.drop log.base

theorem Keeps.finish {log : NoticeLog} {total : List Notice} (keeps : log.Keeps total) :
    log.finish = total.length := by
  have bound := keeps.base
  rw [NoticeLog.finish, keeps.kept, List.length_drop]
  omega

/-- The notices that a grown log has more. -/
def more (before after : NoticeLog) : List Notice := after.kept.drop before.kept.length

theorem Grows.kept_eq {before after : NoticeLog} (grows : before.Grows after) :
    after.kept = before.kept ++ before.more after := by
  obtain ⟨added, same⟩ := grows.kept
  rw [more, ← same, List.drop_left]

theorem Keeps.grows {before after : NoticeLog} {total : List Notice} (keeps : before.Keeps total)
    (grows : before.Grows after) : after.Keeps (total ++ before.more after) := by
  refine ⟨?_, ?_⟩
  · rw [grows.base, List.length_append]
    exact Nat.le_add_right_of_le keeps.base
  · rw [grows.kept_eq, keeps.kept, grows.base, List.drop_append_of_le_length keeps.base]

theorem Grows.finish_le {before after : NoticeLog} (grows : before.Grows after) :
    before.finish ≤ after.finish := by
  rw [NoticeLog.finish, NoticeLog.finish, grows.base]
  exact Nat.add_le_add_left grows.kept.length_le _

theorem more_trans {first second third : NoticeLog} (early : first.Grows second)
    (late : second.Grows third) :
    first.more third = first.more second ++ second.more third := by
  have whole := (early.trans late).kept_eq
  rw [late.kept_eq, early.kept_eq, List.append_assoc] at whole
  exact (List.append_cancel_left whole).symm

theorem Keeps.retire {log : NoticeLog} {total : List Notice} (keeps : log.Keeps total)
    (before : Nat) : (log.retire before).Keeps total := by
  have bound := keeps.base
  have length : log.kept.length = total.length - log.base := by
    rw [keeps.kept, List.length_drop]
  refine ⟨?_, ?_⟩
  · simp only [NoticeLog.retire]
    omega
  · simp only [NoticeLog.retire]
    rw [keeps.kept, List.drop_drop]

theorem retire_base {log : NoticeLog} {before : Nat} (low : log.base ≤ before)
    (high : before ≤ log.finish) : (log.retire before).base = before := by
  simp only [NoticeLog.retire, NoticeLog.finish] at high ⊢
  omega

theorem Keeps.since {log : NoticeLog} {total : List Notice} (keeps : log.Keeps total)
    {cursor : Nat} (low : log.base ≤ cursor) : log.since cursor = total.drop cursor := by
  have place : log.base + (cursor - log.base) = cursor := by omega
  rw [NoticeLog.since, keeps.kept, List.drop_drop, place]

end NoticeLog

/-- Whether a notice that fits has a number from `first` up to `last`. -/
def Notice.Occurs (total : List Notice) (fits : Notice → Bool) (first last : Nat) : Prop :=
  ∃ number notice, first ≤ number ∧ number < last ∧ total[number]? = some notice ∧
    fits notice = true

namespace Notice

theorem Occurs.append {total : List Notice} {fits : Notice → Bool} {first last : Nat}
    (bound : last ≤ total.length) (more : List Notice) :
    Occurs (total ++ more) fits first last ↔ Occurs total fits first last := by
  have same {number : Nat} (below : number < last) : (total ++ more)[number]? = total[number]? :=
    List.getElem?_append_left (by omega)
  constructor
  · rintro ⟨number, notice, low, high, found, fit⟩
    exact ⟨number, notice, low, high, (same high).symm.trans found, fit⟩
  · rintro ⟨number, notice, low, high, found, fit⟩
    exact ⟨number, notice, low, high, (same high).trans found, fit⟩

theorem Occurs.split {total : List Notice} {fits : Notice → Bool} {first middle last : Nat}
    (low : first ≤ middle) (high : middle ≤ last) :
    Occurs total fits first last ↔
      Occurs total fits middle last ∨ Occurs total fits first middle := by
  constructor
  · rintro ⟨number, notice, above, below, found, fit⟩
    by_cases late : middle ≤ number
    · exact .inl ⟨number, notice, late, below, found, fit⟩
    · exact .inr ⟨number, notice, above, by omega, found, fit⟩
  · rintro (⟨number, notice, above, below, found, fit⟩ | ⟨number, notice, above, below, found, fit⟩)
    · exact ⟨number, notice, by omega, below, found, fit⟩
    · exact ⟨number, notice, above, by omega, found, fit⟩

theorem not_occurs {total : List Notice} {fits : Notice → Bool} (number : Nat) :
    ¬ Occurs total fits number number := by
  rintro ⟨_, _, low, high, _⟩
  omega

/-- What is left of a list from a number on fits just if a later one of the list does. -/
theorem any_drop_iff {total : List Notice} {fits : Notice → Bool} (first : Nat) :
    (total.drop first).any fits = true ↔ Occurs total fits first total.length := by
  simp only [List.any_eq_true, List.mem_iff_getElem?, List.getElem?_drop]
  constructor
  · rintro ⟨notice, ⟨place, found⟩, fit⟩
    exact ⟨first + place, notice, by omega, (List.getElem?_eq_some_iff.mp found).1, found, fit⟩
  · rintro ⟨number, notice, low, _, found, fit⟩
    refine ⟨notice, ⟨number - first, ?_⟩, fit⟩
    rwa [Nat.add_sub_cancel' low]

end Notice

namespace NoticeEdge

/-- An edge has read the notices below its cursor, which are no fewer than those that the log
dropped, and is to report whether one from number `since` on fits. -/
structure Follows (edge : NoticeEdge) (total : List Notice) (fits : Notice → Bool)
    (base since : Nat) : Prop where
  dropped : base ≤ edge.cursor
  passed : since ≤ edge.cursor
  read : edge.cursor ≤ total.length
  pending : edge.pending = true ↔ Notice.Occurs total fits since edge.cursor

variable {edge : NoticeEdge} {total : List Notice} {fits : Notice → Bool} {base since : Nat}

theorem Follows.append (follows : edge.Follows total fits base since) (more : List Notice) :
    edge.Follows (total ++ more) fits base since := by
  refine ⟨follows.dropped, follows.passed, ?_, ?_⟩
  · rw [List.length_append]
    exact Nat.le_add_right_of_le follows.read
  · rw [Notice.Occurs.append follows.read]
    exact follows.pending

/-- A look reports whether a notice that fits was pushed since the last look with time passing. -/
theorem Follows.update_iff (follows : edge.Follows total fits base since) {log : NoticeLog}
    (keeps : log.Keeps total) (same : log.base = base) (dt : Scalar) :
    (edge.update log dt fits).1 = true ↔ Notice.Occurs total fits since log.finish := by
  have low : log.base ≤ edge.cursor := same ▸ follows.dropped
  have high : edge.cursor ≤ log.finish := keeps.finish ▸ follows.read
  rw [Notice.Occurs.split follows.passed high, ← follows.pending, keeps.finish,
    ← Notice.any_drop_iff, ← keeps.since low]
  simp only [NoticeEdge.update, Bool.or_eq_true]

theorem Follows.update (follows : edge.Follows total fits base since) {log : NoticeLog}
    (keeps : log.Keeps total) (same : log.base = base) (dt : Scalar) {dropped : Nat}
    (bound : dropped ≤ log.finish) :
    (edge.update log dt fits).2.Follows total fits dropped
      (if 0 < dt then log.finish else since) := by
  have found := follows.update_iff keeps same dt
  have high : edge.cursor ≤ log.finish := keeps.finish ▸ follows.read
  refine ⟨bound, ?_, Nat.le_of_eq keeps.finish, ?_⟩
  · simp only [NoticeEdge.update]
    split
    · exact Nat.le_refl _
    · exact Nat.le_trans follows.passed high
  · simp only [NoticeEdge.update] at found ⊢
    by_cases passing : 0 < dt
    · simp only [passing, decide_true, Bool.not_true, Bool.and_false, Bool.false_eq_true,
        if_true, false_iff]
      exact Notice.not_occurs _
    · simp only [passing, decide_false, Bool.not_false, Bool.and_true, if_false]
      exact found

end NoticeEdge

namespace SubjectGroup

theorem describes_of_ages {before after : Spacecraft} (ages : before.Ages after)
    (descriptor : SubjectDescriptor) :
    describes descriptor after = describes descriptor before := by
  simp only [describes, ages.id, ages.squad, ages.team]

end SubjectGroup

namespace World

/-- What can be told from a spacecraft's name, squad and team stays as it is. -/
theorem Ages.any_craft {before after : World} (ages : before.Ages after) {test : Spacecraft → Bool}
    (same : ∀ old new : Spacecraft, old.Ages new → test new = test old) (index : Nat) :
    (after.craft? index).any test = (before.craft? index).any test := by
  cases found : before.craft? index with
  | some craft =>
    obtain ⟨later, there, grown⟩ := ages.crafts index craft found
    rw [there, Option.any_some, Option.any_some, same craft later grown]
  | none =>
    have outside : after.craft? index = none := by
      rw [craft?, Array.getElem?_eq_none_iff, ages.size]
      exact Array.getElem?_eq_none_iff.mp found
    rw [outside]

end World

namespace Condition

/-- What a condition on notices has read. -/
def edge? (condition : Condition) : Option NoticeEdge :=
  match condition.kind with
  | .hit _ edge | .getsTargeted _ edge => some edge
  | _ => none

/-- Whether a notice is of the kind that a condition waits for, about a subject, and by one of the
sources if there are any. -/
def fits (condition : Condition) (world : World) (notice : Notice) : Bool :=
  match condition.kind with
  | .hit source _ => fitsHit condition.subjects source world notice
  | .getsTargeted source _ => fitsTargeted condition.subjects source world notice
  | _ => false

/-- A spacecraft of the arena that is named by its id, its squad or its team. -/
def Described (descriptor : SubjectDescriptor) (world : World) (index : Nat) : Prop :=
  ∃ craft, world.craft? index = some craft ∧
    (craft.id ∈ descriptor.spacecrafts ∨
      (∃ squad, craft.squad = some squad ∧ squad.name ∈ descriptor.squads) ∨
      ∃ team, craft.team = some team ∧ team ∈ descriptor.teams)

theorem described_iff {descriptor : SubjectDescriptor} {world : World} {index : Nat} :
    (world.craft? index).any (SubjectGroup.describes descriptor) = true ↔
      Described descriptor world index := by
  simp only [Option.any_eq_true, SubjectGroup.describes, Bool.or_eq_true, List.contains_iff_mem,
    or_assoc, Described]

/-- What a condition on notices waits for: a hit on one of its subjects, or someone who takes aim at
one, by a spacecraft that its source names if it has one. -/
inductive Concerns (condition : Condition) (world : World) : Notice → Prop
  | hit {source : Option SubjectDescriptor} {edge : NoticeEdge} {target : Nat}
      {attacker : Option Nat} (kind : condition.kind = .hit source edge)
      (subject : Described condition.subjects.descriptor world target)
      (agent : ∀ descriptor, source = some descriptor →
        ∃ index, attacker = some index ∧ Described descriptor world index) :
      Concerns condition world (.hit target attacker)
  | targeted {source : Option SubjectDescriptor} {edge : NoticeEdge} {target attacker : Nat}
      (kind : condition.kind = .getsTargeted source edge)
      (subject : Described condition.subjects.descriptor world target)
      (agent : ∀ descriptor, source = some descriptor → Described descriptor world attacker) :
      Concerns condition world (.targeted target attacker)

theorem isSource_iff {source : Option SubjectDescriptor} {world : World} {index : Nat} :
    isSource source world index = true ↔
      ∀ descriptor, source = some descriptor → Described descriptor world index := by
  cases source with
  | none => simp only [isSource, reduceCtorEq, false_implies, implies_true]
  | some descriptor => simp only [isSource, described_iff, Option.some.injEq, forall_eq']

theorem fits_iff_concerns {condition : Condition} {world : World} {notice : Notice} :
    condition.fits world notice = true ↔ condition.Concerns world notice := by
  have subject (target : Nat) : condition.subjects.hasIndex world target = true ↔
      Described condition.subjects.descriptor world target := described_iff
  constructor
  · intro fit
    unfold fits at fit
    split at fit
    · rename_i source edge kind
      cases notice with
      | targeted => cases fit
      | hit target attacker =>
        obtain ⟨here, by_⟩ := Bool.and_eq_true_iff.mp fit
        refine .hit kind ((subject target).mp here) fun descriptor given => ?_
        subst given
        obtain ⟨index, found, known⟩ := (Option.any_eq_true _ _).mp by_
        exact ⟨index, found, isSource_iff.mp known descriptor rfl⟩
    · rename_i source edge kind
      cases notice with
      | hit => cases fit
      | targeted target attacker =>
        obtain ⟨here, known⟩ := Bool.and_eq_true_iff.mp fit
        exact .targeted kind ((subject target).mp here) (isSource_iff.mp known)
    · cases fit
  · rintro (⟨kind, here, agent⟩ | ⟨kind, here, agent⟩)
    · rename_i source edge target attacker
      simp only [fits, kind, fitsHit, Bool.and_eq_true]
      refine ⟨(subject target).mpr here, ?_⟩
      cases source with
      | none => rfl
      | some descriptor =>
        obtain ⟨index, rfl, known⟩ := agent descriptor rfl
        rw [Bool.or_eq_true]
        exact .inr (described_iff.mpr known)
    · simp only [fits, kind, fitsTargeted, Bool.and_eq_true]
      exact ⟨(subject _).mpr here, isSource_iff.mpr agent⟩

theorem fits_of_ages (condition : Condition) {before after : World} (ages : before.Ages after) :
    condition.fits after = condition.fits before := by
  have subject (index : Nat) :
      condition.subjects.hasIndex after index = condition.subjects.hasIndex before index :=
    ages.any_craft (fun _ _ grown => SubjectGroup.describes_of_ages grown _) index
  have source (descriptor : Option SubjectDescriptor) :
      isSource descriptor after = isSource descriptor before := by
    funext index
    cases descriptor with
    | none => rfl
    | some descriptor =>
      exact ages.any_craft (fun _ _ grown => SubjectGroup.describes_of_ages grown descriptor) index
  funext notice
  unfold fits
  split
  · cases notice <;> simp only [fitsHit, subject, source]
  · cases notice <;> simp only [fitsTargeted, subject, source]
  · rfl

theorem fits_of_asked {before after : Condition} (asked : before.Asked after) (world : World) :
    after.fits world = before.fits world := by
  have same := congrArg SubjectGroup.descriptor asked.subjects
  have descriptor : after.subjects.descriptor = before.subjects.descriptor := same
  have subject (index : Nat) :
      after.subjects.hasIndex world index = before.subjects.hasIndex world index := by
    simp only [SubjectGroup.hasIndex, funext fun craft : Spacecraft =>
      show after.subjects.has craft = before.subjects.has craft by
        simp only [SubjectGroup.has, descriptor]]
  funext notice
  simp only [fits, asked.kind]
  cases before.kind <;> cases notice <;> simp only [fitsHit, fitsTargeted, subject]

theorem edge?_of_asked {before after : Condition} (asked : before.Asked after) :
    after.edge? = before.edge? := by
  simp only [edge?, asked.kind]

theorem canBeImpossible_of_edge {condition : Condition} {edge : NoticeEdge}
    (reads : condition.edge? = some edge) : condition.canBeImpossible = false := by
  unfold edge? at reads
  unfold canBeImpossible
  cases kind : condition.kind <;> simp [kind] at reads ⊢

/-- A look at a condition on notices reads the log. -/
theorem look_of_edge {condition : Condition} {edge : NoticeEdge}
    (reads : condition.edge? = some edge) (possible : condition.impossible = false)
    (world : World) (dt : Scalar) :
    let read := edge.update world.notices dt (condition.fits world)
    (condition.look world dt).1 = read.1 ∧
      (condition.look world dt).2.edge? = some read.2 ∧
      (condition.look world dt).2.impossible = false ∧
      (condition.look world dt).2.fits = condition.fits := by
  cases condition with
  | mk kind subjects lastSatisfied impossible =>
    dsimp only at possible
    subst possible
    unfold edge? at reads
    cases kind <;> simp only [reduceCtorEq, Option.some.injEq] at reads
    all_goals subst reads
    all_goals exact ⟨rfl, rfl, rfl, rfl⟩

/-- A condition on notices of a run reports what fits and was pushed since number `since`. -/
def Attends (condition : Condition) (total : List Notice) (world : World) (since : Nat) : Prop :=
  ∀ edge, condition.edge? = some edge →
    condition.impossible = false ∧
      edge.Follows total (condition.fits world) world.notices.base since

variable {total : List Notice} {since : Nat}

theorem Attends.append {condition : Condition} {world : World}
    (attends : condition.Attends total world since) (more : List Notice) :
    condition.Attends (total ++ more) world since := by
  intro edge reads
  obtain ⟨possible, follows⟩ := attends edge reads
  exact ⟨possible, follows.append more⟩

theorem Attends.of_asked {before after : Condition} {world : World}
    (attends : before.Attends total world since) (asked : before.Asked after) :
    after.Attends total world since := by
  intro edge reads
  rw [edge?_of_asked asked] at reads
  obtain ⟨possible, follows⟩ := attends edge reads
  refine ⟨?_, by rwa [fits_of_asked asked]⟩
  cases latched : after.impossible with
  | false => rfl
  | true =>
    rcases asked.latched latched with before | able
    · exact possible.symm.trans before |>.symm
    · exact (canBeImpossible_of_edge reads).symm.trans able |>.symm

theorem Attends.ages {condition : Condition} {before after : World}
    (attends : condition.Attends total before since) (ages : before.Ages after)
    (base : after.notices.base = before.notices.base) : condition.Attends total after since := by
  intro edge reads
  rw [condition.fits_of_ages ages, base]
  exact attends edge reads

/-- What a look at an attending condition tells. -/
theorem Attends.look_iff {condition : Condition} {world : World}
    (attends : condition.Attends total world since) (keeps : world.notices.Keeps total)
    {edge : NoticeEdge} (reads : condition.edge? = some edge) (dt : Scalar) :
    (condition.look world dt).1 = true ↔
      Notice.Occurs total (condition.fits world) since world.notices.finish := by
  obtain ⟨possible, follows⟩ := attends edge reads
  rw [(look_of_edge reads possible world dt).1]
  exact follows.update_iff keeps rfl dt

/-- A look leaves a condition attending, with all that it has read. -/
theorem Attends.look {condition : Condition} {world after : World}
    (attends : condition.Attends total world since) (keeps : world.notices.Keeps total)
    (dt : Scalar) (ages : world.Ages after) (bound : after.notices.base ≤ world.notices.finish) :
    (condition.look world dt).2.Attends total after
      (if 0 < dt then world.notices.finish else since) := by
  intro later reads
  cases before : condition.edge? with
  | none =>
    -- The kind of a condition stays, so what reads no notices does not begin to.
    have same := congrArg edge? (condition.look_pristine world dt)
    unfold edge? at before
    unfold edge? Condition.pristine at same
    unfold edge? at reads
    cases kind : condition.kind <;> cases other : (condition.look world dt).2.kind <;>
      simp [kind, other, ConditionKind.pristine] at before same reads
  | some edge =>
    obtain ⟨possible, follows⟩ := attends edge before
    obtain ⟨_, read, still, same⟩ := look_of_edge before possible world dt
    rw [read] at reads
    cases reads
    refine ⟨still, ?_⟩
    rw [same, condition.fits_of_ages ages]
    exact follows.update keeps rfl dt bound

end Condition

namespace Trigger

/-- Steps of the trigger always look at its conditions. -/
structure Listens (trigger : Trigger) : Prop where
  enabled : trigger.disabled = false
  lasting : trigger.oneShot = none
  policy : trigger.policy ≠ .missionStarts

theorem Listens.of_same {before after : Trigger} (listens : after.Listens)
    (same : after.pristine = before.pristine) : before.Listens := by
  have disabled := congrArg Trigger.disabled same
  have policy := congrArg Trigger.policy same
  have oneShot := congrArg (fun trigger : Trigger => trigger.oneShot.isNone) same
  simp only [pristine, Option.isNone_map, listens.lasting, Option.isNone_none]
    at disabled policy oneShot
  refine ⟨disabled.symm.trans listens.enabled, Option.isNone_iff_eq_none.mp oneShot.symm, ?_⟩
  rw [← policy]
  exact listens.policy

theorem Listens.simulate_conditions {trigger : Trigger} (listens : trigger.Listens)
    (world : World) (dt : Scalar) :
    (trigger.simulate world dt).2.conditions =
      trigger.conditions.map fun condition => (condition.look world dt).2 := by
  have judged := judge_of_looks listens.policy world dt
  have commit (later : Trigger) (lasting : later.oneShot = none) : later.commit.2 = later := by
    simp only [Trigger.commit, lasting]
  simp only [simulate, listens.enabled, listens.lasting, Bool.false_eq_true, ↓reduceIte, consider,
    judged]
  have looked : ((trigger.looks world dt).map Prod.snd) =
      trigger.conditions.map fun condition => (condition.look world dt).2 := by
    simp only [looks, List.map_map, Function.comp_def]
  split
  · rw [commit _ rfl]
    exact looked
  · exact looked

end Trigger

namespace Mission

variable {π : Type} [Pilot π]

/-- The notices after the events of a step are those before it, without the retired, and more. -/
theorem tick_grows (mission : Mission π) {dt : Scalar} (accepted : accepts dt = true) :
    (mission.runRules dt).world.notices.Grows (mission.tick dt).world.notices := by
  have flown := (mission.flown_changes dt).grows (by decide)
  have fought : (mission.flown dt).world.notices.Grows (mission.fought dt).world.notices :=
    (fight_changes _ dt).grows (by decide)
  exact (flown.trans fought).trans ((mission.fought_tick_changes accepted).grows (by decide))

/-- The notices that are pushed while a mission takes an input: in a step, those up to the end of
the events, after which old ones are retired, and those from there on. -/
def noticesOf (mission : Mission π) : Input π → List Notice
  | .tick dt =>
    if accepts dt then
      mission.world.notices.more ((mission.waited dt).ruled dt).notices ++
        (mission.runRules dt).world.notices.more (mission.tick dt).world.notices
    else []
  | _ => []

/-- All notices that are pushed in a run, in order. -/
def chronicle (mission : Mission π) : List (Input π) → List Notice
  | [] => []
  | input :: rest => mission.noticesOf input ++ (mission.take input).chronicle rest

theorem chronicle_append (mission : Mission π) (first second : List (Input π)) :
    mission.chronicle (first ++ second) =
      mission.chronicle first ++ (mission.play first).chronicle second := by
  induction first generalizing mission with
  | nil => rfl
  | cons input rest ih =>
    simp only [List.cons_append, chronicle, ih, List.append_assoc, play_cons]

/-- The number of the first notice that the conditions of an event have not seen at their latest
look with time passing, where `since` is that number before the input. -/
def seenAfter (mission : Mission π) (index since : Nat) : Input π → Nat
  | .tick dt => if accepts dt ∧ 0 < dt then (mission.sight dt index).notices.finish else since
  | _ => since

/-- The number of the first notice that the conditions of an event have not seen at their latest
look of a run with time passing; of the first notice of all if there is no such look. -/
def seen (mission : Mission π) (index since : Nat) : List (Input π) → Nat
  | [] => since
  | input :: rest => (mission.take input).seen index (mission.seenAfter index since input) rest

/-- Events run in every step of a run. -/
def Hosted (mission : Mission π) : List (Input π) → Prop
  | [] => True
  | input :: rest =>
    ((∃ dt, input = .tick dt ∧ accepts dt = true) → mission.authority = true) ∧
      (mission.take input).Hosted rest

theorem hosted_append (mission : Mission π) (first second : List (Input π)) :
    mission.Hosted (first ++ second) ↔
      mission.Hosted first ∧ (mission.play first).Hosted second := by
  induction first generalizing mission with
  | nil => simp [Hosted]
  | cons input rest ih => simp only [List.cons_append, Hosted, ih, play_cons, and_assoc]

/-- The log of a mission keeps the end of all notices, and the conditions of an event attend to it.
-/
structure Attended (mission : Mission π) (total : List Notice) (index since : Nat) : Prop where
  log : mission.world.notices.Keeps total
  conditions : ∀ trigger, mission.trigger? index = some trigger → trigger.Listens →
    ∀ condition ∈ trigger.conditions, condition.Attends total mission.world since

section

variable {total : List Notice} {index since : Nat}

omit [Pilot π] in
theorem runRules_world (mission : Mission π) (dt : Scalar) :
    (mission.runRules dt).world = ((mission.waited dt).ruled dt).retireNotices
      (mission.waited dt).world.notices.finish :=
  runEvents_world _ dt

/-- The log after a step starts with the first notice that the events of the step began with. -/
theorem tick_base (mission : Mission π) {dt : Scalar} (accepted : accepts dt = true) :
    (mission.tick dt).world.notices.base = (mission.waited dt).world.notices.finish := by
  have ruled := ((mission.waited dt).ruled_changes dt).grows (by decide)
  rw [(mission.tick_grows accepted).base, runRules_world]
  refine NoticeLog.retire_base ?_ ruled.finish_le
  rw [ruled.base]
  exact Nat.le_add_right _ _

theorem tick_keeps (mission : Mission π) {dt : Scalar} (accepted : accepts dt = true)
    (keeps : mission.world.notices.Keeps total) :
    (mission.tick dt).world.notices.Keeps (total ++ mission.noticesOf (.tick dt)) := by
  have ruled := (mission.waited_ruled_changes dt).grows (by decide)
  have retired : (mission.runRules dt).world.notices.Keeps
      (total ++ mission.world.notices.more ((mission.waited dt).ruled dt).notices) := by
    rw [runRules_world]
    exact (keeps.grows ruled).retire _
  have final := retired.grows (mission.tick_grows accepted)
  rw [List.append_assoc] at final
  simpa only [noticesOf, accepted, ↓reduceIte] using final

omit [Pilot π] in
/-- What the conditions of an event see of the log in a step. -/
theorem sight_keeps (mission : Mission π) (dt : Scalar) (index : Nat)
    (keeps : mission.world.notices.Keeps total) :
    (mission.sight dt index).notices.Keeps
      (total ++ mission.world.notices.more (mission.sight dt index).notices) :=
  keeps.grows ((mission.sight_changes dt index).grows (by decide))

omit [Pilot π] in
theorem sight_grows (mission : Mission π) (dt : Scalar) (index : Nat) :
    mission.world.notices.Grows (mission.sight dt index).notices :=
  (mission.sight_changes dt index).grows (by decide)

/-- The notices that the events of a step push after the look of one of them are pushed in the step.
-/
theorem noticesOf_tick (mission : Mission π) {dt : Scalar} (accepted : accepts dt = true)
    (index : Nat) :
    ∃ more, mission.noticesOf (.tick dt) =
      mission.world.notices.more (mission.sight dt index).notices ++ more := by
  have rest := (mission.sight_ruled_changes dt index).grows (by decide)
  simp only [noticesOf, accepted, ↓reduceIte,
    NoticeLog.more_trans (mission.sight_grows dt index) rest, List.append_assoc]
  exact ⟨_, rfl⟩

/-- A step with events leaves the conditions of every event attending. -/
theorem tick_attended (mission : Mission π) {dt : Scalar} (accepted : accepts dt = true)
    (host : mission.authority = true) (attended : mission.Attended total index since) :
    (mission.tick dt).Attended (total ++ mission.noticesOf (.tick dt)) index
      (mission.seenAfter index since (.tick dt)) := by
  refine ⟨mission.tick_keeps accepted attended.log, ?_⟩
  intro later found listens condition member
  have length := congrArg List.length (mission.take_pristine (.tick dt))
  rw [List.length_map, List.length_map] at length
  obtain ⟨trigger, there⟩ := trigger?_of_length length found
  obtain ⟨same, here, asked⟩ := mission.tick_sight accepted host there
  rw [found] at here
  cases here
  have before := listens.of_same (asked.pristine.trans (trigger.simulate_pristine _ dt))
  have answers := asked.conditions
  rw [before.simulate_conditions] at answers
  obtain ⟨place, present⟩ := List.mem_iff_getElem?.mp member
  obtain ⟨looked, seen, question⟩ := each_getElem? answers.flip present
  obtain ⟨old, known, rfl⟩ := List.mem_map.mp (List.mem_of_getElem? seen)
  have attends := (attended.conditions trigger there before old known).ages
    (mission.sight_changes dt index).ages (mission.sight_grows dt index).base
  have ages := mission.sight_tick_ages accepted index
  have bound : (mission.tick dt).world.notices.base ≤ (mission.sight dt index).notices.finish := by
    rw [mission.tick_base accepted]
    exact ((mission.waited_sight_changes dt index).grows (by decide)).finish_le
  obtain ⟨more, pushed⟩ := mission.noticesOf_tick accepted index
  have keeps := mission.sight_keeps dt index attended.log
  have final := ((attends.append _).look keeps dt ages bound).append more
  rw [List.append_assoc, ← pushed] at final
  simpa only [seenAfter, accepted, true_and] using final.of_asked question

theorem take_attended (mission : Mission π) (input : Input π)
    (host : (∃ dt, input = .tick dt ∧ accepts dt = true) → mission.authority = true)
    (attended : mission.Attended total index since) :
    (mission.take input).Attended (total ++ mission.noticesOf input) index
      (mission.seenAfter index since input) := by
  by_cases step : ∃ dt, input = .tick dt ∧ accepts dt = true
  · obtain ⟨dt, rfl, accepted⟩ := step
    exact mission.tick_attended accepted (host ⟨dt, rfl, accepted⟩) attended
  · have idle : mission.noticesOf input = [] ∧ mission.seenAfter index since input = since := by
      cases input with
      | tick dt =>
        have refused : accepts dt ≠ true := fun accepted => step ⟨dt, rfl, accepted⟩
        simp [noticesOf, seenAfter, refused]
      | _ => exact ⟨rfl, rfl⟩
    rcases mission.take_cases input with passing | ⟨world, _, rests⟩
    · exact absurd passing step
    · rw [idle.1, idle.2, List.append_nil]
      refine ⟨by rw [world]; exact attended.log, ?_⟩
      intro later found listens condition member
      obtain ⟨trigger, there⟩ := trigger?_of_length rests.length_eq.symm found
      obtain ⟨same, here, asked⟩ := trigger?_of_rests rests there
      rw [found] at here
      cases here
      obtain ⟨place, present⟩ := List.mem_iff_getElem?.mp member
      obtain ⟨old, known, question⟩ := each_getElem? asked.conditions.flip present
      rw [world]
      exact (attended.conditions trigger there (listens.of_same asked.pristine) old
        (List.mem_of_getElem? known)).of_asked question

theorem play_attended (mission : Mission π) (inputs : List (Input π))
    (hosted : mission.Hosted inputs) (attended : mission.Attended total index since) :
    (mission.play inputs).Attended (total ++ mission.chronicle inputs) index
      (mission.seen index since inputs) := by
  induction inputs generalizing mission total since with
  | nil =>
    rw [chronicle, List.append_nil]
    exact attended
  | cons input rest ih =>
    have taken := mission.take_attended input hosted.1 attended
    rw [chronicle, ← List.append_assoc]
    exact ih (mission.take input) hosted.2 taken

omit [Pilot π] in
theorem ofDescriptor_notices (descriptor : MissionDescriptor) (catalog : Catalog)
    (settings : Settings) (pools : Pools) :
    (ofDescriptor (π := π) descriptor catalog settings pools).world.notices = {} := by
  have silent (world : World) (state : MissionState) :
      (world.setState state).notices = world.notices := by
    unfold World.setState
    split
    · rfl
    · rfl
  obtain ⟨_, _, _, _, _, _, loaded⟩ :=
    LoadedMission.ofDescriptor_same descriptor catalog settings (pools.prefill settings.poolSizes)
  exact (silent _ _).trans (congrArg World.notices loaded)

omit [Pilot π] in
theorem ofDescriptor_attended (descriptor : MissionDescriptor) (catalog : Catalog)
    (settings : Settings) (pools : Pools) (index : Nat) :
    (ofDescriptor (π := π) descriptor catalog settings pools).Attended [] index 0 := by
  have notices := ofDescriptor_notices (π := π) descriptor catalog settings pools
  refine ⟨?_, ?_⟩
  · rw [notices]
    exact ⟨Nat.le_refl 0, rfl⟩
  · intro trigger found _ condition member edge reads
    have fresh := ofDescriptor_trigger (π := π) descriptor catalog settings pools found
    rw [← fresh] at member
    obtain ⟨old, _, rfl⟩ := List.mem_map.mp member
    have start : edge = {} := by
      unfold Condition.edge? Condition.pristine at reads
      cases kind : old.kind <;> simp [kind, ConditionKind.pristine] at reads
      all_goals exact reads.symm
    subst start
    rw [notices]
    refine ⟨rfl, Nat.le_refl 0, Nat.le_refl 0, Nat.le_refl 0, ?_⟩
    simp only [Bool.false_eq_true, false_iff]
    exact Notice.not_occurs 0

end

/-- No notice is lost or reported twice. In a run in which the events run in every step, a condition
on notices of a trigger that always looks holds in a step with time passing exactly if a notice that
fits was pushed between the condition's latest earlier look with time passing, or the start, and its
look in this step; and after every step the log holds exactly the notices that were pushed since its
events began. -/
theorem notices_reported_once (descriptor : MissionDescriptor) (catalog : Catalog)
    (settings : Settings) (pools : Pools) (before : List (Input π)) (dt : Scalar) :
    let start : Mission π := ofDescriptor descriptor catalog settings pools
    let mission := start.play before
    let total := start.chronicle (before ++ [.tick dt])
    start.Hosted (before ++ [.tick dt]) → accepts dt = true →
      (mission.tick dt).world.notices.kept = total.drop (mission.waited dt).world.notices.finish ∧
      ∀ (index place : Nat) (trigger : Trigger) (condition : Condition),
        mission.trigger? index = some trigger →
        trigger.Listens → trigger.conditions[place]? = some condition →
        condition.edge?.isSome = true → 0 < dt →
          ((condition.look (mission.sight dt index) dt).1 = true ↔
            ∃ number notice, start.seen index 0 before ≤ number ∧
              number < (mission.sight dt index).notices.finish ∧ total[number]? = some notice ∧
                condition.fits (mission.sight dt index) notice = true) ∧
          ∃ (later : Trigger) (after : Condition), (mission.tick dt).trigger? index = some later ∧
            later.conditions[place]? = some after ∧
            after.lastSatisfied = (condition.look (mission.sight dt index) dt).1 := by
  intro start mission total hosted accepted
  obtain ⟨past, host, _⟩ := (start.hosted_append before [.tick dt]).mp hosted
  have authority : mission.authority = true := host ⟨dt, rfl, accepted⟩
  have attended (index : Nat) := start.play_attended before past
    (ofDescriptor_attended descriptor catalog settings pools index)
  have whole : total = [] ++ start.chronicle before ++ mission.noticesOf (.tick dt) := by
    simp only [total, chronicle_append, chronicle, List.append_nil, List.nil_append, mission]
  refine ⟨?_, ?_⟩
  · have keeps := mission.tick_keeps accepted (attended 0).log
    rw [keeps.kept, mission.tick_base accepted, whole]
  · intro index place trigger condition found listens present reads passing
    obtain ⟨edge, read⟩ := Option.isSome_iff_exists.mp reads
    refine ⟨?_, ?_⟩
    · have keeps := mission.sight_keeps dt index (attended index).log
      have attends := ((attended index).conditions trigger found listens condition
        (List.mem_of_getElem? present)).ages (mission.sight_changes dt index).ages
          (mission.sight_grows dt index).base
      obtain ⟨more, pushed⟩ := mission.noticesOf_tick accepted index
      rw [pushed, ← List.append_assoc] at whole
      rw [(attends.append _).look_iff keeps read dt, whole]
      exact (Notice.Occurs.append (Nat.le_of_eq keeps.finish) more).symm
    · obtain ⟨later, here, asked⟩ := mission.tick_sight accepted authority found
      have answers := asked.conditions
      rw [listens.simulate_conditions] at answers
      obtain ⟨after, there, question⟩ := each_getElem? answers (List.getElem?_map.trans
        (congrArg _ present))
      exact ⟨later, after, here, there,
        question.lastSatisfied.trans (condition.look_lastSatisfied _ dt)⟩

/-- A pilot and another spacecraft on its way into it, an event that waits until that becomes a
target, and one that waits until the pilot hits it. -/
def lookout : Mission Pursuit :=
  let aimed : ConditionDescriptor :=
    { kind := "getsTargeted", subjects := { spacecrafts := ["raider"] } }
  let struck : ConditionDescriptor :=
    { kind := "hit", subjects := { spacecrafts := ["raider"] }
      params := .object [("by", .object [("spacecrafts", .list [.text "scout"])])] }
  ofDescriptor
    { spacecrafts :=
        [.single { id := some "scout", craftClass := "fighter", piloted := true },
          .single
            { id := some "raider", craftClass := "interceptor", position := some ⟨0, 0, 12⟩
              velocity := ⟨0, 0, -20⟩ }]
      events := [{ trigger := { conditions := [aimed] } }, { trigger := { conditions := [struck] } }] }
    .standard { quality := .low, particles := false } {}

/-- The pilot takes aim in a step after the looks of the events, and crashes into the target. Both
conditions hold in a step without time after that and, as that does not use the notices up, in the
next step with time passing. -/
theorem aim_and_crash_reported_after_pause :
    let before : List (Input Pursuit) := [.intent (some { target := some 1 }), .tick 16, .tick 0]
    let mission := lookout.play before
    let reports (index : Nat) (notice : Notice) : Prop :=
      ∃ trigger condition, mission.trigger? index = some trigger ∧ trigger.Listens ∧
        trigger.conditions[0]? = some condition ∧ condition.edge?.isSome = true ∧
        condition.Concerns (mission.sight 16 index) notice ∧
        (condition.look (mission.sight 16 index) 16).1 = true
    reports 0 (.targeted 1 0) ∧ reports 1 (.hit 1 (some 0)) := by
  intro before mission reports
  have hosted : lookout.Hosted (before ++ [.tick 16]) :=
    ⟨fun _ => rfl, fun _ => rfl, fun _ => tick_authority _ 16,
      fun _ => (tick_authority _ 0).trans (tick_authority _ 16), trivial⟩
  have reported (index number : Nat) (notice : Notice)
      (built : ((mission.trigger? index).any fun trigger =>
        !trigger.disabled && trigger.oneShot.isNone && trigger.policy == .changeToTrue &&
          trigger.conditions.length == 1 && trigger.conditions.all fun condition =>
            condition.edge?.isSome && condition.fits (mission.sight 16 index) notice) = true)
      (new : lookout.seen index 0 before ≤ number ∧
        number < (mission.sight 16 index).notices.finish ∧
        (lookout.chronicle (before ++ [.tick 16]))[number]? = some notice) :
      reports index notice := by
    obtain ⟨trigger, found, built⟩ := (Option.any_eq_true _ _).mp built
    simp only [Bool.and_eq_true, Bool.not_eq_true', beq_iff_eq, Option.isNone_iff_eq_none,
      List.all_eq_true] at built
    obtain ⟨⟨⟨⟨enabled, lasting⟩, policy⟩, one⟩, conditions⟩ := built
    obtain ⟨condition, only⟩ := List.length_eq_one_iff.mp one
    obtain ⟨reads, fits⟩ := conditions condition (by rw [only]; exact List.mem_singleton_self _)
    have listens : trigger.Listens := ⟨enabled, lasting, by rw [policy]; decide⟩
    have present : trigger.conditions[0]? = some condition := by rw [only]; rfl
    have told := ((notices_reported_once _ _ _ _ before 16 hosted (by decide +kernel)).2 index 0
      trigger condition found listens present reads (by decide +kernel)).1
    exact ⟨trigger, condition, found, listens, present, reads,
      Condition.fits_iff_concerns.mp fits, told.mpr ⟨number, notice, new.1, new.2.1, new.2.2, fits⟩⟩
  exact ⟨reported 0 0 _ (by decide +kernel) (by decide +kernel),
    reported 1 2 _ (by decide +kernel) (by decide +kernel)⟩

end Mission

end Sortie
