import Sortie.Proofs.Finality

set_option autoImplicit false

namespace Sortie

open Condition (isGone needed)

namespace World

/-- Whether a spacecraft had left by jumping out and is back. -/
def returned (before after : World) (index : Nat) : Bool :=
  (before.craft? index).any (fun craft => craft.departed) &&
    (after.craft? index).any fun craft => !craft.departed

theorem returned_eq_true {before after : World} {index : Nat} {craft later : Spacecraft}
    (found : before.craft? index = some craft) (there : after.craft? index = some later)
    (left : craft.departed = true) (back : later.departed = false) :
    before.returned after index = true := by
  rw [returned, found, there, Option.any_some, Option.any_some, left, back, Bool.not_false,
    Bool.and_true]

/-- Who was gone and is present has returned. -/
theorem returned_of_present {before after : World} (ages : before.Ages after)
    (sheltered : after.Sheltered) {index : Nat} {craft later : Spacecraft}
    (found : before.craft? index = some craft) (there : after.craft? index = some later)
    (gone : isGone craft = true) (present : later.isPresent = true) :
    before.returned after index = true := by
  obtain ⟨same, known, grown⟩ := craft?_before ages.size ages.crafts there
  rw [found] at known
  cases known
  have back := (sheltered index later there).not_departed (.inl present)
  rw [Spacecraft.isPresent, Bool.and_eq_true] at present
  simp only [isGone, Bool.or_eq_true, Bool.not_eq_true'] at gone
  rcases gone with dead | left
  · rw [grown.dead dead] at present
    cases present.1
  · exact returned_eq_true found there left back

end World

theorem countP_le_add {α : Type} {test first second : α → Bool} (list : List α)
    (either : ∀ item ∈ list, test item = true → first item = true ∨ second item = true) :
    list.countP test ≤ list.countP first + list.countP second := by
  induction list with
  | nil => exact Nat.le_refl 0
  | cons item rest ih =>
    obtain ⟨here, others⟩ := List.forall_mem_cons.mp either
    have fewer := ih others
    simp only [List.countP_cons]
    cases found : test item with
    | false =>
      simp only [Bool.false_eq_true, ↓reduceIte]
      omega
    | true =>
      rcases here found with one | one <;> simp only [one, ↓reduceIte] <;> omega

namespace SubjectGroup

/-- How many members had left by jumping out and are back. -/
def returnedCount (group : SubjectGroup) (before after : World) : Nat :=
  group.members.countP (before.returned after)

variable {before after : World}

theorem exists_returned {group : SubjectGroup} (some_ : 0 < group.returnedCount before after) :
    ∃ index ∈ group.members, before.returned after index = true :=
  List.countP_pos_iff.mp some_

/-- What some members are now, they were before, or they have returned. -/
theorem countP_crafts_le (group : SubjectGroup) {now was : Spacecraft → Bool}
    (ages : before.Ages after)
    (kept : ∀ index craft later, before.craft? index = some craft →
      after.craft? index = some later → craft.Ages later → now later = true →
        was craft = true ∨ before.returned after index = true) :
    (group.crafts after).countP now ≤
      (group.crafts before).countP was + group.returnedCount before after := by
  unfold crafts returnedCount
  rw [List.countP_filterMap, List.countP_filterMap]
  refine countP_le_add _ fun index _ held => ?_
  cases found : after.craft? index with
  | none =>
    rw [found] at held
    cases held
  | some later =>
    obtain ⟨craft, there, grown⟩ := World.craft?_before ages.size ages.crafts found
    rw [found] at held
    rw [there]
    exact kept index craft later there found grown held

theorem liveCount_le (group : SubjectGroup) (ages : before.Ages after) :
    group.liveCount after ≤ group.liveCount before + group.returnedCount before after := by
  refine group.countP_crafts_le ages ?_
  intro index craft later there found grown live
  simp only [Bool.and_eq_true, Bool.not_eq_true'] at live ⊢
  have alive : craft.alive = true := by
    cases alive : craft.alive with
    | true => rfl
    | false => rw [grown.dead alive] at live; exact live.1
  cases left : craft.departed with
  | false => exact .inl ⟨alive, rfl⟩
  | true => exact .inr (World.returned_eq_true there found left live.2)

/-- Who is destroyed now was so before, or could be destroyed then, or has returned. -/
theorem destroyedCount_le (group : SubjectGroup) (ages : before.Ages after)
    (sheltered : after.Sheltered) :
    group.destroyedCount after ≤ group.destroyedCount before + group.liveCount before +
      group.returnedCount before after := by
  rw [← Condition.remaining_eq]
  refine group.countP_crafts_le ages ?_
  intro index craft later there found grown dead
  simp only [Bool.or_eq_true, Bool.not_eq_true'] at dead ⊢
  cases left : craft.departed with
  | false => exact .inl (.inr rfl)
  | true =>
    have back := (sheltered index later found).not_departed (.inr dead)
    exact .inr (World.returned_eq_true there found left back)

end SubjectGroup

theorem Quantity.holdsOfSome_mono {which : Quantity} {test other : Spacecraft → Bool}
    {crafts : List Spacecraft} (weaker : ∀ craft, test craft = true → other craft = true)
    (held : which.holdsOfSome (crafts.map test) = true) :
    which.holdsOfSome (crafts.map other) = true := by
  simp only [holdsOfSome, Bool.and_eq_true, List.isEmpty_map] at held ⊢
  refine held.imp_right fun results => ?_
  cases which with
  | all =>
    rw [holds_all_map] at results ⊢
    exact fun craft member => weaker craft (results craft member)
  | any =>
    rw [holds_any_map] at results ⊢
    obtain ⟨craft, member, found⟩ := results
    exact ⟨craft, member, weaker craft found⟩

namespace Condition

/-- Whether the condition takes who left by jumping out for lost. -/
def tracksDeparture (condition : Condition) : Bool :=
  match condition.kind with
  | .destroyed _ | .count _ _ | .distance _ _ _ => true
  | .time _ | .integrity _ _ _ | .hit _ _ | .away _ | .onTeam _ | .missionState _
  | .getsTargeted _ _ | .isTargeted _ => false

/-- Whether a spacecraft is a subject of the condition, or the one that it measures distances to. -/
def Watches (condition : Condition) (index : Nat) : Prop :=
  index ∈ condition.subjects.members ∨
    ∃ band which, condition.kind = .distance index band which

/-- What evaluations and questions leave of a condition: its kind and, once they are named, its
subjects. -/
structure Follows (condition later : Condition) : Prop where
  kind : later.kind = condition.kind
  subjects : condition.subjects.resolved.isSome = true → later.subjects = condition.subjects

theorem Follows.refl (condition : Condition) : condition.Follows condition := ⟨rfl, fun _ => rfl⟩

theorem Follows.trans {first second third : Condition} (early : first.Follows second)
    (late : second.Follows third) : first.Follows third := by
  refine ⟨late.kind.trans early.kind, fun settled => ?_⟩
  have same := early.subjects settled
  exact (late.subjects (same ▸ settled)).trans same

theorem resolve_follows (condition : Condition) (world : World) :
    condition.Follows (condition.resolve world) :=
  ⟨rfl, fun settled => by rw [resolve_of_isSome settled]⟩

theorem evaluate_follows {condition : Condition} (tracks : condition.tracksDeparture = true)
    (world : World) (dt : Scalar) : condition.Follows (condition.evaluate world dt).2 := by
  cases kind : condition.kind with
  | destroyed count =>
    simp only [evaluate, kind]
    exact condition.resolve_follows world
  | count threshold relation =>
    simp only [evaluate, kind]
    exact condition.resolve_follows world
  | distance target band which =>
    simp only [evaluate, kind]
    split
    · exact .refl condition
    · exact condition.resolve_follows world
  | time _ | integrity _ _ _ | hit _ _ | away _ | onTeam _ | missionState _ | getsTargeted _ _
  | isTargeted _ => simp only [tracksDeparture, kind, Bool.false_eq_true] at tracks

theorem Follows.tracks {condition later : Condition} (follows : condition.Follows later)
    (tracks : condition.tracksDeparture = true) : later.tracksDeparture = true := by
  rw [tracksDeparture, follows.kind]
  exact tracks

/-- How those that returned make good for a condition what it was judged impossible for. -/
inductive Regained (condition : Condition) (before after : World) : Prop
  /-- With those that returned, enough subjects could be destroyed. -/
  | destroyed (count : Option Nat) (kind : condition.kind = .destroyed count)
      (enough : needed count condition.subjects ≤ condition.subjects.destroyedCount before +
        condition.subjects.liveCount before + condition.subjects.returnedCount before after)
  /-- With those that returned, enough subjects could be here. -/
  | numbered (threshold : Nat) (relation : CountRelation)
      (kind : condition.kind = .count threshold relation)
      (enough : threshold ≤ condition.subjects.liveCount before +
        condition.subjects.returnedCount before after)
  /-- The spacecraft that distances are measured to returned. -/
  | target (target : Nat) (band : Band) (which : Quantity)
      (kind : condition.kind = .distance target band which)
      (back : before.returned after target = true)
  /-- All subjects that were gone returned. -/
  | together (target : Nat) (band : Band) (kind : condition.kind = .distance target band .all)
      (back : ∀ index ∈ condition.subjects.members, (before.craft? index).any isGone = true →
        before.returned after index = true)
  /-- One of the subjects, which were all gone, returned. -/
  | alone (target : Nat) (band : Band) (kind : condition.kind = .distance target band .any)
      (index : Nat) (member : index ∈ condition.subjects.members)
      (back : before.returned after index = true)

/-- A condition of these kinds that is lost for good is judged impossible. -/
theorem Doomed.judged {condition : Condition} {world : World} (doomed : condition.Doomed world)
    (tracks : condition.tracksDeparture = true) : (condition.judgeImpossible world).1 = true := by
  cases doomed with
  | escaped count kind settled few =>
    rw [remaining_eq] at few
    simp only [judgeImpossible, kind, resolve_of_isSome settled]
    exact decide_eq_true few
  | reduced threshold relation kind upward settled few =>
    simp only [judgeImpossible, kind, resolve_of_isSome settled]
    exact decide_eq_true few
  | lonely target band which kind gone =>
    have none_ : (world.craft? target).all isGone = true := by
      cases found : world.craft? target with
      | none => rfl
      | some craft => exact gone craft found
    simp only [judgeImpossible, kind, none_, ↓reduceIte]
  | gone target band which kind settled fails =>
    simp only [judgeImpossible, kind]
    split
    · rfl
    · rw [resolve_of_isSome settled]
      cases which with
      | all =>
        obtain ⟨craft, member, lost⟩ := fails
        exact List.any_eq_true.mpr ⟨_, List.mem_map_of_mem member, lost⟩
      | any =>
        refine List.all_eq_true.mpr fun result member => ?_
        obtain ⟨craft, there, rfl⟩ := List.mem_map.mp member
        exact fails craft there
  | past _ kind _ | damaged _ _ kind _ _ _ _ _ | dead _ kind _ _ =>
    simp only [tracksDeparture, kind, Bool.false_eq_true] at tracks

/-- A band holds only of the present. -/
theorem isPresent_of_inBand {band : Band} {target craft : Spacecraft}
    (found : inBand band target craft = true) : craft.isPresent = true :=
  (Bool.and_eq_true_iff.mp found).1

/-- A condition on distances holds only if the spacecraft that they are measured to is present, and
all or any of its subjects are. -/
theorem evaluate_distance {condition : Condition} {target : Nat} {band : Band} {which : Quantity}
    (kind : condition.kind = .distance target band which) {world : World} {dt : Scalar}
    (held : (condition.evaluate world dt).1 = true) :
    (∃ craft, world.craft? target = some craft ∧ craft.isPresent = true) ∧
      which.holdsOfSome (((condition.resolve world).subjects.crafts world).map
        Spacecraft.isPresent) = true := by
  simp only [evaluate, kind] at held
  cases found : presentTarget? world target with
  | none =>
    rw [found] at held
    cases held
  | some craft =>
    rw [found] at held
    obtain ⟨there, present⟩ := Option.filter_eq_some_iff.mp found
    exact ⟨⟨craft, there, present⟩, Quantity.holdsOfSome_mono (fun _ => isPresent_of_inBand) held⟩

/-- Where all or any of some subjects are present that were found gone, some of them returned. -/
theorem Regained.of_subjects {condition : Condition} {before after : World} {target : Nat}
    {band : Band} {which : Quantity} (kind : condition.kind = .distance target band which)
    (ages : before.Ages after) (sheltered : after.Sheltered)
    (fails : which.Fails (fun craft => isGone craft = true) (condition.subjects.crafts before))
    (held : which.holdsOfSome
      ((condition.subjects.crafts after).map Spacecraft.isPresent) = true) :
    condition.Regained before after ∧
      ∃ index ∈ condition.subjects.members, before.returned after index = true := by
  have results := (Bool.and_eq_true_iff.mp held).2
  cases which with
  | all =>
    have present : ∀ craft ∈ condition.subjects.crafts after, craft.isPresent = true :=
      Quantity.holds_all_map.mp results
    have back (index : Nat) (member : index ∈ condition.subjects.members) (craft : Spacecraft)
        (found : before.craft? index = some craft) (gone : isGone craft = true) :
        before.returned after index = true := by
      obtain ⟨later, there, _⟩ := ages.crafts index craft found
      exact World.returned_of_present ages sheltered found there gone
        (present later (List.mem_filterMap.mpr ⟨index, member, there⟩))
    obtain ⟨craft, listed, gone⟩ := fails
    obtain ⟨index, member, found⟩ := List.mem_filterMap.mp listed
    refine ⟨.together target band kind fun other among lost => ?_,
      index, member, back index member craft found gone⟩
    obtain ⟨subject, known, away⟩ := (Option.any_eq_true _ _).mp lost
    exact back other among subject known away
  | any =>
    obtain ⟨later, listed, present⟩ : ∃ later ∈ condition.subjects.crafts after,
        later.isPresent = true := Quantity.holds_any_map.mp results
    obtain ⟨index, member, there⟩ := List.mem_filterMap.mp listed
    obtain ⟨craft, found, _⟩ := World.craft?_before ages.size ages.crafts there
    have gone := fails craft (List.mem_filterMap.mpr ⟨index, member, found⟩)
    have back := World.returned_of_present ages sheltered found there gone present
    exact ⟨.alone target band kind index member back, index, member, back⟩

/-- What was lost for good holds later only if some of those that had left have returned. -/
theorem Doomed.regained {condition later : Condition} {before after : World}
    (doomed : condition.Doomed before) (tracks : condition.tracksDeparture = true)
    (follows : condition.Follows later) (ages : before.Ages after) (sheltered : after.Sheltered)
    {dt : Scalar} (held : (later.evaluate after dt).1 = true) :
    condition.Regained before after ∧
      ∃ index, condition.Watches index ∧ before.returned after index = true := by
  -- Subjects that were named when the condition was judged are those that it is evaluated on.
  have named (settled : condition.subjects.resolved.isSome = true) :
      (later.resolve after).subjects = condition.subjects := by
    have same := follows.subjects settled
    rw [resolve_of_isSome (same ▸ settled), same]
  have among (counted : 0 < condition.subjects.returnedCount before after) :
      ∃ index, condition.Watches index ∧ before.returned after index = true := by
    obtain ⟨index, member, back⟩ := SubjectGroup.exists_returned counted
    exact ⟨index, .inl member, back⟩
  cases doomed with
  | escaped count kind settled few =>
    rw [remaining_eq] at few
    simp only [Condition.evaluate, follows.kind.trans kind, named settled, Bool.and_eq_true,
      decide_eq_true_eq] at held
    have bound := condition.subjects.destroyedCount_le ages sheltered
    exact ⟨.destroyed count kind (by omega), among (by omega)⟩
  | reduced threshold relation kind upward settled few =>
    have bound := condition.subjects.liveCount_le ages
    have enough : threshold ≤ condition.subjects.liveCount after := by
      simp only [Condition.evaluate, follows.kind.trans kind, named settled] at held
      cases relation with
      | below => exact absurd rfl upward
      | above => exact of_decide_eq_true held
      | equals => exact Nat.le_of_eq (eq_of_beq held).symm
    exact ⟨.numbered threshold relation kind (by omega), among (by omega)⟩
  | lonely target band which kind gone =>
    obtain ⟨⟨craft, there, present⟩, _⟩ := evaluate_distance (follows.kind.trans kind) held
    obtain ⟨earlier, found, _⟩ := World.craft?_before ages.size ages.crafts there
    have back := World.returned_of_present ages sheltered found there (gone earlier found) present
    exact ⟨.target target band which kind back, target, .inr ⟨band, which, kind⟩, back⟩
  | gone target band which kind settled fails =>
    obtain ⟨_, present⟩ := evaluate_distance (follows.kind.trans kind) held
    rw [named settled] at present
    obtain ⟨regained, index, member, back⟩ :=
      Regained.of_subjects kind ages sheltered fails present
    exact ⟨regained, index, .inl member, back⟩
  | past _ kind _ | damaged _ _ kind _ _ _ _ _ | dead _ kind _ _ =>
    simp only [tracksDeparture, kind, Bool.false_eq_true] at tracks

end Condition

namespace Mission

variable {π : Type} [Pilot π]

theorem Moment.ages {mission : Mission π} {inputs : List (Input π)} {world : World}
    (moment : Moment mission inputs world) : world.Ages (mission.play inputs).world := by
  induction moment with
  | @seen mission dt rest event accepted =>
    exact (mission.sight_tick_ages accepted event).trans ((mission.tick dt).play_ages rest)
  | @moved mission dt rest accepted =>
    have ended : (mission.advance dt).world.Ages (mission.tick dt).world := by
      rw [mission.tick_of_accepts dt accepted]
      exact (World.setState_changes _ _).ages
    exact ended.trans ((mission.tick dt).play_ages rest)
  | later _ ih => exact ih

theorem Unlatched.follows {event : Nat} {mission : Mission π} {inputs : List (Input π)}
    {condition later : Condition} (course : Unlatched event mission inputs condition later)
    (tracks : condition.tracksDeparture = true) : condition.Follows later := by
  induction course with
  | here => exact .refl _
  | passed _ ih => exact ih tracks
  | @evaluated mission dt _ condition _ _ _ ih =>
    have looked := Condition.evaluate_follows tracks (mission.sight dt event) dt
    exact looked.trans (ih (looked.tracks tracks))
  | @asked mission _ condition _ _ ih =>
    have named := condition.resolve_follows mission.world
    exact named.trans (ih (named.tracks tracks))

/-- In every run a condition on destruction, number or distance that is latched was judged
impossible at some moment, and it would hold again in a later step, in whichever steps it is
evaluated on instead of being left alone, only if spacecraft that it is about had left by jumping
out at that moment and are back, enough of them for what it asks. -/
theorem latched_holds_only_after_returns (descriptor : MissionDescriptor) (catalog : Catalog)
    (settings : Settings) (pools : Pools) (before : List (Input π)) (event place : Nat)
    (trigger : Trigger) (condition : Condition) :
    let start : Mission π := ofDescriptor descriptor catalog settings pools
    (start.play before).trigger? event = some trigger →
      trigger.conditions[place]? = some condition → condition.impossible = true →
      condition.tracksDeparture = true →
      ∃ moment, Moment start before moment ∧ (condition.judgeImpossible moment).1 = true ∧
        ∀ (after : List (Input π)) (later : Condition) (dt : Scalar),
          let seen := ((start.play before).play after).sight dt event
          Unlatched event (start.play before) after condition later →
            (later.evaluate seen dt).1 = true →
            condition.Regained moment seen ∧
              ∃ index, condition.Watches index ∧ moment.returned seen index = true := by
  intro start found there latched tracks
  obtain ⟨owner, known, rfl⟩ := trigger?_eq_some.mp found
  have lasting : Condition.Lasting fun condition =>
      ∃ moment, Moment start before moment ∧ condition.Doomed moment :=
    ⟨fun ⟨moment, met, doomed⟩ kind subjects => ⟨moment, met, doomed.of_same kind subjects⟩,
      fun seen ⟨moment, met, doomed⟩ => ⟨moment, met, doomed.resolve seen⟩⟩
  have backed := start.play_backed before lasting
    (ofDescriptor_backed descriptor catalog settings pools _) fun moment met _ able judged =>
      ⟨moment, met, Condition.judgeImpossible_doomed able judged⟩
  obtain ⟨moment, met, doomed⟩ := backed owner (List.mem_of_getElem? known) condition
    (List.mem_of_getElem? there) latched
  refine ⟨moment, met, doomed.judged tracks, ?_⟩
  intro after later dt seen course held
  have sheltered : ((start.play before).play after).world.Sheltered :=
    play_keeps (fun mission => mission.world.Sheltered) take_sheltered _ after
      (play_keeps (fun mission => mission.world.Sheltered) take_sheltered start before
        (ofDescriptor_sheltered descriptor catalog settings pools))
  have ages : moment.Ages seen :=
    (met.ages.trans ((start.play before).play_ages after)).trans (sight_changes _ dt event).ages
  exact doomed.regained tracks (course.follows tracks) ages (sight_sheltered sheltered dt event)
    held

/-- A mission that keeps those that left in its lists: a raider jumps out as soon as it starts and
is ordered back in the third step, while an event watches whether the raider is there. -/
def comeback : Mission Pursuit :=
  let raider : SubjectDescriptor := { spacecrafts := ["raider"] }
  let jump (way : String) : ActionDescriptor :=
    { kind := "command"
      subjects := raider
      params := .object [("command", .text "jump"), ("way", .text way)] }
  let here : ConditionDescriptor :=
    { kind := "count"
      subjects := raider
      params := .object [("count", .number (.natural 1)), ("relation", .text "above")] }
  let late : ConditionDescriptor :=
    { kind := "time"
      params := .object [("time", .number (.natural 3000)), ("when", .text "once")] }
  ofDescriptor
    { spacecrafts := [.single { id := some "raider", craftClass := "interceptor" }]
      events :=
        [{ trigger := { fireWhen := .missionStarts, oneShot := true }, actions := [jump "out"] },
          { trigger := { conditions := [here] } },
          { trigger := { conditions := [late], oneShot := true }, actions := [jump "in"] }] }
    .standard { quality := .low, particles := false, multiActor := true } {}

/-- The watch holds in the fourth step since the raider, away when it was judged, has returned. -/
theorem comeback_follows_return :
    let mission := comeback.play [.tick 1000, .tick 1000, .tick 1000]
    ∃ trigger condition moment, mission.trigger? 1 = some trigger ∧
      trigger.conditions[0]? = some condition ∧ condition.impossible = true ∧
      Moment comeback [.tick 1000, .tick 1000, .tick 1000] moment ∧
      condition.Regained moment (mission.sight 1000 1) ∧
      ∃ index, condition.Watches index ∧ moment.returned (mission.sight 1000 1) index = true := by
  intro mission
  have watched : ((mission.trigger? 1).bind fun trigger => trigger.conditions[0]?).any
      (fun condition => condition.impossible && condition.tracksDeparture &&
        (condition.evaluate (mission.sight 1000 1) 1000).1) = true := by decide +kernel
  obtain ⟨condition, known, looked⟩ := (Option.any_eq_true _ _).mp watched
  obtain ⟨trigger, found, there⟩ := Option.bind_eq_some_iff.mp known
  simp only [Bool.and_eq_true] at looked
  obtain ⟨⟨latched, tracks⟩, held⟩ := looked
  obtain ⟨moment, met, _, regained⟩ := latched_holds_only_after_returns _ _ _ _
    [.tick 1000, .tick 1000, .tick 1000] 1 0 trigger condition found there latched tracks
  exact ⟨trigger, condition, moment, found, there, latched, met,
    regained [] condition 1000 .here held⟩

/-- In the third step the raider is found to be gone for good, and in the fourth it is there. -/
theorem latched_count_holds_again :
    let mission := comeback.play [.tick 1000, .tick 1000, .tick 1000]
    mission.world.settings.multiActor = true ∧ accepts 1000 = true ∧
      ((mission.trigger? 1).bind fun trigger => trigger.conditions[0]?).any (fun condition =>
        condition.impossible && condition.tracksDeparture &&
          (condition.evaluate (mission.sight 1000 1) 1000).1) = true := by
  decide +kernel

end Mission

end Sortie
