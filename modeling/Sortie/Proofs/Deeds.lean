import Sortie.Proofs.StateHistory

set_option autoImplicit false

namespace Sortie

namespace Event

/-- The actions of an event that fires, apart from the delayed ones. -/
def deedsOfActions (place : ActionPlace) : List Action → World → List (Action × World)
  | [], _ => []
  | action :: rest, world =>
    (if action.isDelayed then [] else [(action, world)]) ++
      deedsOfActions { place with action := place.action + 1 } rest
        (runActions place [action] world).2

def deedsOfAll (dt : Scalar) (index : Nat) : List Event → World → List (Action × World)
  | [], _ => []
  | event :: rest, world =>
    (if (event.trigger.simulate world dt).1 then
      deedsOfActions ⟨index, 0⟩ event.actions (world.recordFire index) else []) ++
      deedsOfAll dt (index + 1) rest (event.simulate index world dt).2

/-- The action of a place, if there is one. -/
def deedAt (events : List Event) (place : ActionPlace) (world : World) : List (Action × World) :=
  ((events[place.event]?.bind fun event => event.actions[place.action]?).map (·, world)).toList

end Event

namespace Mission

variable {π : Type}

def deedsOfDue : List ActionPlace → List Event → World → List (Action × World)
  | [], _, _ => []
  | place :: rest, events, world =>
    let done := Event.executeAt events place world
    Event.deedAt events place world ++ deedsOfDue rest done.1 done.2

def deedsOfDueActions (mission : Mission π) (dt : Scalar) : List (Action × World) :=
  if mission.authority then
    deedsOfDue (mission.world.takeDue dt).1 mission.events (mission.world.takeDue dt).2
  else []

def deedsOfEvents (mission : Mission π) (dt : Scalar) : List (Action × World) :=
  if mission.authority then Event.deedsOfAll dt 0 mission.events mission.world else []

/-- The actions that a step carries out: those that are due, and those of the events that fire. -/
def deeds (mission : Mission π) (dt : Scalar) : List (Action × World) :=
  let timed := mission.advanceTime dt
  timed.deedsOfDueActions dt ++ (timed.runDueActions dt).deedsOfEvents dt

end Mission

namespace Event

variable {deed : Action × World}

theorem mem_deedsOfActions {place : ActionPlace} {actions : List Action} {world : World}
    (member : deed ∈ deedsOfActions place actions world) : deed.1 ∈ actions := by
  induction actions generalizing place world with
  | nil => cases member
  | cons action rest ih =>
    rcases List.mem_append.mp member with here | later
    · split at here
      · cases here
      · rw [List.mem_singleton.mp here]
        exact List.mem_cons_self
    · exact List.mem_cons_of_mem action (ih later)

theorem mem_deedsOfAll {dt : Scalar} {index : Nat} {events : List Event} {world : World}
    (member : deed ∈ deedsOfAll dt index events world) :
    ∃ event ∈ events, deed.1 ∈ event.actions := by
  induction events generalizing index world with
  | nil => cases member
  | cons event rest ih =>
    rcases List.mem_append.mp member with here | later
    · split at here
      · exact ⟨event, List.mem_cons_self, mem_deedsOfActions here⟩
      · cases here
    · obtain ⟨other, there, owned⟩ := ih later
      exact ⟨other, List.mem_cons_of_mem event there, owned⟩

theorem mem_deedAt {events : List Event} {place : ActionPlace} {world : World}
    (member : deed ∈ deedAt events place world) : ∃ event ∈ events, deed.1 ∈ event.actions := by
  simp only [deedAt, Option.mem_toList, Option.map_eq_some_iff, Option.bind_eq_some_iff] at member
  obtain ⟨action, ⟨event, present, found⟩, rfl⟩ := member
  exact ⟨event, List.mem_of_getElem? present, List.mem_of_getElem? found⟩

end Event

namespace Mission

variable {π : Type} {deed : Action × World}

theorem mem_deedsOfDue {due : List ActionPlace} {events : List Event} {world : World}
    (member : deed ∈ deedsOfDue due events world) :
    ∃ event ∈ events.map Event.pristine, deed.1.pristine ∈ event.actions := by
  induction due generalizing events world with
  | nil => cases member
  | cons place rest ih =>
    rcases List.mem_append.mp member with here | later
    · obtain ⟨event, there, owned⟩ := Event.mem_deedAt here
      exact ⟨event.pristine, List.mem_map_of_mem there, List.mem_map_of_mem owned⟩
    · have others := ih later
      rw [(Event.executeAt_rests events place world).same] at others
      exact others

/-- A step carries out actions of the mission's events only. -/
theorem mem_deeds {mission : Mission π} {dt : Scalar} (member : deed ∈ mission.deeds dt) :
    ∃ event ∈ mission.events.map Event.pristine, deed.1.pristine ∈ event.actions := by
  rcases List.mem_append.mp member with due | ruled
  · unfold deedsOfDueActions at due
    split at due
    · exact mem_deedsOfDue due
    · cases due
  · unfold deedsOfEvents at ruled
    split at ruled
    · obtain ⟨event, there, owned⟩ := Event.mem_deedsOfAll ruled
      have same : ((mission.advanceTime dt).runDueActions dt).events.map Event.pristine =
          mission.events.map Event.pristine :=
        ((mission.advanceTime dt).runDueActions_rests dt).same
      rw [← same]
      exact ⟨event.pristine, List.mem_map_of_mem there, List.mem_map_of_mem owned⟩
    · cases ruled

end Mission

/-- Each of some deeds finds the state that the one before it has left. -/
def Leads : List (Action × World) → MissionState → MissionState → Prop
  | [], before, after => after = before
  | deed :: rest, before, after =>
    deed.2.state = before ∧ Leads rest (deed.1.execute deed.2).2.state after

theorem Leads.append {first second : List (Action × World)} {before middle after : MissionState}
    (early : Leads first before middle) (late : Leads second middle after) :
    Leads (first ++ second) before after := by
  induction first generalizing before with
  | nil =>
    cases early
    exact late
  | cons deed rest ih => exact ⟨early.1, ih early.2⟩

/-- What each deed keeps of the state, all of them keep. -/
theorem Leads.keeps {P : MissionState → Prop} {deeds : List (Action × World)}
    {before after : MissionState} (leads : Leads deeds before after)
    (kept : ∀ deed ∈ deeds, P deed.2.state → P (deed.1.execute deed.2).2.state)
    (held : P before) : P after := by
  induction deeds generalizing before with
  | nil =>
    cases leads
    exact held
  | cons deed rest ih =>
    obtain ⟨rfl, later⟩ := leads
    exact ih later (fun other member => kept other (List.mem_cons_of_mem deed member))
      (kept deed List.mem_cons_self held)

/-- What every action keeps, and what depends on nothing but the state, the spacecraft, who of them
is the pilot's and who takes part, the pools and the settings. -/
structure World.Kept (holds : World → Prop) : Prop where
  same : ∀ {before after : World}, holds before → after.state = before.state →
    after.crafts = before.crafts → after.piloted = before.piloted →
      after.pools = before.pools → after.listed = before.listed →
        after.settings = before.settings → holds after
  executed : ∀ (action : Action) (world : World), holds world → holds (action.execute world).2

/-- What is kept on the way from one world to another, through some states and by some deeds. -/
structure World.Through (holds : World → Prop) (states : List MissionState)
    (done : List (Action × World)) (before after : World) : Prop where
  states : ∀ state ∈ states, ∃ world, holds world ∧ world.state = state
  deeds : ∀ deed ∈ done, holds deed.2
  leads : Leads done before.state after.state
  after : holds after

variable {holds : World → Prop}

namespace World

theorem Through.none {before after : World} (held : holds after)
    (same : after.state = before.state) : Through holds [] [] before after :=
  ⟨by simp, by simp, same, held⟩

theorem Through.append {first second : List MissionState} {early late : List (Action × World)}
    {before middle after : World} (sooner : Through holds first early before middle)
    (later : Through holds second late middle after) :
    Through holds (first ++ second) (early ++ late) before after where
  states state member := by
    rcases List.mem_append.mp member with here | there
    · exact sooner.states state here
    · exact later.states state there
  deeds deed member := by
    rcases List.mem_append.mp member with here | there
    · exact sooner.deeds deed here
    · exact later.deeds deed there
  leads := sooner.leads.append later.leads
  after := later.after

/-- No deed, or a single one, and the state that is seen after it. -/
theorem Through.seen {deeds : List (Action × World)} {before after : World}
    (found : ∀ deed ∈ deeds, holds deed.2) (leads : Leads deeds before.state after.state)
    (held : holds after) : Through holds [after.state] deeds before after where
  states state member := by
    rw [List.mem_singleton] at member
    exact ⟨after, held, member.symm⟩
  deeds := found
  leads := leads
  after := held

/-- No deed is done, and the state is seen as it was. -/
theorem Through.idle {before after : World} (held : holds after)
    (same : after.state = before.state) : Through holds [after.state] [] before after :=
  .seen (fun _ none_ => absurd none_ List.not_mem_nil) same held

end World

namespace Event

variable (kept : World.Kept holds)

include kept

theorem runActions_through (place : ActionPlace) (actions : List Action) (world : World)
    (held : holds world) :
    World.Through holds (statesOfActions place actions world)
      (deedsOfActions place actions world) world (runActions place actions world).2 := by
  induction actions generalizing place world with
  | nil => exact .none held rfl
  | cons action rest ih =>
    have first : World.Through holds [(runActions place [action] world).2.state]
        (if action.isDelayed then [] else [(action, world)]) world
        (runActions place [action] world).2 := by
      simp only [runActions]
      split
      · exact .idle (kept.same held rfl rfl rfl rfl rfl rfl) rfl
      · refine .seen (fun deed member => ?_) ⟨rfl, rfl⟩ (kept.executed action world held)
        rw [List.mem_singleton.mp member]
        exact held
    rw [runActions_cons]
    exact first.append (ih _ _ first.after)

theorem simulateAll_through (dt : Scalar) (index : Nat) (events : List Event) (world : World)
    (held : holds world) :
    World.Through holds (statesOfAll dt index events world) (deedsOfAll dt index events world)
      world (simulateAll dt index events world).2 := by
  induction events generalizing index world with
  | nil => exact .none held rfl
  | cons event rest ih =>
    have first : World.Through holds
        (if (event.trigger.simulate world dt).1 then
          statesOfActions ⟨index, 0⟩ event.actions (world.recordFire index) else [])
        (if (event.trigger.simulate world dt).1 then
          deedsOfActions ⟨index, 0⟩ event.actions (world.recordFire index) else [])
        world (event.simulate index world dt).2 := by
      unfold simulate
      dsimp only
      split
      · have fired := runActions_through kept ⟨index, 0⟩ event.actions (world.recordFire index)
          (kept.same held rfl rfl rfl rfl rfl rfl)
        exact ⟨fired.states, fired.deeds, fired.leads, fired.after⟩
      · exact .none held rfl
    exact first.append (ih (index + 1) _ first.after)

theorem executeAt_through (events : List Event) (place : ActionPlace) (world : World)
    (held : holds world) :
    World.Through holds [(executeAt events place world).2.state] (deedAt events place world)
      world (executeAt events place world).2 := by
  unfold executeAt deedAt
  cases present : events[place.event]? with
  | none => exact .idle held rfl
  | some event =>
    dsimp only [Option.bind_some]
    cases found : event.actions[place.action]? with
    | none => exact .idle held rfl
    | some action =>
      dsimp only [Option.map_some, Option.toList_some]
      refine .seen (fun deed member => ?_) ⟨rfl, rfl⟩ (kept.executed action world held)
      rw [List.mem_singleton.mp member]
      exact held

end Event

namespace Mission

variable {π : Type}

section

variable (kept : World.Kept holds)

include kept

theorem executeAll_through (due : List ActionPlace) (events : List Event) (world : World)
    (held : holds world) :
    World.Through holds (statesOfDue due events world) (deedsOfDue due events world) world
      (executeAll due events world).2 := by
  induction due generalizing events world with
  | nil => exact .none held rfl
  | cons place rest ih =>
    have first := Event.executeAt_through kept events place world held
    exact first.append (ih _ _ first.after)

theorem runDueActions_through (mission : Mission π) (dt : Scalar) (held : holds mission.world) :
    World.Through holds (mission.statesOfDueActions dt) (mission.deedsOfDueActions dt)
      mission.world (mission.runDueActions dt).world := by
  unfold statesOfDueActions deedsOfDueActions runDueActions
  split
  · have done := executeAll_through kept (mission.world.takeDue dt).1 mission.events
      (mission.world.takeDue dt).2 (kept.same held rfl rfl rfl rfl rfl rfl)
    exact ⟨done.states, done.deeds, done.leads, done.after⟩
  · exact .none held rfl

theorem runEvents_through (mission : Mission π) (dt : Scalar) (held : holds mission.world) :
    World.Through holds (mission.statesOfEvents dt ++ [(mission.runEvents dt).state])
      (mission.deedsOfEvents dt) mission.world (mission.runEvents dt).world := by
  have ruled : World.Through holds (mission.statesOfEvents dt) (mission.deedsOfEvents dt)
      mission.world (mission.runEvents dt).world := by
    cases authority : mission.authority with
    | true =>
      simp only [statesOfEvents, deedsOfEvents, runEvents, authority, ↓reduceIte]
      have all := Event.simulateAll_through kept dt 0 mission.events mission.world held
      exact ⟨all.states, all.deeds, all.leads, kept.same all.after rfl rfl rfl rfl rfl rfl⟩
    | false =>
      simp only [statesOfEvents, deedsOfEvents, runEvents, authority, Bool.false_eq_true,
        ↓reduceIte]
      exact .none (kept.same held rfl rfl rfl rfl rfl rfl) rfl
  have last := ruled.append (.idle ruled.after rfl)
  rw [List.append_nil] at last
  exact last

/-- What every action keeps holds for each action that a step carries out, and in all states up to
the end of the rules. -/
theorem runRules_through (mission : Mission π) (dt : Scalar) (held : holds mission.world) :
    World.Through holds
      ([(mission.advanceTime dt).state] ++ (mission.advanceTime dt).statesOfDueActions dt ++
        (((mission.advanceTime dt).runDueActions dt).statesOfEvents dt ++
          [(mission.runRules dt).state]))
      (mission.deeds dt) mission.world (mission.runRules dt).world := by
  have timed : World.Through holds [(mission.advanceTime dt).state] [] mission.world
      (mission.advanceTime dt).world := .idle (kept.same held rfl rfl rfl rfl rfl rfl) rfl
  have due := timed.append (runDueActions_through kept _ dt timed.after)
  exact due.append (runEvents_through kept _ dt due.after)

end

/-- The rules of a step change the state by its deeds only. -/
theorem deeds_lead (mission : Mission π) (dt : Scalar) :
    Leads (mission.deeds dt) mission.state (mission.runRules dt).state :=
  have kept : World.Kept fun _ => True :=
    { same := fun _ _ _ _ _ _ _ => trivial
      executed := fun _ _ _ => trivial }
  (runRules_through kept mission dt trivial).leads

end Mission

end Sortie
