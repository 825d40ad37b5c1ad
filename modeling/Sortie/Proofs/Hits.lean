import Sortie.Proofs.Destruction
import Sortie.Proofs.NoticeHistory

set_option autoImplicit false

namespace Sortie

def Notice.isHit : Notice → Bool
  | .hit _ _ => true
  | .targeted _ _ => false

/-- The kept notices of hits. -/
def NoticeLog.hits (log : NoticeLog) : List Notice := log.kept.filter Notice.isHit

theorem NoticeLog.hits_push (log : NoticeLog) (notice : Notice) :
    (log.push notice).hits = log.hits ++ if notice.isHit then [notice] else [] := by
  simp only [NoticeLog.hits, NoticeLog.push, List.filter_append, List.filter_cons, List.filter_nil]

/-- The hits that a grown log has more. -/
theorem NoticeLog.Grows.hits_more {before after : NoticeLog} (grows : before.Grows after) :
    after.hits = before.hits ++ (before.more after).filter Notice.isHit := by
  rw [NoticeLog.hits, grows.kept_eq, List.filter_append]
  rfl

namespace World

def hits (world : World) : List Notice := world.notices.hits

theorem hits_notify_targeted (world : World) (target source : Nat) :
    (world.notify (.targeted target source)).hits = world.hits :=
  (world.notices.hits_push _).trans (List.append_nil _)

variable {kind : ChangeKind} {kinds : List ChangeKind} {before after : World}

theorem Change.hits (change : Change kind before after) (harmless : kind ∉ [.hit, .retire]) :
    after.hits = before.hits := by
  cases change with
  | hit => exact absurd (by decide) harmless
  | retire => exact absurd (by decide) harmless
  | sight target source => exact hits_notify_targeted before target source
  | _ => rfl

/-- Nobody is hit but by a notice of it, which stays until the notices are retired. -/
theorem Changes.hits (changes : Changes kinds before after)
    (harmless : ∀ kind ∈ kinds, kind ∉ [.hit, .retire]) : after.hits = before.hits :=
  changes.keeps World.hits fun kind member _ _ change => change.hits (harmless kind member)

end World

namespace Blow

/-- The notice of a blow that lands. -/
def notice (blow : Blow) : Notice := .hit blow.target (some blow.attacker)

theorem hits_after (blow : Blow) :
    blow.after.hits = blow.world.hits ++ if blow.lands then [blow.notice] else [] := by
  rcases blow.cases with ⟨nothing, same⟩ | ⟨_, _, landing⟩
  · rw [same, lands, nothing]
    exact (List.append_nil _).symm
  · rw [World.hits, landing.told, NoticeLog.hits_push, lands, landing.outcome]
    rfl

/-- A blow that lands finds its target alive, and alive it stays unless the blow destroys it. -/
theorem alive_of_lands {blow : Blow} (lands : blow.lands = true) :
    ∃ victim struck, blow.world.craft? blow.target = some victim ∧ victim.alive = true ∧
      blow.after.craft? blow.target = some struck ∧ struck.alive = !blow.destroys := by
  rcases blow.cases with ⟨nothing, _⟩ | ⟨victim, _, landing⟩
  · rw [Blow.lands, nothing] at lands
    cases lands
  · obtain ⟨struck, here, leaves⟩ := blow.leaves landing.found
    refine ⟨victim, struck, landing.found, landing.alive, here, ?_⟩
    rw [leaves.alive, landing.alive, BEq.rfl, Bool.and_true, Bool.true_and]

end Blow

/-- The notices of some blows. -/
def hitsOf (blows : List Blow) : List Notice := (blows.filter Blow.lands).map Blow.notice

namespace World.Fights

variable {before after : World} {blows : List Blow}

theorem hits (fights : before.Fights blows after) : after.hits = before.hits ++ hitsOf blows := by
  induction fights with
  | calm calm =>
    rw [calm.hits (by decide)]
    exact (List.append_nil _).symm
  | blow blow _ _ =>
    rw [blow.hits_after, hitsOf, List.filter_cons]
    cases blow.lands with
    | true => rfl
    | false => rfl
  | append _ _ early late =>
    rw [late, early, hitsOf, hitsOf, hitsOf, List.filter_append, List.map_append,
      List.append_assoc]

/-- Each blow of a fight is on another spacecraft than the one it comes from, which is in the battle
space, in a world to which the fight has led by then. -/
theorem each {R : Spacecraft → Spacecraft → Prop} (bears : Spacecraft.Bears R)
    (fights : before.Fights blows after) :
    ∀ blow ∈ blows, blow.target ≠ blow.attacker ∧ blow.world.Near blow.target ∧
      Proceeds R before blow.world := by
  induction fights with
  | calm _ => exact fun _ none_ => absurd none_ List.not_mem_nil
  | blow blow apart near =>
    intro other member
    rw [List.mem_singleton.mp member]
    exact ⟨apart, near, .refl bears.toSpans _⟩
  | append early _ ihEarly ihLate =>
    intro blow member
    rcases List.mem_append.mp member with sooner | later
    · exact ihEarly blow sooner
    · obtain ⟨apart, near, proceeds⟩ := ihLate blow later
      exact ⟨apart, near, (early.proceeds bears).trans bears.toSpans proceeds⟩

/-- Who is struck by a blow that lands was present when the fight began, and still is. -/
theorem present_of_lands (fights : before.Fights blows after) {blow : Blow}
    (member : blow ∈ blows) (lands : blow.lands = true) :
    ∃ craft victim, before.craft? blow.target = some craft ∧ craft.isPresent = true ∧
      blow.world.craft? blow.target = some victim ∧ victim.isPresent = true := by
  obtain ⟨_, near, proceeds⟩ := fights.each Spacecraft.fares_bears blow member
  obtain ⟨victim, _, found, alive, _⟩ := Blow.alive_of_lands lands
  have present : victim.isPresent = true := by
    rw [Spacecraft.isPresent, alive, near victim found]
    rfl
  obtain ⟨craft, there, fares⟩ := proceeds.before found
  exact ⟨craft, victim, there, fares.isPresent present, found, present⟩

end World.Fights

namespace Spacecraft

/-- Outside the battle space neither hull nor shield changes by commands and damage. -/
structure Unharmed (before after : Spacecraft) : Prop where
  isAway : after.isAway = before.isAway
  away : before.isAway = true → after.hull = before.hull ∧ after.shield = before.shield

theorem unharmed_bears : Bears Unharmed where
  mild _ _ mild := ⟨mild.isAway, fun _ => ⟨mild.hull, mild.shield⟩⟩
  trans _ _ _ early late := by
    refine ⟨late.isAway.trans early.isAway, fun away => ?_⟩
    obtain ⟨hull, shield⟩ := early.away away
    obtain ⟨hullToo, shieldToo⟩ := late.away (early.isAway.trans away)
    exact ⟨hullToo.trans hull, shieldToo.trans shield⟩
  isAway _ _ unharmed := unharmed.isAway
  damaged craft amount near :=
    ⟨craft.damage_isAway amount, fun away => absurd (near.symm.trans away) (by decide)⟩
  credited _ _ := ⟨rfl, fun _ => ⟨rfl, rfl⟩⟩

end Spacecraft

namespace Mission

variable {π : Type} [Pilot π]

/-- The hits that a step tells of are the blows of its fight that land. -/
theorem hits_of_tick (mission : Mission π) {dt : Scalar} (accepted : accepts dt = true) :
    (mission.noticesOf (.tick dt)).filter Notice.isHit =
      hitsOf ((mission.flown dt).fightBlows dt) := by
  have ruled := mission.waited_ruled_changes dt
  have early := (ruled.grows (by decide)).hits_more
  have still : ((mission.waited dt).ruled dt).hits = mission.world.hits := ruled.hits (by decide)
  rw [World.hits, World.hits] at still
  rw [still, eq_comm, List.append_right_eq_self] at early
  have late := (mission.tick_grows accepted).hits_more
  have steered : (mission.flown dt).world.hits = (mission.runRules dt).world.hits :=
    (mission.flown_changes dt).hits (by decide)
  have fought : (mission.fought dt).world.hits =
      (mission.flown dt).world.hits ++ hitsOf ((mission.flown dt).fightBlows dt) :=
    ((mission.flown dt).fight_fights dt).hits
  have settled : (mission.tick dt).world.hits = (mission.fought dt).world.hits :=
    (mission.fought_tick_changes accepted).hits (by decide)
  rw [fought, steered, World.hits, World.hits, late] at settled
  rw [noticesOf, if_pos accepted, List.filter_append, early, List.nil_append]
  exact List.append_cancel_left settled

/-- The hits that a step tells of are its blows that land, in this order. Such a blow is on a
spacecraft that was present after the flight of the step, by another one; it finds its target
present, alive that is, and leaves it alive unless it destroys it. Who is away after the flight has
the same hull and the same shield at the end of the step. -/
theorem only_the_present_are_hit (mission : Mission π) (dt : Scalar)
    (accepted : accepts dt = true) :
    (mission.noticesOf (.tick dt)).filter Notice.isHit =
        ((mission.blows (.tick dt)).filter Blow.lands).map Blow.notice ∧
      (∀ blow ∈ mission.blows (.tick dt), blow.lands = true →
        blow.attacker ≠ blow.target ∧
          (∃ craft, (mission.flown dt).world.craft? blow.target = some craft ∧
            craft.isPresent = true) ∧
          ∃ victim struck, blow.world.craft? blow.target = some victim ∧
            victim.isPresent = true ∧ blow.after.craft? blow.target = some struck ∧
            struck.alive = !blow.destroys) ∧
      ∀ index craft, (mission.flown dt).world.craft? index = some craft → craft.isAway = true →
        ∃ later, (mission.tick dt).world.craft? index = some later ∧
          later.hull = craft.hull ∧ later.shield = craft.shield := by
  have fights : World.Fights (mission.flown dt).world ((mission.flown dt).fightBlows dt)
      (mission.fought dt).world := (mission.flown dt).fight_fights dt
  rw [blows, if_pos accepted]
  refine ⟨mission.hits_of_tick accepted, fun blow member lands => ?_,
    fun index craft found away => ?_⟩
  · obtain ⟨apart, _, _⟩ := fights.each Spacecraft.fares_bears blow member
    obtain ⟨craft, victim, there, present, found, still⟩ := fights.present_of_lands member lands
    obtain ⟨_, struck, again, _, here, alive⟩ := Blow.alive_of_lands lands
    cases again.symm.trans found
    exact ⟨apart.symm, ⟨craft, there, present⟩, victim, struck, found, still, here, alive⟩
  · have settled :=
      (mission.fought_tick_changes accepted).proceeds Spacecraft.unharmed_bears.toSpans (by decide)
    have rest := (fights.proceeds Spacecraft.unharmed_bears).trans
      Spacecraft.unharmed_bears.toSpans settled
    obtain ⟨later, here, unharmed⟩ := rest.crafts index craft found
    exact ⟨later, here, unharmed.away away⟩

/-- The two that run into each other are hit once each. -/
theorem crash_hits_both :
    accepts 16 = true ∧
      (crash.noticesOf (.tick 16)).filter Notice.isHit = [.hit 0 (some 1), .hit 1 (some 0)] ∧
      ∀ blow ∈ crash.blows (.tick 16), blow.lands = true →
        ∃ craft, (crash.flown 16).world.craft? blow.target = some craft ∧
          craft.isPresent = true := by
  have accepted : accepts 16 = true := by decide +kernel
  obtain ⟨hits, present, _⟩ := only_the_present_are_hit crash 16 accepted
  refine ⟨accepted, ?_, fun blow member lands => (present blow member lands).2.1⟩
  rw [hits]
  decide +kernel

/-- A hit is told of after its damage is done: when each of these two has just been told of, its
target is dead. -/
theorem crash_hits_tell_of_wrecks :
    crash.noticesOf (.tick 16) = [.hit 0 (some 1), .hit 1 (some 0)] ∧
      (crash.blows (.tick 16)).map (fun blow =>
          (blow.after.notices.kept.getLast?, (blow.after.craft? blow.target).map Spacecraft.alive)) =
        [(some (.hit 0 (some 1)), some false), (some (.hit 1 (some 0)), some false)] := by
  decide +kernel

end Mission

end Sortie
