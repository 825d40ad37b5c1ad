import Sortie.Proofs.Decline

set_option autoImplicit false

namespace Sortie

namespace Spacecraft

/-- Whether a spacecraft that has a hull lives as long as something is left of it. -/
def Sound (craft : Spacecraft) : Prop :=
  0 < craft.craftClass.hull → (craft.alive = true ↔ ¬ craft.hull ≤ 0)

/-- Whether a spacecraft is a wreck, and later the same wreck. -/
structure Rests (before after : Spacecraft) : Prop where
  dead : after.alive = false
  hull : after.hull = before.hull
  shield : after.shield = before.shield
  jump : after.jump = before.jump

/-- What becomes of a spacecraft in a run: it keeps its class and its side, it is sound if it was,
and a wreck stays as it is. -/
structure Lasts (before after : Spacecraft) : Prop where
  craftClass : after.craftClass = before.craftClass
  team : after.team = before.team
  sound : before.Sound → after.Sound
  rests : before.alive = false → before.Rests after

theorem Lasts.refl (craft : Spacecraft) : craft.Lasts craft :=
  ⟨rfl, rfl, fun sound => sound, fun dead => ⟨dead, rfl, rfl, rfl⟩⟩

theorem Lasts.trans {first second third : Spacecraft} (early : first.Lasts second)
    (late : second.Lasts third) : first.Lasts third := by
  refine ⟨late.craftClass.trans early.craftClass, late.team.trans early.team,
    fun sound => late.sound (early.sound sound), fun dead => ?_⟩
  have wreck := early.rests dead
  have later := late.rests wreck.dead
  exact ⟨later.dead, later.hull.trans wreck.hull, later.shield.trans wreck.shield,
    later.jump.trans wreck.jump⟩

/-- What becomes of a spacecraft other than by blows: it lives on if it lived, with as many kills.
-/
structure Endures (before after : Spacecraft) : Prop extends Lasts before after where
  alive : after.alive = before.alive
  kills : after.stats.kills = before.stats.kills

theorem Endures.refl (craft : Spacecraft) : craft.Endures craft := ⟨.refl craft, rfl, rfl⟩

theorem Endures.trans {first second third : Spacecraft} (early : first.Endures second)
    (late : second.Endures third) : first.Endures third :=
  ⟨early.toLasts.trans late.toLasts, late.alive.trans early.alive, late.kills.trans early.kills⟩

theorem Mild.endures {before after : Spacecraft} (mild : before.Mild after) :
    before.Endures after where
  craftClass := mild.craftClass
  team := mild.team
  sound sound := by
    unfold Sound
    rw [mild.craftClass, mild.alive, mild.hull]
    exact sound
  rests dead := ⟨mild.alive.trans dead, mild.hull, mild.shield, mild.halted dead⟩
  alive := mild.alive
  kills := mild.kills

theorem simulate_endures (craft : Spacecraft) (dt : Scalar) :
    craft.Endures (craft.simulate dt).2 := by
  cases alive : craft.alive with
  | false =>
    rw [simulate_of_dead alive]
    exact .refl craft
  | true =>
    obtain ⟨_, _, _, _, _, _, _, flown⟩ := craft.simulate_same dt
    rw [flown]
    exact ⟨⟨rfl, rfl, fun sound => sound, fun dead => absurd (alive.symm.trans dead) (by decide)⟩,
      rfl, rfl⟩

/-- A living spacecraft survives damage just if that does not destroy it. -/
theorem damage_alive {craft : Spacecraft} (alive : craft.alive = true) (amount : Scalar) :
    (craft.damage amount).2.alive = !(craft.damage amount).1.destroyed := by
  unfold damage
  split
  · exact alive
  · rfl

theorem damage_stats (craft : Spacecraft) (amount : Scalar) :
    (craft.damage amount).2.stats = craft.stats := by
  unfold damage
  split
  · rfl
  · rfl

theorem damage_lasts {craft : Spacecraft} (alive : craft.alive = true) (amount : Scalar) :
    craft.Lasts (craft.damage amount).2 := by
  unfold damage
  split
  · exact .refl craft
  · refine ⟨rfl, rfl, fun _ _ => ?_, fun dead => absurd (alive.symm.trans dead) (by decide)⟩
    simp only [Bool.not_eq_true', decide_eq_false_iff_not]

end Spacecraft

namespace Blow

variable {blow : Blow} {victim : Spacecraft} {amount : Scalar}

theorem Landing.destroys_eq (landing : blow.Landing victim amount) :
    blow.destroys = (victim.damage amount).1.destroyed := by
  rw [Blow.destroys, landing.outcome, Option.any_some]

/-- What becomes of a spacecraft by a blow: it dies if it is the target of one that destroys, and it
has one more kill if such a one is to its credit. -/
structure Leaves (blow : Blow) (index : Nat) (before after : Spacecraft) : Prop
    extends before.Lasts after where
  alive : after.alive = (before.alive && !(blow.destroys && blow.target == index))
  kills : after.stats.kills =
    before.stats.kills + if blow.destroys && blow.credits index then 1 else 0

theorem leaves (blow : Blow) {index : Nat} {craft : Spacecraft}
    (found : blow.world.craft? index = some craft) :
    ∃ later, blow.after.craft? index = some later ∧ blow.Leaves index craft later := by
  rcases blow.cases with ⟨nothing, same⟩ | ⟨victim, amount, landing⟩
  · have spared : blow.destroys = false := by rw [Blow.destroys, nothing, Option.any_none]
    refine ⟨craft, by rw [same, found], ⟨.refl craft, ?_, ?_⟩⟩
    · rw [spared, Bool.false_and, Bool.not_false, Bool.and_true]
    · simp only [spared, Bool.false_and, Bool.false_eq_true, ↓reduceIte, Nat.add_zero]
  · have struck : ∃ harmed, (if blow.target = index then some (victim.damage amount).2
        else blow.world.craft? index) = some harmed ∧ craft.Lasts harmed ∧
        harmed.alive = (craft.alive && !(blow.destroys && blow.target == index)) ∧
        harmed.stats.kills = craft.stats.kills := by
      by_cases same : blow.target = index
      · rw [← same, landing.found] at found
        cases found
        refine ⟨_, if_pos same, Spacecraft.damage_lasts landing.alive amount, ?_, ?_⟩
        · rw [Spacecraft.damage_alive landing.alive, landing.destroys_eq, landing.alive, same,
            BEq.rfl, Bool.and_true, Bool.true_and]
        · rw [Spacecraft.damage_stats]
      · refine ⟨craft, (if_neg same).trans found, .refl craft, ?_, rfl⟩
        rw [beq_eq_false_iff_ne.mpr same, Bool.and_false, Bool.not_false, Bool.and_true]
    obtain ⟨harmed, there, lasts, alive, kills⟩ := struck
    have later := landing.crafts index
    dsimp only at later
    rw [there] at later
    cases credited : blow.credits index with
    | true =>
      rw [credited, if_pos rfl, Option.map_some] at later
      refine ⟨_, later, ⟨lasts.trans ⟨rfl, rfl, fun sound => sound, fun dead =>
        ⟨dead, rfl, rfl, rfl⟩⟩, alive, ?_⟩⟩
      rw [credited, Bool.and_true, landing.destroys_eq, ← kills]
      dsimp only [Spacecraft.credit]
      split
      · rfl
      · rfl
    | false =>
      rw [credited, if_neg Bool.false_ne_true] at later
      refine ⟨harmed, later, ⟨lasts, alive, ?_⟩⟩
      rw [credited, Bool.and_false, if_neg Bool.false_ne_true]
      exact kills

/-- A blow that destroys finds its target alive and leaves a wreck. -/
theorem wreck_of_destroys (destroys : blow.destroys = true) :
    ∃ victim wreck, blow.world.craft? blow.target = some victim ∧ victim.alive = true ∧
      blow.after.craft? blow.target = some wreck ∧ wreck.alive = false ∧ victim.Lasts wreck := by
  rcases blow.cases with ⟨nothing, _⟩ | ⟨victim, _, landing⟩
  · rw [Blow.destroys, nothing] at destroys
    cases destroys
  · obtain ⟨wreck, here, leaves⟩ := blow.leaves landing.found
    refine ⟨victim, wreck, landing.found, landing.alive, here, ?_, leaves.toLasts⟩
    rw [leaves.alive, destroys, BEq.rfl, Bool.and_true, Bool.not_true, Bool.and_false]

end Blow

/-- The spacecraft that some blows destroy. -/
def losses (blows : List Blow) : List Nat := (blows.filter Blow.destroys).map Blow.target

theorem losses_append (early late : List Blow) :
    losses (early ++ late) = losses early ++ losses late := by
  rw [losses, List.filter_append, List.map_append]
  rfl

theorem mem_losses {blows : List Blow} {index : Nat} :
    index ∈ losses blows ↔ ∃ blow ∈ blows, blow.destroys = true ∧ blow.target = index := by
  simp only [losses, List.mem_map, List.mem_filter, and_assoc]

/-- The kills that some blows are to the credit of a spacecraft for. -/
def killsBy (index : Nat) (blows : List Blow) : List Blow :=
  blows.filter fun blow => blow.destroys && blow.credits index

namespace World

/-- Whether an index names a wreck. -/
def Fallen (world : World) (index : Nat) : Prop :=
  ∃ craft, world.craft? index = some craft ∧ craft.alive = false

structure Lasts (before after : World) : Prop where
  size : after.crafts.size = before.crafts.size
  crafts : ∀ index craft, before.craft? index = some craft →
    ∃ later, after.craft? index = some later ∧ craft.Lasts later

theorem Lasts.refl (world : World) : world.Lasts world :=
  ⟨rfl, fun _ craft found => ⟨craft, found, .refl craft⟩⟩

theorem Lasts.trans {first second third : World} (early : first.Lasts second)
    (late : second.Lasts third) : first.Lasts third := by
  refine ⟨late.size.trans early.size, fun index craft found => ?_⟩
  obtain ⟨middle, there, lasts⟩ := early.crafts index craft found
  obtain ⟨later, here, rest⟩ := late.crafts index middle there
  exact ⟨later, here, lasts.trans rest⟩

theorem Lasts.fallen {before after : World} (lasts : before.Lasts after) {index : Nat}
    (fallen : before.Fallen index) : after.Fallen index := by
  obtain ⟨craft, found, dead⟩ := fallen
  obtain ⟨later, here, same⟩ := lasts.crafts index craft found
  exact ⟨later, here, (same.rests dead).dead⟩

/-- What some blows on the way from one world to another have to do with the change: each spacecraft
that has died was destroyed by one of them, and by no more than one, and each further kill of a
spacecraft is one that a blow was to its credit for. -/
structure Suffers (before : World) (blows : List Blow) (after : World) : Prop where
  lasts : before.Lasts after
  later : ∀ blow ∈ blows, blow.after.Lasts after
  apart : ∀ blow ∈ blows, blow.target ≠ blow.attacker
  once : (losses blows).Nodup
  alive : ∀ index ∈ losses blows, ¬ before.Fallen index
  fallen : ∀ index, after.Fallen index ↔ before.Fallen index ∨ index ∈ losses blows
  kills : ∀ index craft, before.craft? index = some craft → ∃ later,
    after.craft? index = some later ∧
      later.stats.kills = craft.stats.kills + (killsBy index blows).length

theorem Suffers.of_endures {before after : World}
    (size : after.crafts.size = before.crafts.size)
    (crafts : ∀ index craft, before.craft? index = some craft →
      ∃ later, after.craft? index = some later ∧ craft.Endures later) :
    before.Suffers [] after where
  lasts := ⟨size, fun index craft found =>
    (crafts index craft found).imp fun _ same => ⟨same.1, same.2.toLasts⟩⟩
  later _ none_ := absurd none_ List.not_mem_nil
  apart _ none_ := absurd none_ List.not_mem_nil
  once := List.nodup_nil
  alive _ none_ := absurd none_ List.not_mem_nil
  fallen index := by
    constructor
    · rintro ⟨later, found, dead⟩
      obtain ⟨craft, there, endures⟩ := craft?_before size crafts found
      exact .inl ⟨craft, there, endures.alive.symm.trans dead⟩
    · rintro (⟨craft, found, dead⟩ | none_)
      · obtain ⟨later, here, endures⟩ := crafts index craft found
        exact ⟨later, here, endures.alive.trans dead⟩
      · exact absurd none_ List.not_mem_nil
  kills index craft found :=
    (crafts index craft found).imp fun _ same => ⟨same.1, same.2.kills⟩

theorem Suffers.of_mild {before after : World} (proceeds : Proceeds Spacecraft.Mild before after) :
    before.Suffers [] after :=
  .of_endures proceeds.size fun index craft found =>
    (proceeds.crafts index craft found).imp fun _ same => ⟨same.1, same.2.endures⟩

theorem Suffers.append {first second third : World} {early late : List Blow}
    (sooner : first.Suffers early second) (later : second.Suffers late third) :
    first.Suffers (early ++ late) third where
  lasts := sooner.lasts.trans later.lasts
  later blow member := by
    rcases List.mem_append.mp member with before | after
    · exact (sooner.later blow before).trans later.lasts
    · exact later.later blow after
  apart blow member := (List.mem_append.mp member).elim (sooner.apart blow) (later.apart blow)
  once := by
    rw [losses_append]
    refine List.nodup_append.mpr ⟨sooner.once, later.once, ?_⟩
    rintro index before other after rfl
    exact later.alive index after ((sooner.fallen index).mpr (.inr before))
  alive index member fallen := by
    rw [losses_append] at member
    rcases List.mem_append.mp member with before | after
    · exact sooner.alive index before fallen
    · exact later.alive index after (sooner.lasts.fallen fallen)
  fallen index := by
    rw [later.fallen, sooner.fallen, losses_append, List.mem_append, or_assoc]
  kills index craft found := by
    obtain ⟨middle, there, some_⟩ := sooner.kills index craft found
    obtain ⟨last, here, more⟩ := later.kills index middle there
    refine ⟨last, here, ?_⟩
    rw [more, some_, killsBy, killsBy, killsBy, List.filter_append, List.length_append,
      Nat.add_assoc]

end World

theorem Blow.lasts (blow : Blow) : blow.world.Lasts blow.after where
  size := by
    rcases blow.cases with ⟨_, same⟩ | ⟨_, _, landing⟩
    · rw [same]
    · exact landing.size
  crafts _ _ found := (blow.leaves found).imp fun _ same => ⟨same.1, same.2.toLasts⟩

theorem mem_losses_singleton {blow : Blow} {index : Nat} :
    index ∈ losses [blow] ↔ blow.destroys = true ∧ blow.target = index := by
  simp only [mem_losses, List.mem_singleton, exists_eq_left]

theorem Blow.suffers {blow : Blow} (apart : blow.target ≠ blow.attacker) :
    blow.world.Suffers [blow] blow.after where
  lasts := blow.lasts
  later other member := by
    rw [List.mem_singleton.mp member]
    exact .refl _
  apart other member := by
    rw [List.mem_singleton.mp member]
    exact apart
  once := by
    rw [losses]
    cases destroys : blow.destroys with
    | false => simp [destroys]
    | true => simp [destroys]
  alive index member := by
    obtain ⟨destroys, rfl⟩ := mem_losses_singleton.mp member
    obtain ⟨victim, _, found, alive, _⟩ := wreck_of_destroys destroys
    rintro ⟨craft, there, dead⟩
    rw [found] at there
    cases there
    exact absurd (alive.symm.trans dead) (by decide)
  fallen index := by
    rw [mem_losses_singleton]
    constructor
    · rintro ⟨later, found, dead⟩
      obtain ⟨craft, there, _⟩ := World.craft?_before blow.lasts.size blow.lasts.crafts found
      obtain ⟨_, here, leaves⟩ := blow.leaves there
      cases here.symm.trans found
      rw [leaves.alive, Bool.and_eq_false_imp] at dead
      cases alive : craft.alive with
      | false => exact .inl ⟨craft, there, alive⟩
      | true =>
        have hit := dead alive
        rw [Bool.not_eq_false', Bool.and_eq_true, beq_iff_eq] at hit
        exact .inr hit
    · rintro (fallen | ⟨destroys, rfl⟩)
      · exact blow.lasts.fallen fallen
      · obtain ⟨_, wreck, _, _, here, dead, _⟩ := wreck_of_destroys destroys
        exact ⟨wreck, here, dead⟩
  kills index craft found := by
    obtain ⟨later, here, leaves⟩ := blow.leaves found
    refine ⟨later, here, ?_⟩
    rw [leaves.kills, killsBy, ← List.countP_eq_length_filter, List.countP_singleton]

/-- A fight from one world to another accounts for all that is destroyed on the way. -/
theorem World.Fights.suffers {before after : World} {blows : List Blow}
    (fights : before.Fights blows after) : before.Suffers blows after := by
  induction fights with
  | calm calm => exact .of_mild (calm.proceeds Spacecraft.mild_spans (by decide))
  | blow _ apart _ => exact Blow.suffers apart
  | append _ _ sooner later => exact sooner.append later

namespace Mission

variable {π : Type} [Pilot π]

/-- The blows of an input: those of the fight of a step. -/
def blows (mission : Mission π) : Input π → List Blow
  | .tick dt => if accepts dt then (mission.flown dt).fightBlows dt else []
  | _ => []

/-- All blows of a run, in order. -/
def allBlows (mission : Mission π) : List (Input π) → List Blow
  | [] => []
  | input :: rest => mission.blows input ++ (mission.take input).allBlows rest

theorem flown_suffers (mission : Mission π) (dt : Scalar) :
    mission.world.Suffers [] (mission.flown dt).world := by
  have ruled : mission.world.Suffers [] (mission.runRules dt).world := by
    have proceeds := (mission.waited_ruled_changes dt).proceeds Spacecraft.mild_spans (by decide)
    rw [runRules, runEvents_world]
    exact .of_endures proceeds.size fun index craft found =>
      (proceeds.crafts index craft found).imp fun _ same => ⟨same.1, same.2.endures⟩
  have steered : World.Suffers _ [] _ :=
    .of_mild
      (((mission.runRules dt).controlCrafts_changes dt).proceeds Spacecraft.mild_spans (by decide))
  show mission.world.Suffers (([] ++ []) ++ []) (mission.flown dt).world
  refine (ruled.append steered).append (.of_endures ?_ fun index craft found => ?_)
  · obtain ⟨_, _, _, size, after⟩ :=
      ((mission.runRules dt).controlCrafts dt).world.simulateCrafts_same dt
    rw [flown, simulateCrafts, after]
    exact size
  · rw [flown, simulateCrafts, World.craft?_simulateCrafts]
    exact World.simulateEach_crafts Spacecraft.Endures.refl (fun _ _ _ => Spacecraft.Endures.trans)
      dt (fun craft => craft.simulate_endures dt) _ _ found

/-- All damage of a step is in its blows. -/
theorem tick_suffers (mission : Mission π) {dt : Scalar} (accepted : accepts dt = true) :
    mission.world.Suffers ((mission.flown dt).fightBlows dt) (mission.tick dt).world := by
  have fought : World.Suffers (mission.flown dt).world ((mission.flown dt).fightBlows dt)
      (mission.fought dt).world := ((mission.flown dt).fight_fights dt).suffers
  have settled := World.Suffers.of_mild
    ((mission.fought_tick_changes accepted).proceeds Spacecraft.mild_spans (by decide))
  have whole := ((mission.flown_suffers dt).append fought).append settled
  rw [List.nil_append, List.append_nil] at whole
  exact whole

theorem take_suffers (mission : Mission π) (input : Input π) :
    mission.world.Suffers (mission.blows input) (mission.take input).world := by
  have idle : mission.world.Suffers [] mission.world :=
    .of_mild (.refl Spacecraft.mild_spans mission.world)
  cases input with
  | tick dt =>
    rw [blows, take]
    cases accepted : accepts dt with
    | true => exact mission.tick_suffers accepted
    | false =>
      rw [mission.tick_of_not_accepts dt accepted]
      exact idle
  | _ => exact idle

theorem play_suffers (mission : Mission π) (inputs : List (Input π)) :
    mission.world.Suffers (mission.allBlows inputs) (mission.play inputs).world := by
  induction inputs generalizing mission with
  | nil => exact .of_mild (.refl Spacecraft.mild_spans _)
  | cons input rest ih => exact (mission.take_suffers input).append (ih _)

end Mission

theorem Spacecraft.isHostileTo_comm (craft other : Spacecraft) :
    craft.isHostileTo other = other.isHostileTo craft := by
  unfold isHostileTo
  cases craft.team with
  | none => cases other.team <;> rfl
  | some team =>
    cases other.team with
    | none => rfl
    | some otherTeam => exact bne_comm

theorem Spacecraft.isHostileTo_of_teams {craft other first second : Spacecraft}
    (one : first.team = craft.team) (two : second.team = other.team) :
    first.isHostileTo second = craft.isHostileTo other := by
  rw [isHostileTo, one, two]
  rfl

namespace World

/-- The wrecks of other spacecraft that are hostile to one. -/
def hostileWrecks (world : World) (index : Nat) (craft : Spacecraft) : List Nat :=
  (List.range world.crafts.size).filter fun other =>
    other != index && (world.craft? other).any fun wreck => !wreck.alive && wreck.isHostileTo craft

theorem mem_hostileWrecks {world : World} {index : Nat} {craft : Spacecraft} {other : Nat}
    {wreck : Spacecraft} (apart : other ≠ index) (found : world.craft? other = some wreck)
    (dead : wreck.alive = false) (hostile : wreck.isHostileTo craft = true) :
    other ∈ world.hostileWrecks index craft := by
  refine List.mem_filter.mpr ⟨List.mem_range.mpr (Array.getElem?_eq_some_iff.mp found).1, ?_⟩
  rw [found, Option.any_some, dead, hostile, bne_iff_ne.mpr apart]
  rfl

end World

/-- A blow that is to the credit of a spacecraft leaves a wreck of a hostile. -/
theorem Blow.hostile_of_credits {blow : Blow} {index : Nat} {craft : Spacecraft} {after : World}
    (destroys : blow.destroys = true) (credited : blow.credits index = true)
    (later : blow.after.Lasts after) (found : after.craft? index = some craft) :
    ∃ wreck, after.craft? blow.target = some wreck ∧ wreck.alive = false ∧
      wreck.isHostileTo craft = true := by
  have lasts := blow.lasts.trans later
  simp only [Blow.credits, Bool.and_eq_true, beq_iff_eq] at credited
  obtain ⟨⟨rfl, _⟩, hostile⟩ := credited
  obtain ⟨victim, struck, there, _, hit, dead, died⟩ := wreck_of_destroys destroys
  obtain ⟨attacker, aiming, was⟩ := World.craft?_before lasts.size lasts.crafts found
  rw [World.isHostileAttack, Option.bind_some, aiming, there] at hostile
  obtain ⟨wreck, here, same⟩ := later.crafts _ struck hit
  refine ⟨wreck, here, (same.rests dead).dead, ?_⟩
  rw [Spacecraft.isHostileTo_comm, Spacecraft.isHostileTo_of_teams was.team
    (same.team.trans died.team)]
  exact hostile

/-- The kills that blows are to the credit of a spacecraft for are no more than the wrecks that are
hostile to it. -/
theorem World.Suffers.killsBy_le {before after : World} {blows : List Blow}
    (suffers : before.Suffers blows after) {index : Nat} {craft : Spacecraft}
    (found : after.craft? index = some craft) :
    (killsBy index blows).length ≤ (after.hostileWrecks index craft).length := by
  have part : ((killsBy index blows).map Blow.target).Sublist (losses blows) := by
    refine List.Sublist.map _ ?_
    have both : killsBy index blows = (blows.filter Blow.destroys).filter (·.credits index) := by
      rw [List.filter_filter, killsBy]
      exact List.filter_congr fun blow _ => Bool.and_comm _ _
    rw [both]
    exact List.filter_sublist
  have wrecks : (killsBy index blows).map Blow.target ⊆ after.hostileWrecks index craft := by
    intro target member
    obtain ⟨blow, counted, rfl⟩ := List.mem_map.mp member
    obtain ⟨there, deadly⟩ := List.mem_filter.mp counted
    obtain ⟨destroys, credited⟩ := (Bool.and_eq_true _ _).mp deadly
    obtain ⟨wreck, here, dead, hostile⟩ :=
      Blow.hostile_of_credits destroys credited (suffers.later blow there) found
    have attacker : index = blow.attacker := by
      simp only [Blow.credits, Bool.and_eq_true, beq_iff_eq] at credited
      exact credited.1.1
    exact World.mem_hostileWrecks (attacker ▸ suffers.apart blow there) here dead hostile
  have fewer := ((suffers.once.sublist part).subperm wrecks).length_le
  rwa [List.length_map] at fewer

namespace Mission

variable {π : Type} [Pilot π]

/-- In every run each spacecraft is destroyed by at most one blow, and is dead just if there is one:
the blow finds it alive and leaves a wreck, and at any later end of the run the wreck has the hull,
the shield and the jump that the blow left. Who has a hull is alive just as long as something is
left of it. The pilot has at most as many kills as there are wrecks of others that are hostile to
it. -/
theorem destruction_is_single_and_final (descriptor : MissionDescriptor) (catalog : Catalog)
    (settings : Settings) (pools : Pools) (inputs : List (Input π)) :
    let loaded := ofDescriptor (π := π) descriptor catalog settings pools
    let blows := loaded.allBlows inputs
    let world := (loaded.play inputs).world
    (losses blows).Nodup ∧
      (∀ index craft, world.craft? index = some craft →
        (craft.alive = false ↔ index ∈ losses blows)) ∧
      (∀ blow ∈ blows, blow.destroys = true → ∃ victim wreck craft,
        blow.world.craft? blow.target = some victim ∧ victim.alive = true ∧
          blow.after.craft? blow.target = some wreck ∧ wreck.alive = false ∧
          world.craft? blow.target = some craft ∧ wreck.Rests craft) ∧
      (∀ index craft, world.craft? index = some craft → craft.Sound) ∧
      ∀ index craft, world.piloted = some index → world.craft? index = some craft →
        craft.stats.kills ≤ (world.hostileWrecks index craft).length := by
  intro loaded blows world
  have suffers : loaded.world.Suffers blows world := loaded.play_suffers inputs
  have untried {index : Nat} {craft : Spacecraft}
      (found : loaded.world.craft? index = some craft) : craft.Untried :=
    ofDescriptor_untried descriptor catalog settings pools found
  have nobody (index : Nat) : ¬ loaded.world.Fallen index := by
    rintro ⟨craft, found, dead⟩
    exact absurd ((untried found).alive.symm.trans dead) (by decide)
  refine ⟨suffers.once, fun index craft found => ?_, fun blow member destroys => ?_,
    fun index craft found => ?_, fun index craft _ found => ?_⟩
  · have fallen := suffers.fallen index
    rw [or_iff_right (nobody index)] at fallen
    rw [← fallen]
    constructor
    · exact fun dead => ⟨craft, found, dead⟩
    · rintro ⟨other, there, dead⟩
      rw [found] at there
      cases there
      exact dead
  · obtain ⟨victim, wreck, there, alive, hit, dead, _⟩ := Blow.wreck_of_destroys destroys
    obtain ⟨craft, here, same⟩ := (suffers.later blow member).crafts _ wreck hit
    exact ⟨victim, wreck, craft, there, alive, hit, dead, here, same.rests dead⟩
  · obtain ⟨first, there, lasts⟩ :=
      World.craft?_before suffers.lasts.size suffers.lasts.crafts found
    refine lasts.sound fun hull => ?_
    rw [(untried there).alive, (untried there).hull]
    exact ⟨fun _ => Scalar.not_le_of_lt hull, fun _ => rfl⟩
  · obtain ⟨first, there, _⟩ :=
      World.craft?_before suffers.lasts.size suffers.lasts.crafts found
    obtain ⟨_, here, kills⟩ := suffers.kills index first there
    cases here.symm.trans found
    rw [kills, (untried there).stats, Nat.zero_add]
    exact suffers.killsBy_le found

/-- The two that run into each other destroy each other, once. -/
theorem crash_destroys_both :
    losses (crash.allBlows [.tick 16]) = [0, 1] ∧
      ∀ index craft, (crash.play [.tick 16]).world.craft? index = some craft →
        (craft.alive = false ↔ index ∈ [0, 1]) := by
  have lost : losses (crash.allBlows [.tick 16]) = [0, 1] := by decide +kernel
  have final : ∀ index craft, (crash.play [.tick 16]).world.craft? index = some craft →
      (craft.alive = false ↔ index ∈ losses (crash.allBlows [.tick 16])) :=
    (destruction_is_single_and_final _ _ _ _ [.tick 16]).2.1
  rw [lost] at final
  exact ⟨lost, final⟩

end Mission

end Sortie
