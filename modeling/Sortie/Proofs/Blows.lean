import Sortie.Proofs.Course

set_option autoImplicit false

namespace Sortie

open World.ChangeKind (calming)

/-- Damage that a spacecraft does to another one, in the world that it finds. -/
structure Blow where
  world : World
  target : Nat
  amount : Scalar
  attacker : Nat

namespace Blow

/-- What the blow did, unless it did nothing. -/
def outcome? (blow : Blow) : Option DamageOutcome :=
  (blow.world.applyDamage blow.target blow.amount (some blow.attacker)).1

/-- The world that the blow leaves. -/
def after (blow : Blow) : World :=
  (blow.world.applyDamage blow.target blow.amount (some blow.attacker)).2

def lands (blow : Blow) : Bool := blow.outcome?.isSome

def destroys (blow : Blow) : Bool := blow.outcome?.any DamageOutcome.destroyed

/-- Whether what the blow does is to the credit of a spacecraft: the pilot's, against a hostile. -/
def credits (blow : Blow) (index : Nat) : Bool :=
  index == blow.attacker && blow.world.piloted == some blow.attacker &&
    blow.world.isHostileAttack (some blow.attacker) blow.target true

end Blow

/-- Credit goes to the pilot, for damage to a hostile. -/
theorem World.craft?_creditDamage (world : World) (attacker : Nat) (hostile : Bool)
    (outcome : DamageOutcome) (index : Nat) :
    (world.creditDamage (some attacker) hostile outcome).craft? index =
      if (index == attacker && world.piloted == some attacker && hostile) = true then
        (world.craft? index).map (·.credit outcome)
      else world.craft? index := by
  by_cases credited : world.piloted = some attacker ∧ hostile = true
  · rw [creditDamage, if_pos ⟨rfl, credited.1.symm, credited.2⟩]
    simp only [credited.1, credited.2, BEq.rfl, Bool.and_true, beq_iff_eq]
    cases found : world.craft? attacker with
    | none =>
      dsimp only
      split
      · rename_i same
        rw [same, found, Option.map_none]
      · rfl
    | some pilot =>
      show (world.setCraft attacker (pilot.credit outcome)).craft? index = _
      rw [craft?_setCraft, found, Option.map_some]
      split
      · rename_i same
        rw [if_pos same.symm, ← same, found, Option.map_some]
      · rename_i other
        rw [if_neg (Ne.symm other)]
  · rw [creditDamage, if_neg fun holds => credited ⟨holds.2.1.symm, holds.2.2⟩, if_neg]
    intro holds
    simp only [Bool.and_eq_true, beq_iff_eq] at holds
    exact credited ⟨holds.1.2, holds.2⟩

namespace Blow

/-- A blow that does something: it finds a living victim, harms it, and is told of. -/
structure Landing (blow : Blow) (victim : Spacecraft) (amount : Scalar) : Prop where
  found : blow.world.craft? blow.target = some victim
  alive : victim.alive = true
  outcome : blow.outcome? = some (victim.damage amount).1
  told : blow.after.notices = blow.world.notices.push (.hit blow.target (some blow.attacker))
  piloted : blow.after.piloted = blow.world.piloted
  size : blow.after.crafts.size = blow.world.crafts.size
  crafts : ∀ index, blow.after.craft? index =
    let harmed := if blow.target = index then some (victim.damage amount).2
      else blow.world.craft? index
    if blow.credits index then harmed.map (·.credit (victim.damage amount).1) else harmed

/-- A blow does nothing, or it lands. -/
theorem cases (blow : Blow) :
    (blow.outcome? = none ∧ blow.after = blow.world) ∨
      ∃ victim amount, blow.Landing victim amount := by
  obtain ⟨world, target, amount, attacker⟩ := blow
  rcases world.applyDamage_cases target amount (some attacker) with
    idle | ⟨victim, scaled, found, alive, done⟩
  · left
    simp only [outcome?, Blow.after, idle, and_self]
  · right
    let struck := world.struck target (some attacker) (victim.damage scaled)
    obtain ⟨crafts, same, size⟩ :=
      world.struck_same target (some attacker) (victim.damage scaled)
    obtain ⟨pools, after⟩ : ∃ pools, (world.applyDamage target amount (some attacker)).2 =
        { struck with pools } := by
      rw [done]
      dsimp only
      split
      · exact ⟨_, rfl⟩
      · exact ⟨struck.pools, rfl⟩
    refine ⟨victim, scaled, found, alive, ?_, ?_, ?_, ?_, fun index => ?_⟩
    · rw [outcome?, done]
    · rw [Blow.after, after, show struck = _ from same]
    · rw [Blow.after, after, show struck = _ from same]
    · rw [Blow.after, after, show struck = _ from same]
      exact size
    · rw [Blow.after, after]
      let told := (world.setCraft target (victim.damage scaled).2).notify
        (.hit target (some attacker))
      have credit := told.craft?_creditDamage attacker
        (world.isHostileAttack (some attacker) target true) (victim.damage scaled).1 index
      have set := world.craft?_setCraft target index (victim.damage scaled).2
      rw [found, Option.map_some] at set
      have still : told.craft? index = (world.setCraft target (victim.damage scaled).2).craft?
        index := rfl
      rw [still, set] at credit
      exact credit

end Blow

namespace World

/-- The blows of two spacecraft that may collide. -/
def collideBlows (world : World) (first second : Nat) : List Blow :=
  match world.pair? first second with
  | none => []
  | some (one, other) =>
    let contact := Contact.ofSpheres one.position one.radius other.position other.radius
    if ¬ one.isPresent ∨ ¬ other.isPresent ∨ ¬ contact.hit then []
    else
      let (closing, oneMotion, otherMotion) :=
        contact.resolve ⟨one.position, one.velocity⟩ ⟨other.position, other.velocity⟩ bounce
      let moved (craft : Spacecraft) (motion : Motion) : Spacecraft :=
        { craft with position := motion.position, velocity := motion.velocity }
      let world := (world.setCraft first (moved one oneMotion)).setCraft second
        (moved other otherMotion)
      if 0 < closing then
        let blow : Blow := ⟨world, first, closing * crashDamage, second⟩
        [blow, ⟨blow.after, second, closing * crashDamage, first⟩]
      else []

def collisionBlows : List (Nat × Nat) → World → List Blow
  | [], _ => []
  | (first, second) :: rest, world =>
    world.collideBlows first second ++ collisionBlows rest (world.collide first second)

/-- The blow of an impact. -/
def strikeBlow (world : World) (impact : Impact) : Blow :=
  ⟨world, impact.target, impact.damage, impact.origin⟩

def strikeBlows : List Impact → World → List Blow
  | [], _ => []
  | impact :: rest, world => world.strikeBlow impact :: strikeBlows rest (world.strike impact)

/-- A way from one world to another by some blows, one after the other, with calm between them. -/
inductive Fights : World → List Blow → World → Prop
  | calm {before after : World} : Changes calming before after → Fights before [] after
  | blow (blow : Blow) : blow.target ≠ blow.attacker → blow.world.Near blow.target →
      Fights blow.world [blow] blow.after
  | append {first second third : World} {early late : List Blow} : Fights first early second →
      Fights second late third → Fights first (early ++ late) third

variable {R : Spacecraft → Spacecraft → Prop}

theorem Fights.proceeds (bears : Spacecraft.Bears R) {before after : World} {blows : List Blow}
    (fights : before.Fights blows after) : Proceeds R before after := by
  induction fights with
  | calm calm => exact calm.proceeds bears.toSpans (by decide)
  | blow blow apart near => exact applyDamage_proceeds bears _ _ _ _ near
  | append early late ihEarly ihLate => exact ihEarly.trans bears.toSpans ihLate

/-- Being away or not is all that a fight keeps of every spacecraft. -/
theorem keeping_place : Spacecraft.Bears fun before after => after.isAway = before.isAway where
  mild _ _ mild := mild.isAway
  trans _ _ _ early late := late.trans early
  isAway _ _ same := same
  damaged craft amount _ := craft.damage_isAway amount
  credited _ _ := rfl

theorem Near.fights {before after : World} {index : Nat} {blows : List Blow}
    (near : before.Near index) (fights : before.Fights blows after) : after.Near index :=
  near.proceeds keeping_place (fights.proceeds keeping_place)

theorem collide_fights (world : World) (first second : Nat) :
    world.Fights (world.collideBlows first second) (world.collide first second) := by
  unfold collide collideBlows
  cases found : world.pair? first second with
  | none => exact .calm (.refl world)
  | some pair =>
    obtain ⟨one, other⟩ := pair
    obtain ⟨apart, there, here⟩ := pair?_some found
    dsimp only
    split
    · exact .calm (.refl world)
    · rename_i meeting
      simp only [not_or, Bool.not_eq_true, Bool.not_eq_false] at meeting
      have moved (oneMotion otherMotion : Motion) : Changes calming world _ :=
        (push_both_changes found oneMotion otherMotion).mono (by decide)
      have hurt (parted : World) (damage : Scalar) (calm : Changes calming world parted) :
          let blow : Blow := ⟨parted, first, damage, second⟩
          let back : Blow := ⟨blow.after, second, damage, first⟩
          world.Fights [blow, back] back.after := by
        intro blow back
        have early := Fights.calm calm
        have struck : parted.Fights [blow] blow.after :=
          .blow blow apart ((Near.of_isPresent there meeting.1).fights early)
        have returned : blow.after.Fights [back] back.after :=
          .blow back apart.symm
            (((Near.of_isPresent here meeting.2.1).fights early).fights struck)
        exact early.append (struck.append returned)
      split
      · exact hurt _ _ (moved _ _)
      · exact .calm (moved _ _)

theorem collisions_fight (pairs : List (Nat × Nat)) (world : World) :
    world.Fights (collisionBlows pairs world)
      (pairs.foldl (fun world (first, second) => world.collide first second) world) := by
  induction pairs generalizing world with
  | nil => exact .calm (.refl world)
  | cons pair rest ih => exact (world.collide_fights pair.1 pair.2).append (ih _)

end World

namespace OctreeTrace

variable {σ : Type} {visitor : σ → Nat → Visit σ} {holds : σ → Prop}

/-- What holds of that which a visit has gathered so far, whether or not it goes on. -/
def Gathers (holds : σ → Prop) (visit : Visit (OctreeTrace σ)) : Prop := holds visit.state.gathered

theorem offer_keeps (kept : ∀ state index, holds state → holds (visitor state index).state)
    (trace : OctreeTrace σ) (index : Nat) (held : holds trace.gathered) :
    Gathers holds (trace.offer visitor index) := by
  have next := kept trace.gathered index held
  unfold offer
  split
  · exact held
  · dsimp only
    split
    · rename_i gathered answer
      rw [answer] at next
      exact next
    · rename_i gathered answer
      rw [answer] at next
      exact next

theorem offerAll_keeps (kept : ∀ state index, holds state → holds (visitor state index).state)
    (trace : OctreeTrace σ) (indices : List Nat) (held : holds trace.gathered) :
    Gathers holds (trace.offerAll visitor indices) := by
  induction indices generalizing trace with
  | nil => exact held
  | cons index rest ih =>
    have first := offer_keeps kept trace index held
    unfold offerAll
    split
    · rename_i next answer
      rw [answer] at first
      exact ih next first
    · rename_i last answer
      rw [answer] at first
      exact first

mutual

theorem walk_keeps (kept : ∀ state index, holds state → holds (visitor state index).state)
    (box : Box) (trace : OctreeTrace σ) (held : holds trace.gathered) (node : OctreeNode) :
    Gathers holds (walk visitor box trace node) := by
  cases node with
  | leaf members =>
    rw [walk]
    exact offerAll_keeps kept trace members held
  | split members center children =>
    rw [walk]
    exact walkFrom_keeps kept box center 0 trace held children

theorem walkFrom_keeps (kept : ∀ state index, holds state → holds (visitor state index).state)
    (box : Box) (center : Vec) (octant : Nat) (trace : OctreeTrace σ)
    (held : holds trace.gathered) (children : List OctreeNode) :
    Gathers holds (walkFrom visitor box center octant trace children) := by
  cases children with
  | nil =>
    rw [walkFrom]
    exact held
  | cons child rest =>
    have first := walk_keeps kept box trace held child
    rw [walkFrom]
    split
    · split
      · rename_i next answer
        rw [answer] at first
        exact walkFrom_keeps kept box center (octant + 1) next first rest
      · rename_i last answer
        rw [answer] at first
        exact first
    · exact walkFrom_keeps kept box center (octant + 1) trace held rest

end

end OctreeTrace

/-- What a visitor keeps holds of what a visit gathers. -/
theorem Octree.visit_keeps {σ : Type} {visitor : σ → Nat → Visit σ} (holds : σ → Prop)
    (kept : ∀ state index, holds state → holds (visitor state index).state) (tree : Octree)
    (box : Box) (start : σ) (held : holds start) : holds (tree.visit box visitor start).state := by
  unfold visit
  split
  · exact held
  · have walked := OctreeTrace.walk_keeps kept box ⟨Array.replicate tree.size false, start⟩ held
      tree.root
    dsimp only
    split
    · rename_i trace answer
      rw [answer] at walked
      exact walked
    · rename_i trace answer
      rw [answer] at walked
      exact walked

namespace Targets

/-- Only an indexed spacecraft is hit, and not the shooter. -/
theorem firstHit?_other (targets : Targets) (segment : Segment) (reach : Scalar) (shooter : Nat)
    {hit : Nat × Scalar} (found : targets.firstHit? segment reach shooter = some hit) :
    hit.1 ∈ targets.owners ∧ hit.1 ≠ shooter := by
  have kept (nearest : Option (Nat × Scalar)) (slot : Nat)
      (held : ∀ hit ∈ nearest, hit.1 ∈ targets.owners ∧ hit.1 ≠ shooter) :
      ∀ hit ∈ targets.nearer segment reach shooter nearest slot,
        hit.1 ∈ targets.owners ∧ hit.1 ≠ shooter := by
    unfold nearer
    split
    · exact held
    · rename_i craft there
      have owner : craft ∈ targets.owners := Array.mem_of_getElem? there
      split
      · exact held
      · rename_i other
        repeat' split
        · exact held
        · simpa using And.intro owner other
        · simpa using And.intro owner other
        · exact held
  exact Octree.visit_keeps
    (fun nearest => ∀ hit ∈ nearest, hit.1 ∈ targets.owners ∧ hit.1 ≠ shooter)
    kept targets.tree _ none (by simp) hit found

end Targets

namespace World

theorem targets_near (world : World) {index : Nat} (owner : index ∈ world.targets.owners) :
    world.Near index := by
  simp only [targets, Targets.ofBalls, List.mem_toArray, List.mem_map, List.mem_filterMap,
    Option.map_eq_some_iff, Option.filter_eq_some_iff] at owner
  obtain ⟨_, ⟨slot, _, craft, ⟨found, present⟩, rfl⟩, rfl⟩ := owner
  exact Near.of_isPresent found present

/-- Whether an impact is on a spacecraft in the battle space, other than the one it comes from. -/
structure Meets (world : World) (impact : Impact) : Prop where
  near : world.Near impact.target
  apart : impact.target ≠ impact.origin

theorem firstHit?_meets (world : World) {segment : Segment} {reach : Scalar} {shooter target : Nat}
    {part : Scalar} (hit : world.targets.firstHit? segment reach shooter = some (target, part))
    (damage : Scalar) (point : Vec) (fromWeapon : Bool) :
    world.Meets ⟨target, shooter, damage, point, fromWeapon⟩ := by
  obtain ⟨owner, other⟩ := Targets.firstHit?_other _ _ _ _ hit
  exact ⟨world.targets_near owner, other⟩

theorem flyShots_meet (world : World) (dt : Scalar) :
    ∀ impact ∈ (world.flyShots dt).1, world.Meets impact := by
  have projectiles (impacts : Array Impact) (slot : Nat) (projectile : Projectile)
      (held : ∀ impact ∈ impacts, world.Meets impact) :
      ∀ impact ∈ (flyProjectile world.targets dt impacts slot projectile).1,
        world.Meets impact := by
    unfold flyProjectile
    dsimp only
    split
    · rename_i target part hit
      simp only [Array.mem_push, or_imp, forall_and, forall_eq]
      exact ⟨held, world.firstHit?_meets hit _ _ _⟩
    · exact held
  have missiles (gathered : Array Impact × Pool Trail) (slot : Nat) (missile : Missile)
      (held : ∀ impact ∈ gathered.1, world.Meets impact) :
      ∀ impact ∈ (flyMissile world.targets dt gathered slot missile).1.1,
        world.Meets impact := by
    unfold flyMissile
    dsimp only
    split
    · rename_i target part hit
      simp only [Array.mem_push, or_imp, forall_and, forall_eq]
      exact ⟨held, world.firstHit?_meets hit _ _ _⟩
    · split
      · exact held
      · exact held
  have early := Pool.sweep_keeps (flyProjectile world.targets dt)
    (fun impacts => ∀ impact ∈ impacts, world.Meets impact)
    projectiles world.pools.projectiles #[] (by simp)
  exact Pool.sweep_keeps (flyMissile world.targets dt)
    (fun gathered => ∀ impact ∈ gathered.1, world.Meets impact)
    missiles world.pools.missiles (_, world.pools.trails) early

theorem strike_fights {world : World} {impact : Impact} (meets : world.Meets impact) :
    world.Fights [world.strikeBlow impact] (world.strike impact) := by
  have blow := Fights.blow (world.strikeBlow impact) meets.apart meets.near
  show world.Fights ([world.strikeBlow impact] ++ []) (world.strike impact)
  refine blow.append (.calm ?_)
  unfold strike strikeBlow Blow.after
  dsimp only
  split
  · rename_i after result
    rw [result]
    exact .refl after
  · rename_i outcome after result
    rw [result]
    have counted (hostile : Bool) : Changes calming after (after.countHit impact hostile) :=
      (countHit_changes after impact hostile).mono (by decide)
    split
    · exact counted _
    · exact (counted _).trans ((Change.explode _ _ _ _).changes (by decide))

theorem strikes_fight (impacts : List Impact) (world : World)
    (meets : ∀ impact ∈ impacts, world.Meets impact) :
    world.Fights (strikeBlows impacts world) (impacts.foldl strike world) := by
  induction impacts generalizing world with
  | nil => exact .calm (.refl world)
  | cons impact rest ih =>
    have first := strike_fights (meets impact List.mem_cons_self)
    refine first.append (ih (world.strike impact) fun other member => ?_)
    have later := meets other (List.mem_cons_of_mem impact member)
    exact ⟨later.near.fights first, later.apart⟩

theorem simulateWeapons_fights (world : World) (dt : Scalar) :
    world.Fights (strikeBlows (world.flyShots dt).1.toList (world.flyShots dt).2)
      (world.simulateWeapons dt) := by
  have flown : world.Fights [] (world.flyShots dt).2 :=
    .calm ((Change.shoot dt).changes (by decide))
  have struck := strikes_fight (world.flyShots dt).1.toList (world.flyShots dt).2
    fun impact member => by
      have meets := world.flyShots_meet dt impact (Array.mem_toList_iff.mp member)
      exact ⟨meets.near.fights flown, meets.apart⟩
  rw [Array.foldl_toList] at struck
  exact flown.append struck

end World

namespace Mission

variable {π : Type}

/-- The blows of the collisions and then the shots of a step. -/
def fightBlows (mission : Mission π) (dt : Scalar) : List Blow :=
  let collided := mission.world.resolveCollisions
  World.collisionBlows (World.pairs mission.world.hitObjects) mission.world ++
    World.strikeBlows (collided.flyShots dt).1.toList (collided.flyShots dt).2

theorem fight_fights (mission : Mission π) (dt : Scalar) :
    mission.world.Fights (mission.fightBlows dt)
      (mission.resolveCollisions.simulateWeapons dt).world :=
  (World.collisions_fight _ mission.world).append
    (World.simulateWeapons_fights mission.world.resolveCollisions dt)

variable {R : Spacecraft → Spacecraft → Prop}

/-- Collisions and shots. -/
theorem fight_proceeds (bears : Spacecraft.Bears R) (mission : Mission π) (dt : Scalar) :
    World.Proceeds R mission.world (mission.resolveCollisions.simulateWeapons dt).world :=
  (mission.fight_fights dt).proceeds bears

end Mission

end Sortie
