import Sortie.Proofs.PoolReuse
import Sortie.Proofs.PoolTally
import Sortie.Proofs.Roster

set_option autoImplicit false

namespace Sortie

namespace Pools

theorem renewProjectile_tally (pools : Pools) {shoot : Projectile → Projectile} {origin : Nat}
    (owned : ∀ stale, (shoot stale).origin = origin) (index : Nat) :
    (pools.renewProjectile shoot).2.projectiles.tally (fun shot => shot.origin == index) =
      pools.projectiles.tally (fun shot => shot.origin == index) +
        if origin = index then 1 else 0 :=
  pools.projectiles.tally_renew {} fun stale => by
    rw [owned]
    rfl

theorem renewMissile_tally (pools : Pools) {launch : Missile → Missile} {origin : Nat}
    (owned : ∀ stale, (launch stale).origin = origin) (index : Nat) :
    (pools.renewMissile launch).2.missiles.tally (fun missile => missile.origin == index) =
      pools.missiles.tally (fun missile => missile.origin == index) +
        if origin = index then 1 else 0 :=
  pools.missiles.tally_renew {} fun stale => by
    rw [owned]
    rfl

end Pools

namespace Spacecraft

/-- What a spacecraft has fired and hit, and the missiles that it still carries. -/
def account (craft : Spacecraft) : Nat × Nat × Nat :=
  (craft.stats.shotsFired, craft.stats.hits, craft.missiles)

theorem setTarget_account (craft : Spacecraft) (target : Option Nat) :
    (craft.setTarget target).2.account = craft.account := by
  unfold setTarget
  split <;> rfl

theorem obey_account (craft : Spacecraft) (command : Command) :
    (craft.obey command).2.account = craft.account := by
  cases command with
  | jump way =>
    cases way <;> cases jump : craft.jump <;> simp only [obey, jump] <;>
      first | rfl | (split <;> rfl)
  | target single list priority =>
    simp only [obey]
    split
    · rfl
    · exact setTarget_account _ _
  | reachDistance goal => rfl

theorem steer_account (craft : Spacecraft) (intent : Intent) (dt : Scalar) :
    (craft.steer intent dt).account = craft.account := by
  unfold steer
  split <;> rfl

theorem damage_account (craft : Spacecraft) (amount : Scalar) :
    (craft.damage amount).2.account = craft.account := by
  unfold damage
  split <;> rfl

theorem simulate_account (craft : Spacecraft) (dt : Scalar) :
    (craft.simulate dt).2.account = craft.account := by
  have recharged (craft : Spacecraft) : (craft.recharge dt).account = craft.account := by
    unfold recharge
    repeat' split
    all_goals rfl
  have jumped (craft : Spacecraft) : (craft.advanceJump dt).2.account = craft.account := by
    unfold advanceJump
    repeat' split
    all_goals rfl
  unfold simulate
  split
  · rfl
  · dsimp only
    split
    · exact (jumped _).trans (recharged _)
    · exact (jumped _).trans (recharged _)

end Spacecraft

/-- What the ledger says of one spacecraft. -/
structure ShotEntry where
  fired : Nat
  hits : Nat
  flying : Nat
  carried : Nat
  launched : Nat

/-- Every shot that flies, has hit or has just struck was fired, and every missile that flies or is
carried was built in. -/
structure ShotEntry.Covered (struck : Nat) (built : Option Nat) (entry : ShotEntry) : Prop where
  shots : entry.hits + entry.flying + struck ≤ entry.fired
  missiles : ∃ stock ∈ built, entry.carried + entry.launched ≤ stock

namespace World

/-- The projectiles in flight that a spacecraft has fired. -/
def inFlight (world : World) (index : Nat) : Nat :=
  world.pools.projectiles.tally fun shot => shot.origin == index

/-- The missiles in flight that a spacecraft has launched. -/
def launched (world : World) (index : Nat) : Nat :=
  world.pools.missiles.tally fun missile => missile.origin == index

def ledger (world : World) (index : Nat) : Option ShotEntry :=
  (world.craft? index).map fun craft =>
    { fired := craft.stats.shotsFired
      hits := craft.stats.hits
      flying := world.inFlight index
      carried := craft.missiles
      launched := world.launched index }

/-- Every entry is covered, if some shots of each spacecraft have struck whose hits are not counted
yet. -/
def Covered (struck : Nat → Nat) (built : Nat → Option Nat) (world : World) : Prop :=
  ∀ index, ∀ entry ∈ world.ledger index, entry.Covered (struck index) (built index)

theorem Covered.of_ledger {struck : Nat → Nat} {built : Nat → Option Nat} {before after : World}
    (covered : before.Covered struck built) (same : after.ledger = before.ledger) :
    after.Covered struck built := by
  unfold Covered
  rw [same]
  exact covered

theorem covered_iff {struck : Nat → Nat} {built : Nat → Option Nat} {world : World} :
    world.Covered struck built ↔ ∀ index craft, world.craft? index = some craft →
      craft.stats.hits + world.inFlight index + struck index ≤ craft.stats.shotsFired ∧
        ∃ stock ∈ built index, craft.missiles + world.launched index ≤ stock := by
  constructor
  · intro covered index craft found
    have entry := covered index _ (by rw [ledger, found]; rfl)
    exact ⟨entry.shots, entry.missiles⟩
  · intro covered index entry recorded
    simp only [ledger, Option.mem_def, Option.map_eq_some_iff] at recorded
    obtain ⟨craft, found, rfl⟩ := recorded
    obtain ⟨shots, missiles⟩ := covered index craft found
    exact ⟨shots, missiles⟩

/-- The ledger is about the accounts of the spacecraft and the shots in flight. -/
theorem ledger_congr {before after : World}
    (accounts : ∀ index, (after.craft? index).map Spacecraft.account =
      (before.craft? index).map Spacecraft.account)
    (flying : after.inFlight = before.inFlight) (launched : after.launched = before.launched) :
    after.ledger = before.ledger := by
  funext index
  have same := accounts index
  unfold ledger
  rw [flying, launched]
  cases later : after.craft? index with
  | none =>
    rw [later, Option.map_none, eq_comm, Option.map_eq_none_iff] at same
    rw [same]
  | some craft =>
    rw [later, Option.map_some, eq_comm, Option.map_eq_some_iff] at same
    obtain ⟨old, found, account⟩ := same
    simp only [Spacecraft.account, Prod.mk.injEq] at account
    rw [found, Option.map_some, Option.map_some, account.1, account.2.1, account.2.2]

theorem ledger_of_same {before after : World} (crafts : after.crafts = before.crafts)
    (projectiles : after.pools.projectiles = before.pools.projectiles)
    (missiles : after.pools.missiles = before.pools.missiles) : after.ledger = before.ledger := by
  refine ledger_congr (fun index => ?_) ?_ ?_
  · rw [craft?, craft?, crafts]
  · funext index
    rw [inFlight, inFlight, projectiles]
  · funext index
    rw [launched, launched, missiles]

theorem setCraft_ledger {world : World} {index : Nat} {craft fresh : Spacecraft}
    (found : world.craft? index = some craft) (account : fresh.account = craft.account) :
    (world.setCraft index fresh).ledger = world.ledger := by
  refine ledger_congr (fun other => ?_) rfl rfl
  rw [craft?_setCraft]
  split
  · rename_i same
    rw [← same, found, Option.map_some, Option.map_some, Option.map_some, account]
  · rfl

theorem explode_ledger (world : World) (position velocity : Vec) (radius : Scalar)
    (sparks : Nat) :
    { world with pools := world.pools.explode position velocity radius sparks }.ledger =
      world.ledger :=
  ledger_of_same rfl (world.pools.explode_projectiles position velocity radius sparks)
    (world.pools.explode_missiles position velocity radius sparks)

theorem translate_ledger (world : World) (offset : Vec) :
    (world.translate offset).ledger = world.ledger := by
  have projectiles : (world.translate offset).pools.projectiles =
      world.pools.projectiles.mapLocked fun p => { p with position := p.position + offset } := rfl
  have missiles : (world.translate offset).pools.missiles =
      world.pools.missiles.mapLocked fun m => { m with position := m.position + offset } := rfl
  refine ledger_congr (fun index => ?_) ?_ ?_
  · simp only [craft?, translate, Array.getElem?_map, Option.map_map]
    rfl
  · funext index
    rw [inFlight, inFlight, projectiles]
    exact Pool.tally_mapLocked _ fun _ => rfl
  · funext index
    rw [launched, launched, missiles]
    exact Pool.tally_mapLocked _ fun _ => rfl

section

variable {struck : Nat → Nat} {built : Nat → Option Nat} {world : World}

/-- What a spacecraft fires is in flight at once, and what it launches it does not carry any more.
-/
theorem Covered.fire (covered : world.Covered struck built) {index : Nat}
    {craft fresh : Spacecraft} (found : world.craft? index = some craft) (shots missiles : Nat)
    (account : fresh.account =
      (craft.stats.shotsFired + shots, craft.stats.hits, craft.missiles - missiles))
    (loaded : missiles ≤ craft.missiles) {pools : Pools}
    (flying : ∀ other, pools.projectiles.tally (fun shot => shot.origin == other) =
      world.inFlight other + if index = other then shots else 0)
    (launched : ∀ other, pools.missiles.tally (fun missile => missile.origin == other) =
      world.launched other + if index = other then missiles else 0) :
    { world.setCraft index fresh with pools }.Covered struck built := by
  simp only [Spacecraft.account, Prod.mk.injEq] at account
  obtain ⟨fired, hits, carried⟩ := account
  refine covered_iff.mpr fun other later present => ?_
  have moved : (world.setCraft index fresh).craft? other = some later := present
  rw [inFlight, World.launched]
  dsimp only
  rw [flying, launched]
  rw [craft?_setCraft] at moved
  split at moved
  · rename_i same
    subst same
    rw [found, Option.map_some] at moved
    cases moved
    obtain ⟨shots, stock, known, enough⟩ := covered_iff.mp covered index craft found
    rw [if_pos rfl, if_pos rfl, fired, hits, carried]
    exact ⟨by omega, stock, known, by omega⟩
  · rename_i apart
    rw [if_neg apart, if_neg apart]
    exact covered_iff.mp covered other later moved

variable {kind : ChangeKind} {kinds : List ChangeKind} {before after : World}

/-- The ledger stays covered but when shots fly, and when their hits are counted. -/
theorem Change.covered (change : Change kind before after) (plain : kind ∉ [.shoot, .count])
    (covered : before.Covered struck built) : after.Covered struck built := by
  cases change with
  | shoot => exact absurd (by decide) plain
  | count => exact absurd (by decide) plain
  | fire _ _ _ _ _ found =>
    refine covered.fire found 1 0 rfl (Nat.zero_le _) (fun other => ?_) fun other => ?_
    · exact Pools.renewProjectile_tally _ (fun _ => rfl) other
    · split <;> rfl
  | launch _ _ _ _ _ found loaded =>
    refine covered.fire found 0 1 rfl (Nat.pos_of_ne_zero loaded) (fun other => ?_) fun other => ?_
    · split <;> rfl
    · exact Pools.renewMissile_tally _ (fun _ => rfl) other
  | aim target found =>
    exact covered.of_ledger (setCraft_ledger found (Spacecraft.setTarget_account _ target))
  | steer intent dt found =>
    exact covered.of_ledger (setCraft_ledger found (Spacecraft.steer_account _ intent dt))
  | obey command found =>
    exact covered.of_ledger (setCraft_ledger found (Spacecraft.obey_account _ command))
  | fly dt found =>
    exact covered.of_ledger (setCraft_ledger found (Spacecraft.simulate_account _ dt))
  | push _ _ found => exact covered.of_ledger (setCraft_ledger found rfl)
  | harm amount found =>
    exact covered.of_ledger (setCraft_ledger found (Spacecraft.damage_account _ amount))
  | credit _ found => exact covered.of_ledger (setCraft_ledger found rfl)
  | explode position velocity radius sparks =>
    exact covered.of_ledger (explode_ledger before position velocity radius sparks)
  | shift offset => exact covered.of_ledger (before.translate_ledger offset)
  | _ => exact covered.of_ledger (ledger_of_same rfl rfl rfl)

theorem Changes.covered (changes : Changes kinds before after)
    (plain : ∀ kind ∈ kinds, kind ∉ [.shoot, .count]) (covered : before.Covered struck built) :
    after.Covered struck built :=
  changes.preserves (fun kind member _ _ change => change.covered (plain kind member)) covered

end

/-- The hits of a spacecraft's primary weapon among some impacts. -/
def weaponHits (impacts : List Impact) (index : Nat) : Nat :=
  impacts.countP fun impact => impact.fromWeapon && impact.origin == index

theorem weaponHits_push (impacts : Array Impact) (impact : Impact) (index : Nat) :
    weaponHits (impacts.push impact).toList index =
      weaponHits impacts.toList index +
        (impact.fromWeapon && impact.origin == index).toNat := by
  rw [weaponHits, Array.toList_push, List.countP_append, List.countP_singleton]
  cases impact.fromWeapon && impact.origin == index <;> rfl

/-- A projectile leaves its slot as it strikes. -/
theorem flyProjectile_pays (targets : Targets) (dt : Scalar) (index : Nat)
    (impacts : Array Impact) (slot : Nat) (shot : Projectile) :
    weaponHits (flyProjectile targets dt impacts slot shot).1.toList index +
        (if (flyProjectile targets dt impacts slot shot).2.2 = .release then 0
          else ((flyProjectile targets dt impacts slot shot).2.1.origin == index).toNat) ≤
      weaponHits impacts.toList index + (shot.origin == index).toNat := by
  have kept : (shot.advance dt).2.origin = shot.origin := rfl
  cases hit : targets.firstHit? (shot.advance dt).1 0 shot.origin with
  | some struck =>
    simp only [flyProjectile, kept, hit, weaponHits_push, Bool.true_and, if_true]
    exact Nat.le_refl _
  | none =>
    simp only [flyProjectile, kept, hit]
    refine Nat.add_le_add_left ?_ _
    split
    · exact Nat.zero_le _
    · exact Nat.le_refl _

/-- Missiles do not count as hits of the primary weapon. -/
theorem flyMissile_weaponHits (targets : Targets) (dt : Scalar) (index : Nat)
    (gathered : Array Impact × Pool Trail) (slot : Nat) (missile : Missile) :
    weaponHits (flyMissile targets dt gathered slot missile).1.1.toList index =
      weaponHits gathered.1.toList index := by
  unfold flyMissile
  dsimp only
  split
  · rw [weaponHits_push]
    rfl
  · split <;> rfl

theorem flyMissile_origin (targets : Targets) (dt : Scalar)
    (gathered : Array Impact × Pool Trail) (slot : Nat) (missile : Missile) :
    (flyMissile targets dt gathered slot missile).2.1.origin = missile.origin := by
  have laid (missile : Missile) (trails : Pool Trail) :
      (missile.layTrail trails dt).1.origin = missile.origin := by
    unfold Missile.layTrail
    dsimp only
    repeat' split
    all_goals rfl
  unfold flyMissile
  dsimp only
  split
  · exact laid _ _
  · split
    · exact laid _ _
    · exact laid _ _

/-- What is in flight after the shots have flown was so before, less what has struck. -/
theorem flyShots_inFlight (world : World) (dt : Scalar) (index : Nat) :
    weaponHits (world.flyShots dt).1.toList index + (world.flyShots dt).2.inFlight index ≤
      world.inFlight index := by
  let swept := world.pools.projectiles.sweep (flyProjectile world.targets dt) #[]
  have flown : weaponHits swept.1.toList index + swept.2.tally (fun shot => shot.origin == index) ≤
      weaponHits [] index + world.inFlight index :=
    Pool.sweep_tally (fun impacts : Array Impact => weaponHits impacts.toList index)
      (flyProjectile_pays world.targets dt index) world.pools.projectiles #[]
  have gathered : weaponHits (world.flyShots dt).1.toList index =
      weaponHits swept.1.toList index :=
    Pool.sweep_keeps (flyMissile world.targets dt)
      (fun gathered => weaponHits gathered.1.toList index = weaponHits swept.1.toList index)
      (fun gathered slot missile held =>
        (flyMissile_weaponHits world.targets dt index gathered slot missile).trans held)
      world.pools.missiles (swept.1, world.pools.trails) rfl
  have flying : (world.flyShots dt).2.inFlight index =
      swept.2.tally fun shot => shot.origin == index := rfl
  have none_ : weaponHits [] index = 0 := rfl
  omega

theorem flyShots_launched (world : World) (dt : Scalar) (index : Nat) :
    (world.flyShots dt).2.launched index ≤ world.launched index := by
  have paid (gathered : Array Impact × Pool Trail) (slot : Nat) (missile : Missile) :
      0 + (if (flyMissile world.targets dt gathered slot missile).2.2 = .release then 0
        else ((flyMissile world.targets dt gathered slot missile).2.1.origin == index).toNat) ≤
      0 + (missile.origin == index).toNat := by
    rw [flyMissile_origin]
    split
    · exact Nat.zero_le _
    · exact Nat.le_refl _
  have flown : 0 + (world.flyShots dt).2.launched index ≤ 0 + world.launched index :=
    Pool.sweep_tally (fun _ => 0) paid world.pools.missiles _
  omega

section

variable {struck : Nat → Nat} {built : Nat → Option Nat} {world : World}

theorem Covered.flyShots (covered : world.Covered (fun _ => 0) built) (dt : Scalar) :
    (world.flyShots dt).2.Covered (weaponHits (world.flyShots dt).1.toList) built := by
  refine covered_iff.mpr fun index craft found => ?_
  obtain ⟨shots, stock, known, enough⟩ := covered_iff.mp covered index craft found
  have flying := world.flyShots_inFlight dt index
  have launched := world.flyShots_launched dt index
  exact ⟨by omega, stock, known, by omega⟩

theorem weaponHits_cons (impact : Impact) (rest : List Impact) (index : Nat) :
    weaponHits (impact :: rest) index =
      weaponHits rest index + (impact.fromWeapon && impact.origin == index).toNat := by
  rw [weaponHits, List.countP_cons, weaponHits]
  cases impact.fromWeapon && impact.origin == index <;> rfl

theorem Covered.settle {impact : Impact} {rest : List Impact}
    (covered : world.Covered (weaponHits (impact :: rest)) built) :
    world.Covered (weaponHits rest) built := by
  refine covered_iff.mpr fun index craft found => ?_
  obtain ⟨shots, stock⟩ := covered_iff.mp covered index craft found
  rw [weaponHits_cons] at shots
  exact ⟨by omega, stock⟩

/-- A shot that has struck may be counted as a hit of the one who fired it, or not. -/
theorem Covered.countHit {impact : Impact} {rest : List Impact}
    (covered : world.Covered (weaponHits (impact :: rest)) built) (hostile : Bool) :
    (world.countHit impact hostile).Covered (weaponHits rest) built := by
  unfold World.countHit
  split
  · rename_i counts
    obtain ⟨weapon, _, _⟩ := counts
    split
    · exact covered.settle
    · rename_i pilot found
      refine covered_iff.mpr fun index later present => ?_
      rw [craft?_setCraft] at present
      split at present
      · rename_i same
        subst same
        rw [found, Option.map_some] at present
        cases present
        obtain ⟨shots, stock⟩ := covered_iff.mp covered _ pilot found
        rw [weaponHits_cons, weapon, Bool.true_and, beq_self_eq_true, Bool.toNat_true] at shots
        refine ⟨?_, stock⟩
        dsimp only
        rw [show (world.setCraft impact.origin _).inFlight impact.origin =
          world.inFlight impact.origin from rfl]
        omega
      · exact covered_iff.mp covered.settle index later present
  · exact covered.settle

theorem Covered.strike {impact : Impact} {rest : List Impact}
    (covered : world.Covered (weaponHits (impact :: rest)) built) :
    (world.strike impact).Covered (weaponHits rest) built := by
  have dealt := (world.applyDamage_changes impact.target impact.damage (some impact.origin)).covered
    (by decide) covered
  unfold World.strike
  dsimp only
  split
  · rename_i after result
    rw [result] at dealt
    exact dealt.settle
  · rename_i outcome after result
    rw [result] at dealt
    have counted :=
      dealt.countHit (world.isHostileAttack (some impact.origin) impact.target false)
    split
    · exact counted
    · exact counted.of_ledger (explode_ledger _ _ _ _ _)

theorem Covered.strikeAll {impacts : List Impact}
    (covered : world.Covered (weaponHits impacts) built) :
    (impacts.foldl World.strike world).Covered (fun _ => 0) built := by
  induction impacts generalizing world with
  | nil => exact covered
  | cons impact rest ih => exact ih covered.strike

theorem Covered.simulateWeapons (covered : world.Covered (fun _ => 0) built) (dt : Scalar) :
    (world.simulateWeapons dt).Covered (fun _ => 0) built := by
  unfold World.simulateWeapons
  dsimp only
  rw [← Array.foldl_toList]
  exact (covered.flyShots dt).strikeAll

end

end World

namespace Mission

variable {π : Type}

theorem fight_covered {mission : Mission π} {built : Nat → Option Nat}
    (covered : mission.world.Covered (fun _ => 0) built) (dt : Scalar) :
    (mission.resolveCollisions.simulateWeapons dt).world.Covered (fun _ => 0) built :=
  (mission.world.resolveCollisions_changes.covered (by decide) covered).simulateWeapons dt

variable [Pilot π]

theorem tick_covered {mission : Mission π} {built : Nat → Option Nat} {dt : Scalar}
    (accepted : accepts dt = true) (covered : mission.world.Covered (fun _ => 0) built) :
    (mission.tick dt).world.Covered (fun _ => 0) built := by
  have ruled := (mission.runRules_changes dt).covered (by decide) covered
  have flown := (mission.flown_changes dt).covered (by decide) ruled
  have fought : (mission.fought dt).world.Covered (fun _ => 0) built := fight_covered flown dt
  exact (mission.fought_tick_changes accepted).covered (by decide) fought

/-- Every step and every other input leave the ledger covered. -/
theorem take_covered (mission : Mission π) (input : Input π) {built : Nat → Option Nat}
    (covered : mission.world.Covered (fun _ => 0) built) :
    (mission.take input).world.Covered (fun _ => 0) built := by
  rcases mission.take_cases input with ⟨dt, rfl, accepted⟩ | ⟨world, _, _⟩
  · exact tick_covered accepted covered
  · rw [world]
    exact covered

end Mission

namespace Mission

variable {π : Type}

theorem ofDescriptor_covered (descriptor : MissionDescriptor) (catalog : Catalog)
    (settings : Settings) {pools : Pools} (spare : pools.Spare) :
    let start : Mission π := ofDescriptor descriptor catalog settings pools
    start.world.Covered (fun _ => 0) fun index =>
      (start.world.craft? index).map Spacecraft.missiles := by
  intro start
  let filled := pools.prefill settings.poolSizes
  let loaded := (LoadedMission.ofDescriptor descriptor catalog settings filled).world
  have set : World.Changes [.state] loaded start.world := loaded.setState_changes _
  have crafts (index : Nat) : start.world.craft? index = loaded.craft? index :=
    congrArg (fun crafts : Array Spacecraft => crafts[index]?) (World.setState_crafts loaded _)
  have stats : ∀ index craft, loaded.craft? index = some craft → craft.stats = {} :=
    fun index craft found =>
      (ofDescriptor_untried descriptor catalog settings pools ((crafts index).trans found)).stats
  have supplied : loaded.pools = filled := by
    obtain ⟨_, _, _, _, _, _, plain⟩ :=
      LoadedMission.ofDescriptor_same descriptor catalog settings filled
    rw [show loaded = _ from plain]
  have flying (index : Nat) : loaded.inFlight index = 0 := by
    rw [World.inFlight, supplied]
    exact (Pool.tally_prefill _ _ _ _).trans (by rw [Pool.tally, spare.projectiles]; rfl)
  have launched (index : Nat) : loaded.launched index = 0 := by
    rw [World.launched, supplied]
    exact (Pool.tally_prefill _ _ _ _).trans (by rw [Pool.tally, spare.missiles]; rfl)
  refine set.covered (by decide) (World.covered_iff.mpr fun index craft found => ?_)
  rw [stats index craft found, flying, launched, crafts, found]
  exact ⟨Nat.le_refl _, craft.missiles, rfl, Nat.le_refl _⟩

variable [Pilot π]

/-- At every moment of every mission that starts with no slot in use, the hits of a spacecraft and
its shots that still fly together are no more than the shots that it has fired, and its missiles and
those of them that fly no more than it was built with. -/
theorem shots_are_covered (descriptor : MissionDescriptor) (catalog : Catalog)
    (settings : Settings) {pools : Pools} (spare : pools.Spare) (inputs : List (Input π)) :
    let start : Mission π := ofDescriptor descriptor catalog settings pools
    let world := (start.play inputs).world
    ∀ index craft, world.craft? index = some craft →
      craft.stats.hits +
          world.pools.projectiles.locked.countP (fun slot => slot.2.origin == index) ≤
        craft.stats.shotsFired ∧
      craft.stats.hits ≤ craft.stats.shotsFired ∧
      ∃ built, start.world.craft? index = some built ∧
        craft.missiles +
            world.pools.missiles.locked.countP (fun slot => slot.2.origin == index) ≤
          built.missiles := by
  intro start world index craft found
  have covered := play_keeps (fun mission => mission.world.Covered (fun _ => 0) _)
    (fun mission input covered => mission.take_covered input covered) start inputs
    (ofDescriptor_covered descriptor catalog settings spare)
  obtain ⟨shots, stock, known, missiles⟩ := World.covered_iff.mp covered index craft found
  rw [Option.mem_def, Option.map_eq_some_iff] at known
  obtain ⟨built, there, rfl⟩ := known
  exact ⟨shots, Nat.le_trans (Nat.le_add_right _ _) shots, built, there, missiles⟩

/-- A pilot who attacks a frigate. -/
def attack : Mission Pursuit :=
  ofDescriptor
    { spacecrafts :=
        [.single { craftClass := "fighter", team := some "blue", piloted := true },
          .single
            { craftClass := "frigate", team := some "red", position := some ⟨0, 0, -170⟩ }] }
    .standard { quality := .low, particles := false } {}

/-- A shot and a missile, and as much time as the shot needs. -/
def salvo : List (Input Pursuit) :=
  [.intent (some { target := some 1, fire := true, launchMissile := true }), .tick 100, .tick 100]

/-- The shot has hit, and the missile still flies: nothing is lost. -/
theorem attack_accounts :
    let world := (attack.play salvo).world
    Pools.Spare {} ∧
      ((world.craft? 0).map Spacecraft.account, world.launched 0) = (some (1, 1, 3), 1) ∧
      ∀ craft, world.craft? 0 = some craft → craft.stats.hits ≤ craft.stats.shotsFired := by
  refine ⟨Pools.fresh_spare, by decide +kernel, fun craft found => ?_⟩
  exact (shots_are_covered _ .standard { quality := .low, particles := false } Pools.fresh_spare
    salvo 0 craft found).2.1

end Mission

end Sortie
