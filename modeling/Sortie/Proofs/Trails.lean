import Mathlib.Data.Set.Function
import Sortie.Proofs.Decline
import Sortie.Proofs.Deeds
import Sortie.Proofs.ScalarOrder
import Sortie.Proofs.ShotLedger

set_option autoImplicit false

namespace Sortie

/-- A timer that is up does not wait again after a step. -/
theorem Scalar.not_zero_lt_sub {dt : Scalar} (accepted : Mission.accepts dt = true) :
    ¬0 < (0 : Scalar) - dt := by
  obtain ⟨finite, nonneg⟩ := Mission.finite_of_accepts accepted
  obtain ⟨b, value, _⟩ := exists_value finite
  have low : 0 ≤ b := le_of_not_lt value value?_zero nonneg
  have none_ : (0 : Scalar).isFinite = true := by decide
  intro waits
  obtain ⟨_, c, zero, left, positive⟩ := lt_iff.mp waits
  rw [value?_zero] at zero
  cases zero
  rw [value?_sub none_ finite value?_zero value] at left
  cases left
  have shrunk := bounded_mono (roundedSum_mono (show 0 - b ≤ 0 by omega))
  rw [bounded_roundedSum none_ value?_zero] at shrunk
  omega

namespace Trail

/-- Neither without a point nor with more than fit. -/
def Filled (trail : Trail) : Prop := 1 ≤ trail.points.size ∧ trail.points.size ≤ pointLimit

theorem reset_filled (stale : Trail) (position : Vec) : (stale.reset position).Filled := by
  refine ⟨Nat.le_refl 1, ?_⟩
  show 1 ≤ pointLimit
  decide

theorem Filled.extend {trail : Trail} (filled : trail.Filled) (room : trail.isFull = false)
    (position : Vec) : (trail.extend position).Filled := by
  have below : trail.points.size < pointLimit := by simpa [isFull] using room
  have size : (trail.extend position).points.size = trail.points.size + 1 := Array.size_push ..
  unfold Filled at *
  omega

end Trail

/-- A piece of trail that a missile still extends. -/
def Grows (trails : Pool Trail) (slot : Nat) : Prop :=
  ∃ trail, trails.get? slot = some trail ∧ trail.growing = true

def AllFilled (trails : Pool Trail) : Prop :=
  ∀ slot trail, trails.get? slot = some trail → trail.Filled

/-- A missile that laid the piece `own` lays the piece `next` from now on. What it does not extend
any more does not grow any more, and what it begins to extend was nobody's. -/
structure HandedOver (own next : Option Nat) (before after : Pool Trail) : Prop where
  grows : ∀ slot, Grows after slot ↔ Grows before slot ∧ own ≠ some slot ∨ next = some slot
  fresh : ∀ slot, next = some slot → own = some slot ∨ ¬Grows before slot
  filled : AllFilled before → AllFilled after

theorem HandedOver.refl {own : Option Nat} {trails : Pool Trail}
    (owned : ∀ slot, own = some slot → Grows trails slot) : HandedOver own own trails trails where
  grows slot := by
    by_cases mine : own = some slot
    · simp only [mine, owned slot mine, ne_eq, not_true_eq_false, and_false, or_true]
    · simp only [mine, ne_eq, not_false_eq_true, and_true, or_false]
  fresh _ mine := .inl mine
  filled filled := filled

theorem HandedOver.trans {own middle next : Option Nat} {before between after : Pool Trail}
    (early : HandedOver own middle before between)
    (late : HandedOver middle next between after) : HandedOver own next before after where
  grows slot := by
    have first := early.grows slot
    have fresh := early.fresh slot
    have second := late.grows slot
    tauto
  fresh slot begun := by
    have first := early.grows slot
    have fresh := early.fresh slot
    have second := late.fresh slot begun
    tauto
  filled filled := late.filled (early.filled filled)

/-- A change of one piece hands it over if it belongs to the missile, or to nobody. -/
theorem HandedOver.of_change {own : Option Nat} {before after : Pool Trail} {slot : Nat}
    {trail : Trail}
    (change : ∀ index, after.get? index = if index = slot then some trail else before.get? index)
    (mine : own = some slot ∨ own = none ∧ ¬Grows before slot)
    (filled : AllFilled before → trail.Filled) :
    HandedOver own (if trail.growing then some slot else none) before after where
  grows index := by
    unfold Grows
    rw [change index]
    by_cases same : index = slot
    · subst same
      have not_others : ¬(Grows before index ∧ own ≠ some index) := by
        rcases mine with mine | ⟨_, nobody⟩
        · exact fun others => others.2 mine
        · exact fun others => nobody others.1
      unfold Grows at not_others
      cases grows : trail.growing with
      | true => simp [grows]
      | false => simpa [grows] using not_others
    · have apart : own ≠ some index := by
        rcases mine with mine | ⟨none_, _⟩
        · rw [mine]
          exact fun equal => same (Option.some.inj equal).symm
        · rw [none_]
          exact fun equal => by cases equal
      have next : (if trail.growing then some slot else none) ≠ some index := by
        split
        · exact fun equal => same (Option.some.inj equal).symm
        · exact fun equal => by cases equal
      simp only [if_neg same, apart, next, ne_eq, not_false_eq_true, and_true, or_false]
  fresh index begun := by
    have same : slot = index := by
      split at begun
      · exact Option.some.inj begun
      · cases begun
    rw [← same]
    rcases mine with mine | ⟨_, nobody⟩
    · exact .inl mine
    · exact .inr nobody
  filled all index other found := by
    rw [change index] at found
    split at found
    · cases found
      exact filled all
    · exact all index other found

/-- A missile that lays nothing begins a new piece. -/
theorem HandedOver.renew (trails : Pool Trail) (position : Vec) :
    HandedOver none (some (trails.renew {} (·.reset position)).1) trails
      (trails.renew {} (·.reset position)).2 := by
  refine HandedOver.of_change (fun index => trails.get?_renew {} (·.reset position) index)
    (.inr ⟨rfl, ?_⟩) fun _ => Trail.reset_filled _ _
  rintro ⟨trail, found, _⟩
  rw [trails.renew_free] at found
  cases found

/-- A missile goes on with its piece, as long as that grows. -/
theorem HandedOver.modify {trails : Pool Trail} {slot : Nat} {trail : Trail}
    (found : trails.get? slot = some trail) (change : Trail → Trail)
    (filled : trail.Filled → (change trail).Filled) :
    HandedOver (some slot) (if (change trail).growing then some slot else none) trails
      (trails.modify slot change) := by
  refine HandedOver.of_change (fun index => ?_) (.inl rfl) fun all => filled (all slot trail found)
  rw [Pool.get?_modify]
  by_cases same : index = slot
  · rw [same, if_pos rfl, if_pos rfl, found, Option.map_some]
  · rw [if_neg same, if_neg (Ne.symm same)]

namespace Missile

variable {missile : Missile} {trails : Pool Trail}

/-- Laying smoke hands the missile's piece of trail over to the one that it extends next. -/
theorem layTrail_handsOver (owned : ∀ slot, missile.trail = some slot → Grows trails slot)
    (dt : Scalar) :
    HandedOver missile.trail (missile.layTrail trails dt).1.trail trails
      (missile.layTrail trails dt).2 := by
  unfold layTrail
  dsimp only
  split
  · exact .refl owned
  · cases laid : missile.trail with
    | none => exact .renew trails missile.position
    | some slot =>
      obtain ⟨trail, found, growing⟩ := owned slot laid
      simp only [found]
      cases full : trail.isFull with
      | true =>
        simp only [↓reduceIte]
        have stopped : HandedOver (some slot) none trails (trails.set slot trail.stop) :=
          .modify found (fun _ => trail.stop) fun filled => filled
        exact stopped.trans (.renew _ missile.position)
      | false =>
        simp only [Bool.false_eq_true, ↓reduceIte]
        have extended : HandedOver (some slot)
            (if (trail.extend missile.position).growing then some slot else none) trails
            (trails.set slot (trail.extend missile.position)) :=
          .modify found (fun _ => trail.extend missile.position) fun filled =>
            filled.extend full missile.position
        have grows : (trail.extend missile.position).growing = true := growing
        rw [grows, if_pos rfl] at extended
        exact extended

/-- A missile that is gone gives its piece of trail up. -/
theorem dropTrail_handsOver (owned : ∀ slot, missile.trail = some slot → Grows trails slot) :
    HandedOver missile.trail none trails (missile.dropTrail trails).2 := by
  unfold dropTrail
  cases laid : missile.trail with
  | none => exact .refl fun _ none_ => by cases none_
  | some slot =>
    obtain ⟨trail, found, _⟩ := owned slot laid
    exact .modify found Trail.stop fun filled => filled

/-- A new missile lays smoke in its first step, and a missile that lays a trail goes on with one. -/
theorem layTrail_lays {dt : Scalar} (accepted : Mission.accepts dt = true)
    (ready : missile.trail = none → missile.trailTimer = 0) :
    (missile.layTrail trails dt).1.trail ≠ none := by
  unfold layTrail
  dsimp only
  split
  · rename_i waits
    intro none_
    rw [ready none_] at waits
    exact Scalar.not_zero_lt_sub accepted waits
  · cases laid : missile.trail with
    | none => exact Option.some_ne_none _
    | some slot =>
      simp only
      split
      · exact Option.some_ne_none _
      · split
        · exact Option.some_ne_none _
        · exact laid ▸ Option.some_ne_none slot

end Missile

/-- The piece of trail that the missile in a slot lays. -/
def trailOf (missiles : Pool Missile) (slot : Nat) : Option Nat :=
  (missiles.get? slot).bind Missile.trail

/-- Every missile that lays a trail extends a piece of its own, and no piece grows for nobody. -/
structure Laid (missiles : Pool Missile) (trails : Pool Trail) : Prop where
  grows : ∀ slot piece, trailOf missiles slot = some piece → Grows trails piece
  apart : ∀ one other piece, trailOf missiles one = some piece →
    trailOf missiles other = some piece → one = other
  owned : ∀ piece, Grows trails piece → ∃ slot, trailOf missiles slot = some piece
  filled : AllFilled trails

theorem Laid.of_same {missiles later : Pool Missile} {trails after : Pool Trail}
    (laid : Laid missiles trails) (same : ∀ slot, trailOf later slot = trailOf missiles slot)
    (grows : ∀ piece, Grows after piece ↔ Grows trails piece) (filled : AllFilled after) :
    Laid later after where
  grows slot piece mine := (grows piece).mpr (laid.grows slot piece ((same slot).symm.trans mine))
  apart one other piece first second :=
    laid.apart one other piece ((same one).symm.trans first) ((same other).symm.trans second)
  owned piece growing := by
    obtain ⟨slot, mine⟩ := laid.owned piece ((grows piece).mp growing)
    exact ⟨slot, (same slot).trans mine⟩
  filled := filled

/-- A missile hands its piece over, whatever becomes of the missile. -/
theorem Laid.handOver {missiles later : Pool Missile} {trails after : Pool Trail}
    (laid : Laid missiles trails) {slot : Nat} {next : Option Nat}
    (handed : HandedOver (trailOf missiles slot) next trails after)
    (moved : ∀ index,
      trailOf later index = if slot = index then next else trailOf missiles index) :
    Laid later after where
  grows index piece mine := by
    rw [moved index] at mine
    rw [handed.grows piece]
    split at mine
    · exact .inr mine
    · rename_i apart
      refine .inl ⟨laid.grows index piece mine, fun own => ?_⟩
      exact apart (laid.apart slot index piece own mine)
  apart one other piece first second := by
    have alone {index : Nat} (apart : slot ≠ index) (begun : next = some piece) :
        trailOf missiles index ≠ some piece := by
      intro mine
      rcases handed.fresh piece begun with own | nobody
      · exact apart (laid.apart slot index piece own mine)
      · exact nobody (laid.grows index piece mine)
    rw [moved one] at first
    rw [moved other] at second
    split at first
    · rename_i here
      split at second
      · rename_i there
        exact here.symm.trans there
      · rename_i apart
        exact absurd second (alone apart first)
    · rename_i apart
      split at second
      · exact absurd first (alone apart second)
      · exact laid.apart one other piece first second
  owned piece growing := by
    rcases (handed.grows piece).mp growing with ⟨before, others⟩ | begun
    · obtain ⟨index, mine⟩ := laid.owned piece before
      refine ⟨index, ?_⟩
      rw [moved index, if_neg]
      · exact mine
      · rintro rfl
        exact others mine
    · exact ⟨slot, (moved slot).trans ((if_pos rfl).trans begun)⟩
  filled := handed.filled laid.filled

/-- What lies behind the missiles when those below a slot have flown: a missile without a trail has
not flown yet, and will lay one as it does. -/
structure Smokes (bound : Nat) (missiles : Pool Missile) (trails : Pool Trail) : Prop
    extends Laid missiles trails where
  ready : ∀ slot missile, missiles.get? slot = some missile → missile.trail = none →
    bound ≤ slot ∧ missile.trailTimer = 0

namespace World

section

variable (targets : Targets) (dt : Scalar) (gathered : Array Impact × Pool Trail) (slot : Nat)
  {missile : Missile}

/-- A missile that has laid its smoke is gone and drops its trail, or stays as it is. -/
theorem flyMissile_cases :
    let moved := (missile.advance (missile.target.bind targets.position?) dt).2
    let laid := moved.layTrail gathered.2 dt
    let flown := flyMissile targets dt gathered slot missile
    flown.2.2 = .release ∧ flown.1.2 = (laid.1.dropTrail laid.2).2 ∨
      flown.2.2 = .keep ∧ flown.1.2 = laid.2 ∧ flown.2.1 = laid.1 := by
  unfold flyMissile
  dsimp only
  split
  · exact .inl ⟨rfl, rfl⟩
  · split
    · exact .inl ⟨rfl, rfl⟩
    · exact .inr ⟨rfl, rfl, rfl⟩

/-- In a step a missile hands its piece over, and gives it up if it is gone. -/
theorem flyMissile_handsOver
    (owned : ∀ piece, missile.trail = some piece → Grows gathered.2 piece) :
    HandedOver missile.trail
      (if (flyMissile targets dt gathered slot missile).2.2 = .release then none
        else (flyMissile targets dt gathered slot missile).2.1.trail)
      gathered.2 (flyMissile targets dt gathered slot missile).1.2 := by
  have moved : (missile.advance (missile.target.bind targets.position?) dt).2.trail =
      missile.trail := rfl
  have laying := Missile.layTrail_handsOver
    (fun piece mine => owned piece (moved.symm.trans mine)) dt
  have gone := laying.trans (Missile.dropTrail_handsOver
    fun piece mine => (laying.grows piece).mpr (.inr mine))
  rcases flyMissile_cases targets dt gathered slot with ⟨fate, trails⟩ | ⟨fate, trails, same⟩
  · rw [fate, if_pos rfl, trails]
    exact gone
  · rw [fate, if_neg (by decide), trails, same]
    exact laying

theorem flyMissile_lays (accepted : Mission.accepts dt = true)
    (ready : missile.trail = none → missile.trailTimer = 0)
    (stays : (flyMissile targets dt gathered slot missile).2.2 ≠ .release) :
    (flyMissile targets dt gathered slot missile).2.1.trail ≠ none := by
  rcases flyMissile_cases targets dt gathered slot with ⟨fate, _⟩ | ⟨_, _, same⟩
  · exact absurd fate stays
  · rw [same]
    exact Missile.layTrail_lays accepted ready

end

theorem trailOf_leave (missiles : Pool Missile) (slot : Nat) {missile : Missile}
    (found : missiles.get? slot = some missile) (fresh : Missile) (fate : SlotFate) (index : Nat) :
    trailOf (missiles.leave slot fresh fate) index =
      if slot = index then (if fate = .release then none else fresh.trail)
      else trailOf missiles index := by
  unfold trailOf
  rw [Pool.get?_leave]
  by_cases same : slot = index
  · rw [← same, if_pos rfl, if_pos rfl, found]
    split
    · rfl
    · rfl
  · rw [if_neg same, if_neg same]

/-- A pass over the missiles leaves each of them with a trail of its own. -/
theorem sweep_smokes (targets : Targets) {dt : Scalar} (accepted : Mission.accepts dt = true)
    {missiles : Pool Missile} {trails : Pool Trail} (smokes : Smokes 0 missiles trails)
    (impacts : Array Impact) :
    Smokes missiles.capacity (missiles.sweep (flyMissile targets dt) (impacts, trails)).2
      (missiles.sweep (flyMissile targets dt) (impacts, trails)).1.2 := by
  refine Pool.sweep_invariant (fun bound (gathered : Array Impact × Pool Trail) missiles =>
    Smokes bound missiles gathered.2) ?_ ?_ smokes
  · intro bound gathered missiles free smokes
    refine ⟨smokes.toLaid, fun slot missile found none_ => ?_⟩
    obtain ⟨later, timer⟩ := smokes.ready slot missile found none_
    have apart : slot ≠ bound := by
      rintro rfl
      rw [free] at found
      cases found
    exact ⟨by omega, timer⟩
  · intro bound gathered missiles missile found smokes
    have mine : trailOf missiles bound = missile.trail := by rw [trailOf, found, Option.bind_some]
    have handed := flyMissile_handsOver targets dt gathered bound
      (fun piece laid => smokes.grows bound piece (mine.trans laid))
    rw [← mine] at handed
    refine ⟨smokes.toLaid.handOver handed (trailOf_leave missiles bound found _ _), ?_⟩
    intro slot fresh there none_
    rw [Pool.get?_leave] at there
    by_cases same : bound = slot
    · -- The missile that has just flown lays a trail, if it is still in its slot.
      rw [if_pos same, ← same, found] at there
      split at there
      · cases there
      · rename_i stays
        cases there
        have lays := flyMissile_lays targets dt gathered bound accepted
          (fun unlaid => (smokes.ready bound missile found unlaid).2) stays
        exact absurd none_ lays
    · rw [if_neg same] at there
      obtain ⟨later, timer⟩ := smokes.ready slot fresh there none_
      exact ⟨by omega, timer⟩

/-- The missiles of a world and their trails. -/
def smoke (world : World) : Pool Missile × Pool Trail :=
  (world.pools.missiles, world.pools.trails)

theorem explode_smoke (world : World) (position velocity : Vec) (radius : Scalar)
    (sparks : Nat) :
    { world with pools := world.pools.explode position velocity radius sparks }.smoke =
      world.smoke :=
  world.pools.explode_hides (fun pools => (pools.missiles, pools.trails)) (fun _ _ => rfl)
    position velocity radius sparks

/-- Every missile lays a trail of its own, or is new and about to. -/
def Smoking (world : World) : Prop := Smokes 0 world.pools.missiles world.pools.trails

/-- Every missile lays a trail of its own, and no other piece grows. -/
structure Trailed (world : World) : Prop
    extends Laid world.pools.missiles world.pools.trails where
  lays : ∀ slot missile, world.pools.missiles.get? slot = some missile → missile.trail ≠ none

variable {kind : ChangeKind} {kinds : List ChangeKind} {world before after : World}

theorem Change.smoke (change : Change kind before after)
    (clear : kind ∉ [.launch, .shoot, .fade, .shift]) : after.smoke = before.smoke := by
  cases change with
  | launch => exact absurd (by decide) clear
  | shoot => exact absurd (by decide) clear
  | fade => exact absurd (by decide) clear
  | shift => exact absurd (by decide) clear
  | explode position velocity radius sparks =>
    exact explode_smoke before position velocity radius sparks
  | _ => rfl

theorem Changes.smoke (changes : Changes kinds before after)
    (clear : ∀ kind ∈ kinds, kind ∉ [.launch, .shoot, .fade, .shift]) :
    after.smoke = before.smoke :=
  changes.keeps World.smoke fun kind member _ _ change => change.smoke (clear kind member)

theorem Trailed.smoking (trailed : world.Trailed) : world.Smoking where
  toLaid := trailed.toLaid
  ready slot missile found none_ := absurd none_ (trailed.lays slot missile found)

theorem Smoking.of_smoke (smoking : before.Smoking)
    (same : after.smoke = before.smoke) : after.Smoking := by
  have missiles : after.pools.missiles = before.pools.missiles := congrArg Prod.fst same
  have trails : after.pools.trails = before.pools.trails := congrArg Prod.snd same
  rw [Smoking, missiles, trails]
  exact smoking

theorem Trailed.of_smoke (trailed : before.Trailed)
    (same : after.smoke = before.smoke) : after.Trailed := by
  have missiles : after.pools.missiles = before.pools.missiles := congrArg Prod.fst same
  have trails : after.pools.trails = before.pools.trails := congrArg Prod.snd same
  refine ⟨?_, ?_⟩
  · rw [missiles, trails]
    exact trailed.toLaid
  · rw [missiles]
    exact trailed.lays

/-- A new missile lays nothing yet, and is ready to. -/
theorem Smoking.launch (smoking : world.Smoking) {launch : Missile → Missile}
    (new : ∀ stale, (launch stale).trail = none ∧ (launch stale).trailTimer = 0) :
    { world with pools := (world.pools.renewMissile launch).2 }.Smoking := by
  show Smokes 0 (world.pools.missiles.renew {} launch).2 world.pools.trails
  have unlaid (slot : Nat) : trailOf (world.pools.missiles.renew {} launch).2 slot =
      trailOf world.pools.missiles slot := by
    unfold trailOf
    rw [Pool.get?_renew]
    split
    · rename_i same
      rw [same, Pool.renew_free, Option.bind_some, (new _).1, Option.bind_none]
    · rfl
  refine ⟨smoking.toLaid.of_same unlaid (fun _ => Iff.rfl) smoking.filled, ?_⟩
  intro slot missile found none_
  rw [Pool.get?_renew] at found
  split at found
  · cases found
    exact ⟨Nat.zero_le slot, (new _).2⟩
  · exact smoking.ready slot missile found none_

theorem Change.smoking (change : Change kind before after)
    (early : kind ∉ [.shoot, .fade, .shift]) (smoking : before.Smoking) : after.Smoking := by
  by_cases launches : kind = .launch
  · subst launches
    cases change with
    | launch =>
      refine Smoking.launch (smoking.of_smoke rfl) fun stale => ?_
      exact ⟨rfl, rfl⟩
  · exact smoking.of_smoke (change.smoke (List.not_mem_cons_of_ne_of_not_mem launches early))

theorem Changes.smoking (changes : Changes kinds before after)
    (early : ∀ kind ∈ kinds, kind ∉ [.shoot, .fade, .shift]) (smoking : before.Smoking) :
    after.Smoking :=
  changes.preserves (fun kind member _ _ change => change.smoking (early kind member)) smoking

theorem Smoking.flyShots (smoking : world.Smoking) {dt : Scalar}
    (accepted : Mission.accepts dt = true) : (world.flyShots dt).2.Trailed := by
  have smokes : Smokes world.pools.missiles.capacity (world.flyShots dt).2.pools.missiles
      (world.flyShots dt).2.pools.trails := sweep_smokes world.targets accepted smoking _
  have capacity : (world.flyShots dt).2.pools.missiles.capacity = world.pools.missiles.capacity :=
    Pool.capacity_sweep _ _ _
  refine ⟨smokes.toLaid, fun slot missile found none_ => ?_⟩
  -- The pass has come to the end of the slots, so no missile is left that has not flown.
  have inside := Pool.lt_capacity_of_get? found
  have beyond := (smokes.ready slot missile found none_).1
  omega

/-- As the shots of a step have flown and struck, every missile lays a trail. -/
theorem Smoking.simulateWeapons (smoking : world.Smoking) {dt : Scalar}
    (accepted : Mission.accepts dt = true) : (world.simulateWeapons dt).Trailed := by
  unfold World.simulateWeapons
  dsimp only
  exact (smoking.flyShots accepted).of_smoke ((strikeAll_changes _ _).smoke (by decide))

/-- A piece that grows does not fade, and none loses a point. -/
theorem updated_simulate {dt : Scalar} {trail later : Trail}
    (kept : Pool.updated (Trail.simulate dt) trail = some later) :
    later.growing = trail.growing ∧ later.points = trail.points := by
  unfold Pool.updated at kept
  split at kept
  · cases kept
  · cases kept
    unfold Trail.simulate
    split
    · exact ⟨rfl, rfl⟩
    · exact ⟨rfl, rfl⟩

theorem grows_update (trails : Pool Trail) (dt : Scalar) (piece : Nat) :
    Grows (trails.update (Trail.simulate dt)) piece ↔ Grows trails piece := by
  unfold Grows
  simp only [Pool.get?_update, Option.bind_eq_some_iff]
  constructor
  · rintro ⟨later, ⟨trail, found, kept⟩, growing⟩
    exact ⟨trail, found, (updated_simulate kept).1.symm.trans growing⟩
  · rintro ⟨trail, found, growing⟩
    refine ⟨trail, ⟨trail, found, ?_⟩, growing⟩
    rw [Pool.updated, Trail.simulate, if_pos growing]
    rfl

theorem Trailed.simulateEffects (trailed : world.Trailed) (dt : Scalar) :
    { world with pools := world.pools.simulateEffects dt }.Trailed := by
  have filled : AllFilled (world.pools.trails.update (Trail.simulate dt)) := by
    intro slot later found
    rw [Pool.get?_update, Option.bind_eq_some_iff] at found
    obtain ⟨trail, before, kept⟩ := found
    unfold Trail.Filled
    rw [(updated_simulate kept).2]
    exact trailed.filled slot trail before
  exact ⟨trailed.toLaid.of_same (fun _ => rfl) (grows_update _ dt) filled, trailed.lays⟩

theorem Trailed.translate (trailed : world.Trailed) (offset : Vec) :
    (world.translate offset).Trailed := by
  have missiles : (world.translate offset).pools.missiles =
      world.pools.missiles.mapLocked fun m => { m with position := m.position + offset } := rfl
  have trails : (world.translate offset).pools.trails =
      world.pools.trails.mapLocked (·.translate offset) := rfl
  refine ⟨trailed.toLaid.of_same (fun slot => ?_) (fun piece => ?_) ?_, ?_⟩
  · rw [trailOf, trailOf, missiles, Pool.get?_mapLocked]
    cases world.pools.missiles.get? slot with
    | none => rfl
    | some missile => rfl
  · rw [Grows, Grows, trails, Pool.get?_mapLocked]
    cases world.pools.trails.get? piece with
    | none => simp only [Option.map_none, reduceCtorEq, false_and, exists_false]
    | some trail => simp only [Option.map_some, Option.some.injEq, exists_eq_left', Trail.translate]
  · intro slot later found
    rw [trails, Pool.get?_mapLocked, Option.map_eq_some_iff] at found
    obtain ⟨trail, before, rfl⟩ := found
    unfold Trail.Filled Trail.translate
    rw [Array.size_map]
    exact trailed.filled slot trail before
  · intro slot later found
    rw [missiles, Pool.get?_mapLocked, Option.map_eq_some_iff] at found
    obtain ⟨missile, before, rfl⟩ := found
    exact trailed.lays slot missile before

/-- The trails fade and are shifted as what they are. -/
theorem Change.trailed (change : Change kind before after) (late : kind ∉ [.launch, .shoot])
    (trailed : before.Trailed) : after.Trailed := by
  cases change with
  | launch => exact absurd (by decide) late
  | shoot => exact absurd (by decide) late
  | fade dt => exact trailed.simulateEffects dt
  | shift offset => exact trailed.translate offset
  | explode position velocity radius sparks =>
    exact trailed.of_smoke (explode_smoke before position velocity radius sparks)
  | _ => exact trailed.of_smoke rfl

theorem Changes.trailed (changes : Changes kinds before after)
    (late : ∀ kind ∈ kinds, kind ∉ [.launch, .shoot]) (trailed : before.Trailed) :
    after.Trailed :=
  changes.preserves (fun kind member _ _ change => change.trailed (late kind member)) trailed

end World

namespace Mission

variable {π : Type}

theorem fight_trailed {mission : Mission π} {dt : Scalar} (accepted : accepts dt = true)
    (smoking : mission.world.Smoking) :
    (mission.resolveCollisions.simulateWeapons dt).world.Trailed := by
  have collided := mission.world.resolveCollisions_changes.smoking (by decide) smoking
  exact collided.simulateWeapons accepted

/-- Where no slot is in use, nobody lays a trail and none grows. -/
theorem ofDescriptor_trailed (descriptor : MissionDescriptor) (catalog : Catalog)
    (settings : Settings) {pools : Pools} (spare : pools.Spare) :
    (ofDescriptor descriptor catalog settings pools : Mission π).world.Trailed := by
  let filled := pools.prefill settings.poolSizes
  let loaded := (LoadedMission.ofDescriptor descriptor catalog settings filled).world
  have supplied : loaded.pools = filled := by
    obtain ⟨_, _, _, _, _, _, plain⟩ :=
      LoadedMission.ofDescriptor_same descriptor catalog settings filled
    rw [show loaded = _ from plain]
  have missiles (slot : Nat) : loaded.pools.missiles.get? slot = none := by
    rw [supplied]
    exact (Pool.get?_prefillWith _ _ _ slot).trans (Pool.get?_of_locked_eq_nil spare.missiles slot)
  have trails (slot : Nat) : loaded.pools.trails.get? slot = none := by
    rw [supplied]
    exact (Pool.get?_prefillWith _ _ _ slot).trans (Pool.get?_of_locked_eq_nil spare.trails slot)
  have unlaid (slot : Nat) : trailOf loaded.pools.missiles slot = none := by
    rw [trailOf, missiles, Option.bind_none]
  have started : loaded.Trailed :=
    { grows := fun slot piece lays => by rw [unlaid] at lays; cases lays
      apart := fun slot _ piece lays => by rw [unlaid] at lays; cases lays
      owned := fun piece ⟨_, found, _⟩ => by rw [trails] at found; cases found
      filled := fun slot _ found => by rw [trails] at found; cases found
      lays := fun slot _ found => by rw [missiles] at found; cases found }
  exact (loaded.setState_changes _).trailed (by decide) started

variable [Pilot π]

theorem tick_trailed {mission : Mission π} {dt : Scalar} (accepted : accepts dt = true)
    (trailed : mission.world.Trailed) : (mission.tick dt).world.Trailed := by
  have ruled := (mission.runRules_changes dt).smoking (by decide) trailed.smoking
  have flown := (mission.flown_changes dt).smoking (by decide) ruled
  have fought : (mission.fought dt).world.Trailed := fight_trailed accepted flown
  exact (mission.fought_tick_changes accepted).trailed (by decide) fought

/-- Every step and every other input leave all missiles with a trail. -/
theorem take_trailed (mission : Mission π) (input : Input π) (trailed : mission.world.Trailed) :
    (mission.take input).world.Trailed := by
  rcases mission.take_cases input with ⟨dt, rfl, accepted⟩ | ⟨world, _, _⟩
  · exact tick_trailed accepted trailed
  · rw [world]
    exact trailed

/-- At every moment of every mission that starts with no slot in use, the missiles in use and the
pieces of trail that still grow match one to one, by the piece that each missile lays. Neither does
a missile go without a trail, nor is a piece left to grow for nobody. -/
theorem no_trail_leaks (descriptor : MissionDescriptor) (catalog : Catalog) (settings : Settings)
    {pools : Pools} (spare : pools.Spare) (inputs : List (Input π)) :
    let start : Mission π := ofDescriptor descriptor catalog settings pools
    let after := (start.play inputs).world.pools
    Set.BijOn (trailOf after.missiles) {slot | ∃ missile, after.missiles.get? slot = some missile}
        (some '' {piece | Grows after.trails piece}) ∧
      ∀ piece trail, after.trails.get? piece = some trail →
        1 ≤ trail.points.size ∧ trail.points.size ≤ Trail.pointLimit := by
  intro start after
  have trailed : (start.play inputs).world.Trailed :=
    play_keeps (fun mission => mission.world.Trailed) take_trailed start inputs
      (ofDescriptor_trailed descriptor catalog settings spare)
  have lays {slot : Nat} {missile : Missile} (found : after.missiles.get? slot = some missile) :
      ∃ piece, trailOf after.missiles slot = some piece := by
    rw [trailOf, found, Option.bind_some]
    exact Option.ne_none_iff_exists'.mp (trailed.lays slot missile found)
  refine ⟨⟨?_, ?_, ?_⟩, trailed.filled⟩
  · rintro slot ⟨missile, found⟩
    obtain ⟨piece, mine⟩ := lays found
    exact ⟨piece, trailed.grows slot piece mine, mine.symm⟩
  · rintro one ⟨missile, found⟩ other _ same
    obtain ⟨piece, mine⟩ := lays found
    exact trailed.apart one other piece mine (same.symm.trans mine)
  · rintro _ ⟨piece, growing, rfl⟩
    obtain ⟨slot, mine⟩ := trailed.owned piece growing
    obtain ⟨missile, found, _⟩ := Option.bind_eq_some_iff.mp mine
    exact ⟨slot, ⟨missile, found⟩, mine⟩

/-- The missile that the pilot has launched lays a piece that grows. -/
theorem missile_of_salvo_lays_trail :
    let after := (attack.play salvo).world.pools
    Pools.Spare {} ∧ (after.missiles.get? 0).isSome = true ∧
      ∃ piece, trailOf after.missiles 0 = some piece ∧ Grows after.trails piece := by
  have launched : ((attack.play salvo).world.pools.missiles.get? 0).isSome = true := by
    decide +kernel
  refine ⟨Pools.fresh_spare, launched, ?_⟩
  obtain ⟨descriptor, loaded⟩ : ∃ descriptor, attack =
      ofDescriptor descriptor .standard { quality := .low, particles := false } {} := ⟨_, rfl⟩
  rw [loaded] at launched ⊢
  obtain ⟨missile, found⟩ := Option.isSome_iff_exists.mp launched
  obtain ⟨matched, _⟩ := no_trail_leaks descriptor .standard
    { quality := .low, particles := false } Pools.fresh_spare salvo
  obtain ⟨piece, growing, mine⟩ := matched.mapsTo ⟨missile, found⟩
  exact ⟨piece, mine.symm, growing⟩

end Mission

end Sortie
