import Sortie.Records.Basic

set_option autoImplicit false

namespace Sortie

/-- How a mission ended. -/
structure MissionResult where
  mission : String
  difficulty : Difficulty
  state : MissionState
  score : Score

namespace MissionResult

/-- Whether the result is one of a mission at a difficulty. -/
def concerns (result : MissionResult) (mission : String) (difficulty : Difficulty) : Bool :=
  result.mission == mission && result.difficulty == difficulty

def won (result : MissionResult) : Bool := result.state == .completed

def lost (result : MissionResult) : Bool := result.state == .failed || result.state == .defeat

/-- The scores of the results that were won. -/
def victories (history : List MissionResult) : List Score :=
  (history.filter won).map MissionResult.score

theorem victories_concat (history : List MissionResult) (result : MissionResult) :
    victories (history ++ [result]) =
      victories history ++ if result.won then [result.score] else [] := by
  rw [victories, List.filter_append, List.map_append, List.filter_cons, List.filter_nil]
  split
  · rfl
  · rfl

theorem concerns_iff {result : MissionResult} {mission : String} {difficulty : Difficulty} :
    result.concerns mission difficulty = true ↔
      result.mission = mission ∧ result.difficulty = difficulty := by
  rw [concerns, Bool.and_eq_true, beq_iff_eq, beq_iff_eq]

end MissionResult

/-- The tiers from the best to the worst. -/
def Performance.ladder : List Performance := [.perfect, .excellent, .good, .fair, .poor]

/-- What a record tells of a history of results of one mission at one difficulty. Its tier is the
first of the ladder that was reached. -/
structure MissionRecord.Recalls (record : MissionRecord) (history : List MissionResult) : Prop where
  wins : record.wins.toNat = history.countP MissionResult.won
  losses : record.losses.toNat = history.countP MissionResult.lost
  bestScore : record.bestScore = ((MissionResult.victories history).map Score.total).max?.getD 0
  bestPerformance : record.bestPerformance =
    Performance.ladder.find? (· ∈ (MissionResult.victories history).map Score.performance)

namespace MissionRecords

/-- Records results in turn: whether each was a new best score, and the records after all. -/
def addAll (records : MissionRecords) : List MissionResult → List Bool × MissionRecords
  | [] => ([], records)
  | result :: rest =>
    let (best, records) := records.add result.mission result.difficulty result.state result.score
    let (others, records) := records.addAll rest
    (best :: others, records)

end MissionRecords

theorem max?_concat (totals : List Nat) (total : Nat) :
    (totals ++ [total]).max?.getD 0 = max (totals.max?.getD 0) total := by
  cases totals with
  | nil => exact (Nat.zero_max total).symm
  | cons first rest =>
    rw [List.cons_append, List.max?_cons', List.max?_cons', Option.getD_some, Option.getD_some,
      List.foldl_append]
    rfl

theorem max?_lt_iff {totals : List Nat} {total : Nat} :
    totals.max?.getD 0 < total ↔ 0 < total ∧ ∀ other ∈ totals, other < total := by
  cases greatest : totals.max? with
  | none =>
    rw [List.max?_eq_none_iff.mp greatest]
    exact (and_iff_left nofun).symm
  | some best =>
    obtain ⟨among, most⟩ := List.max?_eq_some_iff.mp greatest
    constructor
    · intro less
      exact ⟨Nat.zero_lt_of_lt less,
        fun other member => Nat.lt_of_le_of_lt (most other member) less⟩
    · rintro ⟨_, all⟩
      exact all best among

namespace Performance

/-- The best of some tiers; none is the best of no tiers. -/
def IsBest (tiers : List Performance) : Option Performance → Prop
  | none => tiers = []
  | some best => best ∈ tiers ∧ ∀ tier ∈ tiers, best.rank ≤ tier.rank

theorem mem_ladder (tier : Performance) : tier ∈ ladder := by
  cases tier <;> decide

theorem ladder_sorted : ladder.Pairwise fun tier other => tier.rank ≤ other.rank := by
  decide

theorem rank_injective {tier other : Performance} (same : tier.rank = other.rank) :
    tier = other := by
  cases tier <;> cases other <;> first | rfl | cases same

/-- The ranks are those of the ladder: the first of it that is among some tiers is their best. -/
theorem isBest_find? (tiers : List Performance) :
    IsBest tiers (ladder.find? (· ∈ tiers)) := by
  cases found : ladder.find? (· ∈ tiers) with
  | none =>
    refine List.eq_nil_iff_forall_not_mem.mpr fun tier member => ?_
    exact List.find?_eq_none.mp found tier tier.mem_ladder (decide_eq_true member)
  | some best =>
    obtain ⟨among, before, after, whole, passed⟩ := List.find?_eq_some_iff_append.mp found
    refine ⟨of_decide_eq_true among, fun tier member => ?_⟩
    have listed := tier.mem_ladder
    have sorted := ladder_sorted
    rw [whole] at listed sorted
    rcases List.mem_append.mp listed with earlier | later
    · have absent := passed tier earlier
      simp [member] at absent
    · rcases List.mem_cons.mp later with rfl | below
      · exact Nat.le_refl _
      · exact (List.pairwise_cons.mp (List.pairwise_append.mp sorted).2.1).1 tier below

theorem IsBest.unique {tiers : List Performance} {one other : Option Performance}
    (isBest : IsBest tiers one) (isBest' : IsBest tiers other) : one = other := by
  cases one with
  | none =>
    cases other with
    | none => rfl
    | some other =>
      have empty : tiers = [] := isBest
      have member := isBest'.1
      rw [empty] at member
      cases member
  | some one =>
    cases other with
    | none =>
      have empty : tiers = [] := isBest'
      have member := isBest.1
      rw [empty] at member
      cases member
    | some other =>
      have same := Nat.le_antisymm (isBest.2 other isBest'.1) (isBest'.2 one isBest.1)
      exact congrArg some (rank_injective same)

theorem IsBest.concat {tiers : List Performance} {best : Option Performance}
    (isBest : IsBest tiers best) (tier : Performance) :
    IsBest (tiers ++ [tier]) (if MissionRecord.isBetter tier best then some tier else best) := by
  cases best with
  | none =>
    have empty : tiers = [] := isBest
    rw [empty]
    exact ⟨List.mem_singleton.mpr rfl,
      fun other member => (List.mem_singleton.mp member) ▸ Nat.le_refl _⟩
  | some old =>
    obtain ⟨among, least⟩ := isBest
    by_cases better : tier.rank < old.rank
    · rw [MissionRecord.isBetter, if_pos (decide_eq_true better)]
      refine ⟨List.mem_concat_self, fun other member => ?_⟩
      rcases List.mem_append.mp member with earlier | this
      · exact Nat.le_of_lt (Nat.lt_of_lt_of_le better (least other earlier))
      · exact List.mem_singleton.mp this ▸ Nat.le_refl _
    · rw [MissionRecord.isBetter, if_neg (by rw [decide_eq_true_eq]; exact better)]
      refine ⟨List.mem_append_left _ among, fun other member => ?_⟩
      rcases List.mem_append.mp member with earlier | this
      · exact least other earlier
      · rw [List.mem_singleton.mp this]
        exact Nat.le_of_not_lt better

/-- One more tier becomes the best if the ladder has it before the best so far. -/
theorem find?_ladder_concat (tiers : List Performance) (tier : Performance) :
    ladder.find? (· ∈ tiers ++ [tier]) =
      if MissionRecord.isBetter tier (ladder.find? (· ∈ tiers)) then some tier
      else ladder.find? (· ∈ tiers) :=
  (isBest_find? _).unique ((isBest_find? tiers).concat tier)

end Performance

namespace MissionRecord

theorem recalls_nil : Recalls {} [] := ⟨rfl, rfl, rfl, rfl⟩

theorem toNat_succ {count : UInt32} {past : Nat} (counted : count.toNat ≤ past)
    (few : past + 1 < UInt32.size) : (count + 1).toNat = count.toNat + 1 := by
  rw [UInt32.toNat_add]
  exact Nat.mod_eq_of_lt (Nat.lt_of_le_of_lt (Nat.succ_le_succ counted) few)

theorem add_eq (record : MissionRecord) (result : MissionResult) :
    record.add result.state result.score =
      if result.won then record.addWin result.score
      else
        (false, if result.lost then { record with losses := record.losses + 1 } else record) := by
  unfold add MissionResult.won MissionResult.lost
  cases result.state <;> rfl

theorem not_lost_of_won {result : MissionResult} (won : result.won = true) :
    result.lost = false := by
  rw [MissionResult.won, beq_iff_eq] at won
  rw [MissionResult.lost, won]
  rfl

variable {record : MissionRecord} {history : List MissionResult} {result : MissionResult}

/-- One more result keeps a record telling of its history. -/
theorem Recalls.add (recalls : record.Recalls history) (few : history.length + 1 < UInt32.size) :
    (record.add result.state result.score).2.Recalls (history ++ [result]) := by
  have wins := toNat_succ (recalls.wins ▸ List.countP_le_length) few
  have losses := toNat_succ (recalls.losses ▸ List.countP_le_length) few
  have scores := MissionResult.victories_concat history result
  rw [add_eq]
  cases won : result.won with
  | true =>
    rw [won, if_pos rfl] at scores
    rw [if_pos rfl]
    refine ⟨?_, ?_, ?_, ?_⟩
    · rw [List.countP_append, List.countP_singleton, won, ← recalls.wins]
      exact wins
    · rw [List.countP_append, List.countP_singleton, not_lost_of_won won, ← recalls.losses]
      rfl
    · rw [scores, List.map_append, List.map_singleton, max?_concat, ← recalls.bestScore]
      rfl
    · rw [scores, List.map_append, List.map_singleton, Performance.find?_ladder_concat,
        ← recalls.bestPerformance]
      rfl
  | false =>
    rw [won, if_neg Bool.false_ne_true, List.append_nil] at scores
    rw [if_neg Bool.false_ne_true]
    refine ⟨?_, ?_, ?_, ?_⟩
    · rw [List.countP_append, List.countP_singleton, won, ← recalls.wins]
      split <;> rfl
    · rw [List.countP_append, List.countP_singleton, ← recalls.losses]
      split
      · exact losses
      · rfl
    · rw [scores, ← recalls.bestScore]
      split <;> rfl
    · rw [scores]
      split <;> exact recalls.bestPerformance

/-- A result is a new best if it was won with more than nothing and more than all that were won
before. -/
theorem Recalls.isNewBest (recalls : record.Recalls history) (result : MissionResult) :
    (record.add result.state result.score).1 = true ↔
      result.won = true ∧ 0 < result.score.total ∧
        ∀ earlier ∈ history, earlier.won = true → earlier.score.total < result.score.total := by
  rw [add_eq]
  cases won : result.won with
  | false => simp
  | true =>
    simp only [addWin, if_true, decide_eq_true_eq, recalls.bestScore, max?_lt_iff,
      MissionResult.victories, List.forall_mem_map, List.mem_filter, and_imp, true_and]

end MissionRecord

/-- The names of the difficulties end in different letters. -/
theorem Difficulty.eq_of_last {difficulty other : Difficulty}
    (same : difficulty.name.toList.getLast? = other.name.toList.getLast?) :
    difficulty = other := by
  revert same
  cases difficulty <;> cases other <;> decide

namespace MissionRecords

/-- Missions and difficulties are kept apart, whatever the missions are called. -/
theorem key_injective {mission other : String} {difficulty level : Difficulty}
    (same : key mission difficulty = key other level) : mission = other ∧ difficulty = level := by
  have letters := congrArg String.toList same
  simp only [key, String.toList_append] at letters
  have ends (name : String) (difficulty : Difficulty) :
      (name.toList ++ "/".toList ++ difficulty.name.toList).getLast? =
        difficulty.name.toList.getLast? := by
    rw [List.getLast?_append]
    cases difficulty <;> rfl
  obtain rfl := Difficulty.eq_of_last
    ((ends mission difficulty).symm.trans ((congrArg _ letters).trans (ends other level)))
  exact ⟨String.toList_inj.mp (List.append_cancel_right (List.append_cancel_right letters)), rfl⟩

variable {records : MissionRecords} {past : List MissionResult}

theorem get?_add_self (records : MissionRecords) (mission : String) (difficulty : Difficulty)
    (state : MissionState) (score : Score) :
    (records.add mission difficulty state score).2.get? mission difficulty =
      some (((records.get? mission difficulty).getD {}).add state score).2 :=
  Table.find?_put_self _ _ _

theorem get?_add_other {mission other : String} {difficulty level : Difficulty}
    (apart : ¬ (mission = other ∧ difficulty = level)) (records : MissionRecords)
    (state : MissionState) (score : Score) :
    (records.add mission difficulty state score).2.get? other level = records.get? other level :=
  Table.find?_put_ne _ _ fun same => apart (key_injective same)

/-- Records that tell of all results of the past, each of those of its own mission and
difficulty. -/
structure Recall (records : MissionRecords) (past : List MissionResult) : Prop where
  found : ∀ mission difficulty, (records.get? mission difficulty).isSome = true ↔
    ∃ result ∈ past, result.concerns mission difficulty = true
  recalls : ∀ mission difficulty, ((records.get? mission difficulty).getD {}).Recalls
    (past.filter (·.concerns mission difficulty))

theorem recall_nil : Recall {} [] :=
  ⟨fun _ _ => ⟨nofun, nofun⟩, fun _ _ => MissionRecord.recalls_nil⟩

theorem Recall.add (current : records.Recall past) (result : MissionResult)
    (few : past.length + 1 < UInt32.size) :
    (records.add result.mission result.difficulty result.state result.score).2.Recall
      (past ++ [result]) := by
  have kept (mission : String) (difficulty : Difficulty) :
      (past.filter (·.concerns mission difficulty)).length + 1 < UInt32.size :=
    Nat.lt_of_le_of_lt (Nat.succ_le_succ (List.length_filter_le _ _)) few
  constructor
  · intro mission difficulty
    simp only [List.mem_append, List.mem_singleton, or_and_right, exists_or, exists_eq_left,
      ← current.found]
    cases own : result.concerns mission difficulty with
    | true =>
      obtain ⟨rfl, rfl⟩ := MissionResult.concerns_iff.mp own
      rw [get?_add_self]
      exact ⟨fun _ => .inr rfl, fun _ => rfl⟩
    | false =>
      rw [get?_add_other (mt MissionResult.concerns_iff.mpr (by rw [own]; decide))]
      exact (or_iff_left Bool.false_ne_true).symm
  · intro mission difficulty
    rw [List.filter_append, List.filter_cons, List.filter_nil]
    cases own : result.concerns mission difficulty with
    | true =>
      obtain ⟨rfl, rfl⟩ := MissionResult.concerns_iff.mp own
      rw [get?_add_self]
      exact (current.recalls _ _).add (kept _ _)
    | false =>
      rw [get?_add_other (mt MissionResult.concerns_iff.mpr (by rw [own]; decide)),
        if_neg Bool.false_ne_true, List.append_nil]
      exact current.recalls mission difficulty

/-- Whether the next result is a new best. -/
theorem Recall.isNewBest (current : records.Recall past) (result : MissionResult) :
    (records.add result.mission result.difficulty result.state result.score).1 = true ↔
      result.won = true ∧ 0 < result.score.total ∧
        ∀ earlier ∈ past, earlier.concerns result.mission result.difficulty = true →
          earlier.won = true → earlier.score.total < result.score.total := by
  have own := (current.recalls result.mission result.difficulty).isNewBest result
  simp only [List.mem_filter, and_imp] at own
  exact own

theorem addAll_append (records : MissionRecords) (first second : List MissionResult) :
    records.addAll (first ++ second) =
      ((records.addAll first).1 ++ ((records.addAll first).2.addAll second).1,
        ((records.addAll first).2.addAll second).2) := by
  induction first generalizing records with
  | nil => rfl
  | cons result rest ih =>
    simp only [List.cons_append, addAll, ih]

theorem length_addAll (records : MissionRecords) (results : List MissionResult) :
    (records.addAll results).1.length = results.length := by
  induction results generalizing records with
  | nil => rfl
  | cons result rest ih => rw [addAll, List.length_cons, ih, List.length_cons]

theorem Recall.addAll (current : records.Recall past) {results : List MissionResult}
    (few : past.length + results.length < UInt32.size) :
    (records.addAll results).2.Recall (past ++ results) := by
  induction results generalizing records past with
  | nil =>
    rw [List.append_nil]
    exact current
  | cons result rest ih =>
    rw [List.length_cons] at few
    have next := ih (current.add result (by omega)) (by
      rw [List.length_append, List.length_singleton]
      omega)
    rwa [List.append_assoc] at next

theorem recall_of_addAll {results : List MissionResult} (few : results.length < UInt32.size) :
    (addAll {} results).2.Recall results := by
  refine recall_nil.addAll ?_
  rwa [List.length_nil, Nat.zero_add]

/-- After any results, the record of a mission and difficulty tells of exactly those of its own.
Each result was answered to be a new best exactly if it was won with more than nothing and with more
than all of its own that were won before, and left all other records alone. -/
theorem records_recall_results {results : List MissionResult} {answers : List Bool}
    {records : MissionRecords} (few : results.length < UInt32.size)
    (recorded : addAll {} results = (answers, records)) :
    (∀ mission difficulty, (∃ result ∈ results, result.concerns mission difficulty = true) →
      ∃ record, records.get? mission difficulty = some record ∧
        record.Recalls (results.filter (·.concerns mission difficulty))) ∧
      answers.length = results.length ∧
      ∀ before result after, results = before ++ result :: after →
        (answers[before.length]? = some true ↔
          result.won = true ∧ 0 < result.score.total ∧
            ∀ earlier ∈ before, earlier.concerns result.mission result.difficulty = true →
              earlier.won = true → earlier.score.total < result.score.total) ∧
        ∀ mission difficulty, result.concerns mission difficulty = false →
          (addAll {} (before ++ [result])).2.get? mission difficulty =
            (addAll {} before).2.get? mission difficulty := by
  have current := recall_of_addAll few
  have size := length_addAll {} results
  rw [recorded] at current size
  refine ⟨fun mission difficulty own => ?_, size, fun before result after whole => ⟨?_, ?_⟩⟩
  · obtain ⟨record, found⟩ :=
      Option.isSome_iff_exists.mp ((current.found mission difficulty).mpr own)
    have recalls := current.recalls mission difficulty
    rw [found] at recalls
    exact ⟨record, found, recalls⟩
  · rw [whole, List.length_append, List.length_cons] at few
    have earlier : (addAll {} before).2.Recall before := recall_of_addAll (by omega)
    rw [whole, addAll_append] at recorded
    obtain ⟨rfl, _⟩ := Prod.mk.inj recorded
    rw [← length_addAll {} before, List.getElem?_append_right (Nat.le_refl _), Nat.sub_self,
      ← earlier.isNewBest result, addAll]
    exact Option.some_inj
  · intro mission difficulty other
    rw [addAll_append]
    exact get?_add_other (mt MissionResult.concerns_iff.mpr (by rw [other]; decide)) _ _ _

/-- A score that is made of damage alone. -/
def plainScore (damage : Scalar) : Score := ⟨damage, 0, 0, 0, 200⟩

/-- Results of a mission whose name ends like a key, and of one that its name starts with. The first
mission is won fairly, then well, and then worse than that. -/
def campaign : List MissionResult :=
  [⟨"convoy/easy", .normal, .completed, plainScore 60⟩,
    ⟨"convoy", .easy, .completed, plainScore 190⟩,
    ⟨"convoy/easy", .normal, .completed, plainScore 100⟩,
    ⟨"convoy/easy", .normal, .defeat, plainScore 900⟩,
    ⟨"convoy/easy", .normal, .completed, plainScore 80⟩]

theorem campaign_recorded : campaign.length < UInt32.size ∧
    (∃ record, (addAll {} campaign).2.get? "convoy/easy" .normal = some record ∧
      record.wins.toNat = 3 ∧ record.losses.toNat = 1 ∧ record.bestScore = 100 ∧
      record.bestPerformance = some .good) ∧
      (addAll {} campaign).1[2]? = some true ∧ (addAll {} campaign).1[4]? ≠ some true := by
  have few : campaign.length < UInt32.size := by decide
  obtain ⟨found, _, calls⟩ := records_recall_results few rfl
  refine ⟨few, ?_, ?_, fun best => ?_⟩
  · obtain ⟨record, there, recalls⟩ :=
      found "convoy/easy" .normal ⟨_, List.mem_cons_self, by decide⟩
    exact ⟨record, there, recalls.wins, recalls.losses, recalls.bestScore.trans (by decide +kernel),
      recalls.bestPerformance.trans (by decide +kernel)⟩
  · exact (calls (campaign.take 2) _ (campaign.drop 3) rfl).1.mpr (by decide +kernel)
  · obtain ⟨_, _, above⟩ := (calls (campaign.take 4) _ [] rfl).1.mp best
    have third : campaign[2] ∈ campaign.take 4 := .tail _ (.tail _ (.head _))
    exact absurd (above _ third (by decide) (by decide)) (by decide +kernel)

end MissionRecords

end Sortie
