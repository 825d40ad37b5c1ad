import Mathlib.Data.List.Chain
import Sortie.MissionState

set_option autoImplicit false

namespace Sortie.MissionState

/-- The states that can come next. -/
def successors : MissionState → List MissionState
  | battle => [completed, ended, defeat]
  | inProgress => [completed, failed, defeat]
  | completed => [failed, defeat]
  | failed => [defeat]
  | idle | defeat | ended => []

/-- One state leads to another if it stays or changes along the graph, and to a failure only in a
mission that declares a win or a loss. -/
def Leads (declared : Bool) (old new : MissionState) : Prop :=
  new = old ∨ new ∈ old.successors ∧ (new = failed → declared = true)

/-- A bound on the changes that have happened before a state. -/
def rank : MissionState → Nat
  | battle | inProgress => 0
  | completed => 1
  | failed => 2
  | idle | defeat | ended => 3

/-- The neighbours that differ in a sequence of states, the first of which is `old`. -/
def changes : MissionState → List MissionState → List (MissionState × MissionState)
  | _, [] => []
  | old, new :: rest => if new = old then changes old rest else (old, new) :: changes new rest

/-- Each change starts in the state in which the one before it ended, and the first in `state`. -/
def Linked : MissionState → List (MissionState × MissionState) → Prop
  | _, [] => True
  | state, (old, new) :: rest => old = state ∧ new ≠ old ∧ Linked new rest

theorem Leads.refl (declared : Bool) (state : MissionState) : Leads declared state state :=
  .inl rfl

theorem rank_lt_of_mem_successors (old new : MissionState) (next : new ∈ old.successors) :
    old.rank < new.rank := by
  cases old <;> cases new <;> first | decide | (exfalso; revert next; decide)

theorem inProgress_not_mem_successors (state : MissionState) :
    inProgress ∉ state.successors := by
  cases state <;> decide

theorem rank_le (state : MissionState) : state.rank ≤ 3 := by
  cases state <;> decide

theorem getLastD_append (state : MissionState) (first second : List MissionState) :
    (first ++ second).getLastD state = second.getLastD (first.getLastD state) := by
  induction first generalizing state with
  | nil => rfl
  | cons new rest ih => rw [List.cons_append, List.getLastD_cons, List.getLastD_cons, ih]

theorem changes_append (old : MissionState) (first second : List MissionState) :
    changes old (first ++ second) = changes old first ++ changes (first.getLastD old) second := by
  induction first generalizing old with
  | nil => rfl
  | cons new rest ih =>
    rw [List.cons_append, List.getLastD_cons]
    simp only [changes]
    split
    · rename_i same
      rw [ih, same]
    · rw [ih, List.cons_append]

theorem changes_linked (state : MissionState) (states : List MissionState) :
    Linked state (changes state states) := by
  induction states generalizing state with
  | nil => exact trivial
  | cons new rest ih =>
    simp only [changes]
    split
    · exact ih state
    · rename_i differs
      exact ⟨rfl, differs, ih new⟩

theorem isChain_append {declared : Bool} {old : MissionState} {first second : List MissionState}
    (early : (old :: first).IsChain (Leads declared))
    (late : (first.getLastD old :: second).IsChain (Leads declared)) :
    (old :: (first ++ second)).IsChain (Leads declared) := by
  induction first generalizing old with
  | nil => exact late
  | cons new rest ih =>
    rw [List.cons_append]
    rw [List.isChain_cons_cons] at early ⊢
    rw [List.getLastD_cons] at late
    exact ⟨early.1, ih early.2 late⟩

/-- Each change uses up some of the rank that is left. -/
theorem changes_length {declared : Bool} {old : MissionState} {states : List MissionState}
    (chain : (old :: states).IsChain (Leads declared)) :
    (changes old states).length + old.rank ≤ 3 := by
  induction states generalizing old with
  | nil =>
    have bounded := rank_le old
    simp only [changes, List.length_nil]
    omega
  | cons new rest ih =>
    rw [List.isChain_cons_cons] at chain
    obtain ⟨leads, others⟩ := chain
    have bounded := ih others
    simp only [changes]
    split
    · rename_i same
      rw [same] at bounded
      exact bounded
    · rename_i differs
      have climbed := rank_lt_of_mem_successors old new (leads.resolve_left differs).1
      rw [List.length_cons]
      omega

/-- Without a declared win or loss, a mission that has not failed does not fail. -/
theorem failed_not_mem {old : MissionState} {states : List MissionState}
    (chain : (old :: states).IsChain (Leads false)) (open_ : old ≠ failed) : failed ∉ states := by
  induction states generalizing old with
  | nil => exact List.not_mem_nil
  | cons new rest ih =>
    rw [List.isChain_cons_cons] at chain
    obtain ⟨leads, others⟩ := chain
    have stillOpen : new ≠ failed := by
      intro fails
      rcases leads with same | ⟨_, onlyDeclared⟩
      · exact open_ (same.symm.trans fails)
      · cases onlyDeclared fails
    intro member
    rcases List.mem_cons.mp member with here | later
    · exact stillOpen here.symm
    · exact ih others stillOpen later

end Sortie.MissionState
