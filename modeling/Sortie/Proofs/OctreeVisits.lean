import Sortie.Octree

set_option autoImplicit false

namespace Sortie

namespace Visit

variable {σ : Type} {visitor : σ → Nat → Visit σ}

/-- What a visitor gathers from some members, offered in order until it stops. -/
def each (visitor : σ → Nat → Visit σ) : σ → List Nat → Visit σ
  | state, [] => .next state
  | state, index :: rest =>
    match visitor state index with
    | .next state => each visitor state rest
    | .stop state => .stop state

/-- The visitor goes on after each of some members, and has gathered `last` after them. -/
inductive Passes (visitor : σ → Nat → Visit σ) : σ → List Nat → σ → Prop
  | nil (state : σ) : Passes visitor state [] state
  | cons {state following last : σ} {index : Nat} {rest : List Nat}
      (goes : visitor state index = .next following)
      (later : Passes visitor following rest last) : Passes visitor state (index :: rest) last

theorem each_of_next {state following : σ} {index : Nat}
    (goes : visitor state index = .next following) (rest : List Nat) :
    each visitor state (index :: rest) = each visitor following rest := by
  rw [each, goes]

theorem each_of_stop {state last : σ} {index : Nat} (stops : visitor state index = .stop last)
    (rest : List Nat) : each visitor state (index :: rest) = .stop last := by
  rw [each, stops]

theorem each_eq_next {state last : σ} {indices : List Nat} :
    each visitor state indices = .next last ↔ Passes visitor state indices last := by
  constructor
  · intro passed
    induction indices generalizing state with
    | nil =>
      cases passed
      exact .nil _
    | cons index rest ih =>
      cases answer : visitor state index with
      | next following =>
        rw [each_of_next answer] at passed
        exact .cons answer (ih passed)
      | stop last =>
        rw [each_of_stop answer] at passed
        cases passed
  · intro passes
    induction passes with
    | nil state => rfl
    | cons goes _ ih => exact (each_of_next goes _).trans ih

/-- A visitor that stops has passed all members before the one it stops at, and is offered none
after it. -/
theorem each_eq_stop {state last : σ} {indices : List Nat} :
    each visitor state indices = .stop last ↔
      ∃ earlier index later before, indices = earlier ++ index :: later ∧
        Passes visitor state earlier before ∧ visitor before index = .stop last := by
  constructor
  · intro stopped
    induction indices generalizing state with
    | nil => cases stopped
    | cons index rest ih =>
      cases answer : visitor state index with
      | next following =>
        rw [each_of_next answer] at stopped
        obtain ⟨earlier, final, later, before, rfl, passes, stops⟩ := ih stopped
        exact ⟨index :: earlier, final, later, before, rfl, .cons answer passes, stops⟩
      | stop last =>
        rw [each_of_stop answer] at stopped
        cases stopped
        exact ⟨[], index, rest, state, rfl, .nil state, answer⟩
  · rintro ⟨earlier, index, later, before, rfl, passes, stops⟩
    induction passes with
    | nil state => exact each_of_stop stops later
    | cons goes _ ih => exact (each_of_next goes _).trans (ih stops)

/-- A visitor that never stops is offered all members. -/
theorem each_always (step : σ → Nat → σ) (state : σ) (indices : List Nat) :
    each (fun state index => .next (step state index)) state indices =
      .next (indices.foldl step state) := by
  induction indices generalizing state with
  | nil => rfl
  | cons index rest ih => exact (each_of_next rfl rest).trans (ih (step state index))

end Visit

namespace OctreeTrace

variable {σ : Type} (visitor : σ → Nat → Visit σ)

/-- The first occurrences of members that have not been seen. -/
def fresh (seen : Array Bool) : List Nat → List Nat
  | [] => []
  | index :: rest =>
    if seen.getD index true then fresh seen rest
    else index :: fresh (seen.setIfInBounds index true) rest

theorem mem_fresh {seen : Array Bool} {members : List Nat} {index : Nat} :
    index ∈ fresh seen members ↔ index ∈ members ∧ seen.getD index true = false := by
  induction members generalizing seen with
  | nil => simp [fresh]
  | cons first rest ih =>
    unfold fresh
    by_cases same : first = index
    · subst same
      cases known : seen.getD first true with
      | true => simp [ih, known]
      | false => simp
    · have other : index ≠ first := fun equal => same equal.symm
      split
      · simp [ih, other]
      · simp [ih, other, same]

theorem fresh_nodup (seen : Array Bool) (members : List Nat) : (fresh seen members).Nodup := by
  induction members generalizing seen with
  | nil => exact List.nodup_nil
  | cons index rest ih =>
    unfold fresh
    split
    · exact ih seen
    · refine List.nodup_cons.mpr ⟨?_, ih _⟩
      intro again
      have new := (mem_fresh.mp again).2
      simp at new

/-- What a visit has gathered, without the record of the members it has seen. -/
def outcome : Visit (OctreeTrace σ) → Visit σ
  | .next trace => .next trace.gathered
  | .stop trace => .stop trace.gathered

theorem offerAll_eq_each (trace : OctreeTrace σ) (members : List Nat) :
    outcome (trace.offerAll visitor members) =
      Visit.each visitor trace.gathered (fresh trace.seen members) := by
  induction members generalizing trace with
  | nil => rfl
  | cons index rest ih =>
    unfold offerAll offer fresh
    cases known : trace.seen.getD index true with
    | true =>
      simp only [↓reduceIte]
      exact ih trace
    | false =>
      simp only [Bool.false_eq_true, ↓reduceIte]
      cases answer : visitor trace.gathered index with
      | next following =>
        rw [Visit.each_of_next answer]
        exact ih ⟨trace.seen.setIfInBounds index true, following⟩
      | stop last =>
        rw [Visit.each_of_stop answer]
        rfl

theorem offerAll_append (trace : OctreeTrace σ) (first second : List Nat) :
    trace.offerAll visitor (first ++ second) =
      match trace.offerAll visitor first with
      | .next trace => trace.offerAll visitor second
      | .stop trace => .stop trace := by
  induction first generalizing trace with
  | nil => rfl
  | cons index rest ih =>
    rw [List.cons_append]
    cases answer : trace.offer visitor index with
    | next trace => simp only [offerAll, answer, ih trace]
    | stop trace => simp only [offerAll, answer]

mutual

/-- A walk offers the members of the leaves that the box reaches. -/
theorem walk_eq_offerAll (box : Box) (trace : OctreeTrace σ) (node : OctreeNode) :
    walk visitor box trace node = trace.offerAll visitor (node.reached box) := by
  cases node with
  | leaf members => rw [walk, OctreeNode.reached]
  | split members center children =>
    rw [walk, OctreeNode.reached]
    exact walkFrom_eq_offerAll box center 0 trace children

theorem walkFrom_eq_offerAll (box : Box) (center : Vec) (octant : Nat) (trace : OctreeTrace σ)
    (children : List OctreeNode) :
    walkFrom visitor box center octant trace children =
      trace.offerAll visitor (OctreeNode.reachedFrom box center octant children) := by
  cases children with
  | nil =>
    rw [walkFrom, OctreeNode.reachedFrom]
    rfl
  | cons child rest =>
    rw [walkFrom, OctreeNode.reachedFrom]
    split
    · rw [offerAll_append, walk_eq_offerAll box trace child]
      cases trace.offerAll visitor (child.reached box) with
      | next trace => exact walkFrom_eq_offerAll box center (octant + 1) trace rest
      | stop trace => rfl
    · exact walkFrom_eq_offerAll box center (octant + 1) trace rest

end

end OctreeTrace

namespace Octree

variable (tree : Octree) (box : Box)

/-- The members that a query is about, in the order in which they are offered. -/
def order : List Nat :=
  if tree.balls.isEmpty ∨ ¬ tree.bounds.overlaps box then []
  else OctreeTrace.fresh (Array.replicate tree.size false) (tree.root.reached box)

theorem order_nodup : (tree.order box).Nodup := by
  unfold order
  split
  · exact List.nodup_nil
  · exact OctreeTrace.fresh_nodup _ _

/-- Only members are offered. -/
theorem lt_size_of_mem_order {index : Nat} (member : index ∈ tree.order box) :
    index < tree.size := by
  unfold order at member
  split at member
  · cases member
  · have new := (OctreeTrace.mem_fresh.mp member).2
    simpa [Array.getD] using new

theorem visit_eq_each {σ : Type} (visitor : σ → Nat → Visit σ) (start : σ) :
    tree.visit box visitor start = Visit.each visitor start (tree.order box) := by
  unfold visit order
  split
  · rfl
  · dsimp only
    rw [OctreeTrace.walk_eq_offerAll, ← OctreeTrace.offerAll_eq_each visitor
      ⟨Array.replicate tree.size false, start⟩]
    rfl

theorem candidates_eq_order : (tree.candidates box).toList = tree.order box := by
  rw [candidates, visit_eq_each, Visit.each_always, Visit.state, List.foldl_push_eq_append]
  simp

end Octree

end Sortie
