import Sortie.Proofs.Digits
import Sortie.Proofs.Quotations

set_option autoImplicit false

namespace Sortie.Json

namespace Value

mutual

/-- All numbers in the value are whole numbers of 64 bits. -/
def Plain : Value → Prop
  | null | bool _ | text _ => True
  | number (.natural value) => value ≤ Number.naturalLimit
  | number (.negative _) | number (.real _) | number (.single _) => False
  | list items => PlainItems items
  | object members => PlainMembers members

def PlainItems : List Value → Prop
  | [] => True
  | item :: items => item.Plain ∧ PlainItems items

def PlainMembers : List (String × Value) → Prop
  | [] => True
  | (_, value) :: members => value.Plain ∧ PlainMembers members

end

mutual

/-- The outline of the value's text. -/
def outlined : Value → Node
  | null => .null
  | bool value => .bool value
  | number value => .number (some value)
  | text value => .text (some value)
  | list items => .list (outlinedItems items) .closed
  | object members => .object (outlinedMembers members) .closed

def outlinedItems : List Value → List Node
  | [] => []
  | item :: items => item.outlined :: outlinedItems items

def outlinedMembers : List (String × Value) → Members
  | [] => []
  | (key, value) :: members => (.ok key, value.outlined) :: outlinedMembers members

end

end Value

namespace Reader

/-- The reader of a text so far. -/
def run (text : String) : Reader := text.toList.foldl step ⟨[], .value⟩

theorem run_append (done more : String) :
    run (done ++ more) = more.toList.foldl step (run done) := by
  rw [run, String.toList_append, List.foldl_append]
  rfl

/-- The reader expects a value inside the open containers. -/
inductive Awaits : Reader → List Frame → Prop
  | value (stack : List Frame) : Awaits ⟨stack, .value⟩ stack
  | firstItem (stack : List Frame) : Awaits ⟨stack, .firstItem⟩ (.list [] :: stack)

variable {reader settled : Reader} {stack : List Frame} {character : Char}

theorem Awaits.step (awaits : reader.Awaits stack) (visible : isSpace character = false)
    (open_ : character ≠ ']') : reader.step character = start stack character := by
  cases awaits with
  | value =>
    simp only [Reader.step, visible, Bool.false_eq_true, if_false]
    split
    · exact absurd rfl open_
    · rfl
  | firstItem => simp only [Reader.step, visible, open_, Bool.false_eq_true, if_false]

theorem Awaits.skips (awaits : reader.Awaits stack) :
    ∀ blank, isSpace blank = true → reader.step blank = reader := by
  intro blank space
  cases awaits with
  | value => exact if_pos space
  | firstItem => exact if_pos space

/-- The digits of a number leave the reader in it. -/
theorem Awaits.digits (awaits : reader.Awaits stack) (value : Nat) :
    ∃ place : NumberPlace, place.complete = true ∧
      (Nat.toDigits 10 value).foldl Reader.step reader =
        ⟨stack, .number place (Nat.toDigits 10 value).reverse⟩ := by
  have more (digits : List Char) (all : ∀ digit ∈ digits, digit.isDigit = true)
      (before : List Char) : digits.foldl Reader.step ⟨stack, .number .whole before⟩ =
        ⟨stack, .number .whole (digits.reverse ++ before)⟩ := by
    induction digits generalizing before with
    | nil => rfl
    | cons digit rest ih =>
      have inside : NumberPlace.whole.next? digit = some .whole :=
        if_pos (all digit List.mem_cons_self)
      rw [List.foldl_cons, List.reverse_cons, List.append_assoc, List.singleton_append]
      simp only [Reader.step, inside]
      exact ih (fun other member => all other (List.mem_cons_of_mem digit member)) (digit :: before)
  have all := isDigit_toDigits value
  rcases toDigits_cases value with zero | ⟨first, rest, digits, some_, small⟩
  · refine ⟨.zero, rfl, ?_⟩
    rw [zero, List.foldl_cons, awaits.step (by decide) (by decide)]
    rfl
  · refine ⟨.whole, rfl, ?_⟩
    rw [digits] at all ⊢
    have begins : reader.step first.digitChar = ⟨stack, .number .whole [first.digitChar]⟩ := by
      interval_cases first <;> exact awaits.step (by decide) (by decide)
    rw [List.foldl_cons, begins,
      more rest (fun other member => all other (List.mem_cons_of_mem _ member)), List.reverse_cons]

/-- The reader does with the next character what another one does: it is the same, or in a number
that the other one has finished. -/
inductive Settles (settled : Reader) : Reader → Prop
  | same : Settles settled settled
  | number {stack : List Frame} {place : NumberPlace} {characters : List Char}
      (complete : place.complete = true) (finished : finishNumber stack characters = settled) :
      Settles settled ⟨stack, .number place characters⟩

/-- What follows a value inside a container: the container ends on a line of its own. -/
inductive Follows : Char → Prop
  | line : Follows '\n'
  | comma : Follows ','

theorem Settles.step (settles : Settles settled reader)
    (outside : settled.step character = settled.after character) (follows : Follows character) :
    reader.step character = settled.after character := by
  cases settles with
  | same => exact outside
  | @number stack place characters complete finished =>
    subst finished
    have ends : place.next? character = none := by
      cases follows <;> cases place <;> rfl
    have digit : character.isDigit = false := by
      cases follows <;> rfl
    simp only [Reader.step, ends, digit, complete, Bool.false_eq_true, and_false, not_true_eq_false,
      or_self, if_false]

theorem toList_lineBreak (depth : Nat) : (Value.Style.indented.lineBreak depth).toList =
    '\n' :: List.replicate (2 * depth) ' ' := by
  have blanks (count : Nat) : ("".pushn ' ' count).toList = List.replicate count ' ' := by
    induction count with
    | zero => rfl
    | succ count ih =>
      rw [List.replicate_succ', ← ih, ← String.toList_push]
      rfl
  show ("\n" ++ "".pushn ' ' (2 * depth)).toList = _
  rw [String.toList_append, blanks]
  rfl

/-- A reader that skips blanks skips a line break. -/
theorem foldl_lineBreak (skips : ∀ blank, isSpace blank = true → reader.step blank = reader)
    (depth : Nat) : (Value.Style.indented.lineBreak depth).toList.foldl step reader = reader := by
  have spaces (count : Nat) : (List.replicate count ' ').foldl step reader = reader := by
    induction count with
    | zero => rfl
    | succ count ih => rw [List.replicate_succ, List.foldl_cons, skips ' ' rfl, ih]
  rw [toList_lineBreak, List.foldl_cons, skips '\n' rfl, spaces]

theorem after_blank (settled : Reader) {blank : Char} (space : isSpace blank = true) :
    settled.after blank = settled := by
  unfold after
  exact if_pos space

/-- A line break after a value ends it. -/
theorem Settles.lineBreak (settles : Settles settled reader)
    (outside : ∀ character, settled.step character = settled.after character) (depth : Nat) :
    (Value.Style.indented.lineBreak depth).toList.foldl Reader.step reader = settled := by
  have skips : ∀ blank, isSpace blank = true → settled.step blank = settled := fun blank space =>
    (outside blank).trans (settled.after_blank space)
  have rest := foldl_lineBreak skips depth
  rw [toList_lineBreak, List.foldl_cons, skips '\n' rfl] at rest
  rw [toList_lineBreak, List.foldl_cons, settles.step (outside '\n') .line,
    settled.after_blank rfl, rest]

/-- A reader that expects a key after some members. -/
inductive AwaitsKey : Reader → List Frame → Members → Prop
  | first (stack : List Frame) : AwaitsKey ⟨stack, .firstKey⟩ stack []
  | next (stack : List Frame) (members : Members) :
    AwaitsKey ⟨stack, .nextKey members⟩ stack members

/-- A line break, a key and a colon lead to the key's value. -/
theorem AwaitsKey.member {members : Members} (awaits : reader.AwaitsKey stack members)
    (depth : Nat) (key : String) :
    Awaits ((Value.Style.indented.lineBreak depth ++ Value.quoted key ++
      Value.Style.indented.colon).toList.foldl Reader.step reader)
        (.object members key :: stack) := by
  have skips : ∀ blank, isSpace blank = true → reader.step blank = reader := by
    intro blank space
    cases awaits with
    | first => exact if_pos space
    | next => exact if_pos space
  have opens : reader.step '"' = ⟨stack, .quote (some members) []⟩ := by
    cases awaits with
    | first => rfl
    | next => rfl
  rw [String.toList_append, String.toList_append, List.foldl_append, List.foldl_append,
    foldl_lineBreak skips, Value.toList_quoted, List.cons_append, List.foldl_cons, opens,
    foldl_quoted]
  exact .value _

theorem Awaits.word (awaits : reader.Awaits stack) :
    "null".toList.foldl Reader.step reader = finish stack .null ∧
      "true".toList.foldl Reader.step reader = finish stack (.bool true) ∧
      "false".toList.foldl Reader.step reader = finish stack (.bool false) := by
  cases awaits <;> exact ⟨rfl, rfl, rfl⟩

theorem Awaits.natural (awaits : reader.Awaits stack) {value : Nat}
    (fits : value ≤ Number.naturalLimit) :
    Settles (finish stack (.number (some (.natural value))))
      ((toString value).toList.foldl Reader.step reader) := by
  obtain ⟨place, complete, reads⟩ := awaits.digits value
  rw [Nat.toString_eq_repr, Nat.toList_repr, reads]
  refine .number complete ?_
  rw [finishNumber, List.reverse_reverse, numberParts_digits (isDigit_toDigits value),
    Number.ofParts_toDigits fits]

theorem Awaits.text (awaits : reader.Awaits stack) (value : String) :
    (Value.quoted value).toList.foldl Reader.step reader = finish stack (.text (some value)) := by
  rw [Value.toList_quoted, List.cons_append, List.foldl_cons, awaits.step (by decide) (by decide)]
  exact foldl_quoted value stack none

/-- The bracket of a list or an object that holds something. -/
theorem Awaits.opens (awaits : reader.Awaits stack) :
    reader.step '[' = ⟨stack, .firstItem⟩ ∧ reader.step '\x7b' = ⟨stack, .firstKey⟩ :=
  ⟨awaits.step (by decide) (by decide), awaits.step (by decide) (by decide)⟩

open Value (write writeItems writeMembers outlinedItems outlinedMembers PlainItems PlainMembers)

mutual

/-- Where a value is expected, the reader finds the outline of the value that is written. -/
theorem settles_write (depth : Nat) (done : String) {stack : List Frame} : ∀ value : Value,
    value.Plain → (run done).Awaits stack →
      Settles (finish stack value.outlined) (run (write .indented depth done value))
  | .null, _, awaits => by
    rw [write, run_append, awaits.word.1]
    exact .same
  | .bool true, _, awaits => by
    rw [write, run_append, if_pos rfl, awaits.word.2.1]
    exact .same
  | .bool false, _, awaits => by
    rw [write, run_append, if_neg Bool.false_ne_true, awaits.word.2.2]
    exact .same
  | .number (.natural value), fits, awaits => by
    rw [write, run_append]
    exact awaits.natural fits
  | .text value, _, awaits => by
    rw [write, run_append, awaits.text]
    exact .same
  | .list [], _, awaits => by
    rw [write, run_append]
    show Settles _ (Reader.step (Reader.step _ '[') ']')
    rw [awaits.opens.1]
    exact .same
  | .list (item :: items), ⟨plain, others⟩, awaits => by
    have inside : (run (done ++ "[" ++ Value.Style.indented.lineBreak (depth + 1))).Awaits
        (.list [] :: stack) := by
      have bracket : run (done ++ "[") = ⟨stack, .firstItem⟩ := by
        rw [run_append]
        exact awaits.opens.1
      rw [run_append, bracket, foldl_lineBreak (Awaits.firstItem stack).skips]
      exact .firstItem stack
    have first := settles_write (depth + 1) _ item plain inside
    have all := settles_writeItems (depth + 1) _ items others first
    simp only [write]
    rw [run_append, run_append, all.lineBreak (fun _ => rfl)]
    show Settles _ (finish stack (.list (_ ++ [_]).reverse .closed))
    rw [List.reverse_append, List.reverse_reverse]
    exact .same
  | .object [], _, awaits => by
    rw [write, run_append]
    show Settles _ (Reader.step (Reader.step _ '\x7b') '\x7d')
    rw [awaits.opens.2]
    exact .same
  | .object ((key, value) :: members), ⟨plain, others⟩, awaits => by
    have inside := (AwaitsKey.first stack).member (depth + 1) key
    rw [← awaits.opens.2] at inside
    have first := settles_write (depth + 1) (done ++ "\x7b" ++
      Value.Style.indented.lineBreak (depth + 1) ++ Value.quoted key ++
        Value.Style.indented.colon) value plain (by
      rw [String.append_assoc, String.append_assoc, run_append, run_append, ← String.append_assoc]
      exact inside)
    have all := settles_writeMembers (depth + 1) _ members others first
    simp only [write]
    rw [run_append, run_append, all.lineBreak (fun _ => rfl)]
    show Settles _ (finish stack (.object (_ ++ [_]).reverse .closed))
    rw [List.reverse_append, List.reverse_reverse]
    exact .same

/-- The items after the first. -/
theorem settles_writeItems (depth : Nat) (done : String) {stack : List Frame}
    {before : List Node} : ∀ items : List Value, PlainItems items →
      Settles ⟨stack, .listRest before⟩ (run done) →
        Settles ⟨stack, .listRest ((outlinedItems items).reverse ++ before)⟩
          (run (writeItems .indented depth done items))
  | [], _, settles => by
    rw [writeItems]
    exact settles
  | item :: items, ⟨plain, others⟩, settles => by
    have inside : (run (done ++ "," ++ Value.Style.indented.lineBreak depth)).Awaits
        (.list before :: stack) := by
      have comma : run (done ++ ",") = ⟨.list before :: stack, .value⟩ := by
        rw [run_append]
        exact settles.step rfl .comma
      rw [run_append, comma, foldl_lineBreak (Awaits.value _).skips]
      exact .value _
    have first := settles_write depth _ item plain inside
    rw [writeItems, outlinedItems, List.reverse_cons, List.append_assoc]
    exact settles_writeItems depth _ items others first

/-- The members after the first. -/
theorem settles_writeMembers (depth : Nat) (done : String) {stack : List Frame}
    {before : Members} : ∀ members : List (String × Value), PlainMembers members →
      Settles ⟨stack, .objectRest before⟩ (run done) →
        Settles ⟨stack, .objectRest ((outlinedMembers members).reverse ++ before)⟩
          (run (writeMembers .indented depth done members))
  | [], _, settles => by
    rw [writeMembers]
    exact settles
  | (key, value) :: members, ⟨plain, others⟩, settles => by
    have inside := (AwaitsKey.next stack before).member depth key
    have comma : run (done ++ ",") = ⟨stack, .nextKey before⟩ := by
      rw [run_append]
      exact settles.step rfl .comma
    rw [← comma] at inside
    have first := settles_write depth (done ++ "," ++ Value.Style.indented.lineBreak depth ++
      Value.quoted key ++ Value.Style.indented.colon) value plain (by
      rw [String.append_assoc, String.append_assoc, run_append, ← String.append_assoc]
      exact inside)
    rw [outlinedMembers, List.reverse_cons, List.append_assoc]
    exact settles_writeMembers depth _ members others first

end

theorem Settles.close {node : Node} (settles : Settles (finish [] node) reader) :
    reader.close = (node, false) := by
  cases settles with
  | same => rfl
  | number complete finished =>
    unfold Reader.close
    dsimp only
    rw [if_pos complete, finished]
    rfl

end Reader

/-- The text of a value has the value's outline. -/
theorem outline_indented {value : Value} (plain : value.Plain) :
    outline value.indented = (value.outlined, false) := by
  rw [outline, String.foldl_eq_foldl_toList]
  exact (Reader.settles_write 0 "" value plain (.value [])).close

end Sortie.Json
