import Mathlib.Tactic.IntervalCases
import Sortie.Json.Reader
import Sortie.Json.Value

set_option autoImplicit false

namespace Sortie.Json

/-- What stands for a character inside quotes. -/
def Value.escaped (character : Char) : List Char :=
  match escape? character with
  | some escape => escape.toList
  | none => [character]

/-- What needs no escape ends no quotation and is no control character. -/
theorem Value.plain_of_escape? {character : Char} (plain : escape? character = none) :
    character ≠ '"' ∧ character ≠ '\\' ∧ ¬ character.toNat < 0x20 := by
  refine ⟨?_, ?_, fun control => ?_⟩
  · rintro rfl
    cases plain
  · rintro rfl
    cases plain
  · unfold escape? at plain
    dsimp only at plain
    rw [if_pos control] at plain
    split at plain <;> cases plain

theorem Value.toList_quoted (text : String) :
    (quoted text).toList = '"' :: text.toList.flatMap escaped ++ ['"'] := by
  have body (letters : List Char) (done : String) :
      (letters.foldl (fun done character => match escape? character with
        | some escape => done ++ escape
        | none => done.push character) done).toList = done.toList ++ letters.flatMap escaped := by
    induction letters generalizing done with
    | nil => exact (List.append_nil _).symm
    | cons first rest ih =>
      rw [List.foldl_cons, ih, List.flatMap_cons, ← List.append_assoc, escaped]
      split
      · rw [String.toList_append]
      · rw [String.toList_push]
  unfold quoted
  rw [String.foldl_eq_foldl_toList, String.toList_push]
  exact congrArg (· ++ ['"']) (body text.toList "\"")

namespace Piece

/-- A piece of a quotation that was read for a character. -/
inductive Means : Piece → Char → Prop
  | character (value : Char) : Means (.character value) value
  | unit {value : Char} (control : value.toNat < 0x20) : Means (.unit value.toNat) value

/-- A code unit that is no half of a pair stands alone. -/
theorem decode_unit {code : Nat} (single : code < 0x20) (rest : List Piece) (done : List Char) :
    decode (.unit code :: rest) done = decode rest (Char.ofNat code :: done) := by
  have leading : isLeading code = false := by
    rw [isLeading, Bool.and_eq_false_iff, decide_eq_false_iff_not]
    omega
  have trailing : isTrailing code = false := by
    rw [isTrailing, Bool.and_eq_false_iff, decide_eq_false_iff_not]
    omega
  cases rest with
  | nil => simp only [decode, leading, trailing, Bool.false_eq_true, if_false]
  | cons next rest =>
    cases next <;> simp [decode, leading, trailing]

theorem decode_means {pieces : List Piece} {letters : List Char}
    (means : List.Forall₂ Means pieces letters) (done : List Char) :
    decode pieces done = .ok (done.reverse ++ letters) := by
  induction means generalizing done with
  | nil => rw [decode, List.append_nil]
  | cons first _ ih =>
    cases first with
    | character value =>
      rw [decode, ih, List.reverse_cons, List.append_assoc, List.singleton_append]
    | unit control =>
      rw [decode_unit control, ih, Char.ofNat_toNat, List.reverse_cons, List.append_assoc,
        List.singleton_append]

theorem close_means {pieces : List Piece} {text : String}
    (means : List.Forall₂ Means pieces text.toList) : close pieces = some text := by
  rw [close, decode_means means]
  exact congrArg some String.ofList_toList

end Piece

namespace Reader

/-- The escape of a control character is read as its code. -/
theorem step_control {code : Nat} (control : code < 0x20) (stack : List Frame)
    (key : Option Members) (pieces : List Piece) :
    ("\\u00" ++ String.ofList (Nat.toDigits 16 (code / 16)) ++
      String.ofList (Nat.toDigits 16 (code % 16))).toList.foldl step ⟨stack, .quote key pieces⟩ =
        ⟨stack, .quote key (.unit code :: pieces)⟩ := by
  rw [String.toList_append, String.toList_append, String.toList_ofList, String.toList_ofList]
  interval_cases code <;> rfl

/-- What stands for a character inside quotes is read as that character. -/
theorem step_escaped (character : Char) : ∃ piece, Piece.Means piece character ∧
    ∀ stack key pieces, (Value.escaped character).foldl step ⟨stack, .quote key pieces⟩ =
      ⟨stack, .quote key (piece :: pieces)⟩ := by
  rw [Value.escaped]
  cases found : Value.escape? character with
  | none =>
    obtain ⟨quote, slash, visible⟩ := Value.plain_of_escape? found
    refine ⟨.character character, .character character, fun stack key pieces => ?_⟩
    simp only [List.foldl_cons, List.foldl_nil, step, quote, slash, visible, if_false]
  | some escape =>
    unfold Value.escape? at found
    dsimp only at found
    split at found
    -- The short escapes.
    iterate 7
      · cases found
        exact ⟨.character _, .character _, fun _ _ _ => rfl⟩
    · split at found
      · rename_i control
        cases found
        exact ⟨.unit character.toNat, .unit control, step_control control⟩
      · cases found

/-- The inside of a quotation is read as pieces that mean its text. -/
theorem foldl_escaped (letters : List Char) (stack : List Frame) (key : Option Members)
    (before : List Piece) : ∃ pieces, List.Forall₂ Piece.Means pieces letters ∧
      (letters.flatMap Value.escaped).foldl step ⟨stack, .quote key before⟩ =
        ⟨stack, .quote key (pieces.reverse ++ before)⟩ := by
  induction letters generalizing before with
  | nil => exact ⟨[], .nil, rfl⟩
  | cons first rest ih =>
    obtain ⟨piece, means, reads⟩ := step_escaped first
    obtain ⟨pieces, others, after⟩ := ih (piece :: before)
    refine ⟨piece :: pieces, .cons means others, ?_⟩
    rw [List.flatMap_cons, List.foldl_append, reads, after, List.reverse_cons, List.append_assoc,
      List.singleton_append]

/-- After the opening quote, a quoted text is read as itself. -/
theorem foldl_quoted (text : String) (stack : List Frame) (key : Option Members) :
    (text.toList.flatMap Value.escaped ++ ['"']).foldl step ⟨stack, .quote key []⟩ =
      match key with
      | none => finish stack (.text (some text))
      | some members => ⟨stack, .colon members (some text)⟩ := by
  obtain ⟨pieces, means, reads⟩ := foldl_escaped text.toList stack key []
  rw [List.foldl_append, reads, List.append_nil]
  have closed : Piece.close pieces.reverse.reverse = some text := by
    rw [List.reverse_reverse]
    exact Piece.close_means means
  cases key with
  | none => exact congrArg (fun text => finish stack (.text text)) closed
  | some members => exact congrArg (fun text => (⟨stack, .colon members text⟩ : Reader)) closed

end Reader

end Sortie.Json
