import Mathlib.Data.List.DropRight
import Mathlib.Data.List.Nodup
import Sortie.Proofs.Digits
import Sortie.Proofs.Expansion

set_option autoImplicit false

namespace Sortie

namespace Text

theorem isBlank_of_isDigit {character : Char} (digit : character.isDigit = true) :
    isBlank character = false := by
  have range : 48 ≤ character.toNat ∧ character.toNat ≤ 57 := by
    simpa [Char.isDigit, UInt32.le_iff_toNat_le] using digit
  simp only [isBlank, Bool.or_eq_false_iff, Bool.and_eq_false_iff, decide_eq_false_iff_not,
    beq_eq_false_iff_ne]
  omega

/-- Of a text with something to see, before one that does not end in a blank, only the blanks at
the start are lost. -/
theorem trim_append {text tail : List Char} {last : Char}
    (visible : ∃ character ∈ text, isBlank character = false) (ends : tail.getLast? = some last)
    (solid : isBlank last = false) :
    trim (text ++ tail) = text.dropWhile isBlank ++ tail := by
  obtain ⟨front, rfl⟩ := List.getLast?_eq_some_iff.mp ends
  obtain ⟨character, member, seen⟩ := visible
  have some_ : (text.dropWhile isBlank).isEmpty = false := by
    rw [Bool.eq_false_iff]
    intro blank
    have all := List.dropWhile_eq_nil_iff.mp (List.isEmpty_iff.mp blank) character member
    rw [seen] at all
    cases all
  have start : (text ++ (front ++ [last])).dropWhile isBlank =
      (text.dropWhile isBlank ++ front) ++ [last] := by
    rw [List.dropWhile_append, some_, if_neg Bool.false_ne_true, List.append_assoc]
  rw [trim, start, List.reverse_concat, List.dropWhile_cons_of_neg (by rw [solid]; decide),
    List.reverse_cons, List.reverse_reverse, List.append_assoc]

/-- Blanks before a text do not matter. -/
theorem trim_dropWhile (text : List Char) : trim (text.dropWhile isBlank) = trim text := by
  rw [trim, List.dropWhile_idempotent, trim]

/-- A text that is no blank throughout has something to see. -/
theorem exists_visible {text : List Char} (some_ : text ≠ []) (trimmed : trim text = text) :
    ∃ character ∈ text, isBlank character = false := by
  by_contra blank
  simp only [not_exists, not_and, Bool.not_eq_false] at blank
  rw [trim, List.dropWhile_eq_nil_iff.mpr blank] at trimmed
  exact some_ trimmed.symm

end Text

namespace Squad

theorem digitsValue?_toDigits (index : Nat) :
    digitsValue? (Nat.toDigits 10 index) = some index := by
  have digits : (Nat.toDigits 10 index).all Char.isDigit = true :=
    List.all_eq_true.mpr (isDigit_toDigits index)
  have value := Nat.ofDigitChars_ten_toDigits (n := index)
  rw [Nat.ofDigitChars_eq_foldl] at value
  cases written : Nat.toDigits 10 index with
  | nil => exact absurd written Nat.toDigits_ne_nil
  | cons digit rest =>
    rw [written] at digits value
    rw [digitsValue?, if_pos digits, value]
    exact List.cons_ne_nil digit rest

theorem index?_toDigits {index : Nat} (inRange : index ≤ largestIndex) :
    index? (Nat.toDigits 10 index) = some index := by
  have value := digitsValue?_toDigits index
  have unsigned : ∀ rest, Nat.toDigits 10 index ≠ '+' :: rest := fun rest signed => by
    have digit := isDigit_toDigits index '+' (signed ▸ List.mem_cons_self)
    exact absurd digit (by decide)
  unfold index?
  split
  · rename_i rest signed
    exact absurd signed (unsigned rest)
  · dsimp only
    rw [value]
    exact if_pos inRange

theorem splitLast?_eq_none {text : List Char} (solid : ' ' ∉ text) : splitLast? text = none := by
  induction text with
  | nil => rfl
  | cons first rest ih =>
    rw [List.mem_cons, not_or] at solid
    rw [splitLast?, ih solid.2]
    exact if_neg (Ne.symm solid.1)

theorem splitLast?_append {before after : List Char} (solid : ' ' ∉ after) :
    splitLast? (before ++ ' ' :: after) = some (before, after) := by
  induction before with
  | nil =>
    rw [List.nil_append, splitLast?, splitLast?_eq_none solid]
    rfl
  | cons first rest ih => rw [List.cons_append, splitLast?, ih]

/-- A name with something to see, a space and a number are read as the trimmed name and the
number. -/
theorem parse_numbered {name : String} {index : Nat}
    (visible : ∃ character ∈ name.toList, Text.isBlank character = false)
    (inRange : index ≤ largestIndex) :
    parse (name ++ " " ++ toString index) = ⟨String.ofList (Text.trim name.toList), index⟩ := by
  have digits := isDigit_toDigits index
  have spaceless : ' ' ∉ Nat.toDigits 10 index := fun member =>
    absurd (digits ' ' member) (by decide)
  obtain ⟨last, ends⟩ : ∃ last, (' ' :: Nat.toDigits 10 index).getLast? = some last :=
    ⟨_, List.getLast?_eq_some_getLast (List.cons_ne_nil _ _)⟩
  have solid : Text.isBlank last = false := by
    refine Text.isBlank_of_isDigit (digits last ?_)
    rw [List.getLast?_cons, Option.some.injEq] at ends
    cases written : (Nat.toDigits 10 index).getLast? with
    | none => exact absurd (List.getLast?_eq_none_iff.mp written) Nat.toDigits_ne_nil
    | some digit =>
      rw [written, Option.getD_some] at ends
      exact ends ▸ List.mem_of_getLast? written
  have letters : (name ++ " " ++ toString index).toList =
      name.toList ++ ' ' :: Nat.toDigits 10 index := by
    rw [String.toList_append, String.toList_append, Nat.toString_eq_repr, Nat.toList_repr,
      List.append_assoc]
    rfl
  rw [parse, letters, Text.trim_append visible ends solid, splitLast?_append spaceless]
  dsimp only
  rw [index?_toDigits inRange, Text.trim_dropWhile]

end Squad

namespace GroupDescriptor

/-- The text by which a member of a squad is known. -/
theorem member_squad {group : GroupDescriptor} {name : String} (named : group.squad = some name)
    (index : Nat) : (group.member index).squad = some (name ++ " " ++ toString (index + 1)) := by
  rw [member, named]
  rfl

theorem member_label {group : GroupDescriptor} {name : String} (named : group.squad = some name)
    (index : Nat) : (group.member index).label = some (name ++ " " ++ toString (index + 1)) := by
  rw [CraftDescriptor.label, member_squad named]
  rfl

/-- Different members of a squad have different labels. -/
theorem member_label_injective {group : GroupDescriptor} {name : String}
    (named : group.squad = some name) :
    Function.Injective fun index => (group.member index).label := by
  intro index other same
  have texts := same
  simp only [member_label named, Option.some.injEq] at texts
  have digits := congrArg String.toList texts
  rw [String.toList_append, String.toList_append (s := name ++ " "), List.append_cancel_left_eq,
    Nat.toString_eq_repr, Nat.toString_eq_repr, Nat.toList_repr, Nat.toList_repr] at digits
  have numbers := congrArg (Nat.ofDigitChars 10 · 0) digits
  simp only [Nat.ofDigitChars_ten_toDigits] at numbers
  exact Nat.succ_injective numbers

end GroupDescriptor

namespace Squad

/-- A group whose squad has a name to see is read back as that squad, its members numbered from one;
and no two members of a squad have the same label. A squad whose name has no blanks at its ends is
read back as it was written. -/
theorem written_squads_read_back :
    (∀ (group : GroupDescriptor) (name : String), group.squad = some name →
      (∃ character ∈ name.toList, Text.isBlank character = false) →
        ∀ index < group.count, ∃ member text,
          (CraftEntry.group group).expand[index]? = some member ∧ member.squad = some text ∧
            (index + 1 < UInt32.size →
              parse text = ⟨String.ofList (Text.trim name.toList), index + 1⟩)) ∧
      (∀ (group : GroupDescriptor) (name : String), group.squad = some name →
        ((CraftEntry.group group).expand.map CraftDescriptor.label).Nodup) ∧
      ∀ squad : Squad, squad.name ≠ "" → Text.trim squad.name.toList = squad.name.toList →
        squad.index < UInt32.size → parse squad.text = squad := by
  refine ⟨fun group name named visible index inside => ?_, fun group name named => ?_,
    fun squad some_ trimmed inRange => ?_⟩
  · exact ⟨_, _, CraftEntry.getElem?_expand_group inside, group.member_squad named index,
      fun inRange => parse_numbered visible (Nat.le_of_lt_succ inRange)⟩
  · rw [CraftEntry.expand, List.map_map]
    exact List.nodup_range.map (group.member_label_injective named)
  · have letters : squad.name.toList ≠ [] := fun blank => some_ (String.toList_eq_nil_iff.mp blank)
    rw [text, parse_numbered (Text.exists_visible letters trimmed) (Nat.le_of_lt_succ inRange),
      trimmed, String.ofList_toList]

/-- A squad of two whose name has a blank at each end, another one inside, and ends in a number. -/
def redFive : GroupDescriptor := { count := 2, squad := some " red 5 ", craftClass := "fighter" }

theorem redFive_read_back :
    (∃ member text, (CraftEntry.group redFive).expand[1]? = some member ∧
      member.squad = some text ∧ parse text = ⟨"red 5", 2⟩) ∧
      parse (text ⟨"red 5", 7⟩) = ⟨"red 5", 7⟩ := by
  obtain ⟨members, _, squads⟩ := written_squads_read_back
  obtain ⟨member, text, there, known, reads⟩ :=
    members redFive " red 5 " rfl ⟨'r', by decide, by decide⟩ 1 (by decide)
  exact ⟨⟨member, text, there, known, (reads (by decide)).trans (by decide)⟩,
    squads ⟨"red 5", 7⟩ (by decide) (by decide) (by decide)⟩

end Squad

end Sortie
