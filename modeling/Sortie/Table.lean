namespace Sortie

/-- Entries in ascending order of their keys, each key once. -/
abbrev Table (α : Type) := List (String × α)

namespace Table

variable {α β : Type}

/-- Puts an entry in place of the one of the same key. -/
def put (key : String) (value : α) : Table α → Table α
  | [] => [(key, value)]
  | (other, old) :: rest =>
    if key < other then (key, value) :: (other, old) :: rest
    else if key = other then (key, value) :: rest
    else (other, old) :: put key value rest

def find? (key : String) : Table α → Option α
  | [] => none
  | (other, value) :: rest => if key = other then some value else find? key rest

/-- The table of a list of entries, of which a later one replaces an earlier one. -/
def ofEntries (entries : List (String × α)) : Table α :=
  entries.foldl (fun table entry => put entry.1 entry.2 table) []

/-- Strictly ascending keys. -/
def Sorted (table : Table α) : Prop := table.Pairwise fun first second => first.1 < second.1

theorem find?_put_self (key : String) (value : α) (table : Table α) :
    find? key (put key value table) = some value := by
  induction table with
  | nil => simp [put, find?]
  | cons entry rest ih =>
    obtain ⟨other, old⟩ := entry
    by_cases before : key < other
    · simp [put, find?, before]
    · by_cases same : key = other <;> simp [put, find?, before, same, ih]

theorem find?_put_ne {key wanted : String} (value : α) (table : Table α) (distinct : key ≠ wanted) :
    find? wanted (put key value table) = find? wanted table := by
  have flipped : wanted ≠ key := fun same => distinct same.symm
  induction table with
  | nil => simp [put, find?, flipped]
  | cons entry rest ih =>
    obtain ⟨other, old⟩ := entry
    by_cases before : key < other
    · simp [put, find?, before, flipped]
    · by_cases same : key = other
      · subst same
        simp [put, find?, flipped]
      · by_cases found : wanted = other <;> simp [put, find?, before, same, found, ih]

end Table

end Sortie
