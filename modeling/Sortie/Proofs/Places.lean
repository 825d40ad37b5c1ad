import Mathlib.Data.List.Infix
import Mathlib.Data.List.TakeWhile
import Sortie.Storage.Document

set_option autoImplicit false

namespace Sortie

namespace Path

theorem extend_concat (extension : String) (front : List String) (name : String) :
    extend extension (front ++ [name]) = front ++ [name ++ extension] := by
  induction front with
  | nil => rfl
  | cons first rest ih =>
    cases rest with
    | nil => rfl
    | cons second others =>
      rw [List.cons_append, List.cons_append] at ih ⊢
      rw [extend, ih]
      · rfl
      · simp

theorem text_extend (extension : String) (path : Path) :
    (path.extend extension).text = path.text ++ extension := by
  rcases List.eq_nil_or_concat path with rfl | ⟨front, name, rfl⟩
  · simp [extend, text]
  · rw [List.concat_eq_append, extend_concat]
    cases front with
    | nil => simp [text]
    | cons first rest =>
      have some_ : first :: rest ≠ [] := List.cons_ne_nil first rest
      have one (last : String) : [last] ≠ [] := List.cons_ne_nil last []
      rw [text, text, String.intercalate_append_of_ne_nil some_ (one _),
        String.intercalate_append_of_ne_nil some_ (one _), String.intercalate_singleton,
        String.intercalate_singleton, ← String.append_assoc]

theorem isMove_of_long {name : String} (long : 2 < name.utf8ByteSize) : isMove name = false := by
  have other (short : String) (few : short.utf8ByteSize ≤ 2) : (name == short) = false :=
    beq_false_of_ne fun same => by
      rw [same] at long
      omega
  simp only [isMove, other "" (by decide), other "." (by decide), other ".." (by decide),
    Bool.or_self]

/-- A path that can be followed can be followed with a shorter extension, if that holds no zero. -/
theorem isUsable_extend {one other : String} {path : Path}
    (size : other.utf8ByteSize ≤ one.utf8ByteSize) (clean : '\x00' ∉ other.toList)
    (usable : (path.extend one).isUsable = true) : (path.extend other).isUsable = true := by
  simp only [isUsable, text_extend, String.utf8ByteSize_append, String.toList_append,
    Bool.and_eq_true, decide_eq_true_eq, Bool.not_eq_true'] at usable ⊢
  obtain ⟨short, free⟩ := usable
  refine ⟨by omega, ?_⟩
  simp at free ⊢
  exact ⟨free.1, clean⟩

theorem isAbsolute_cons_cons (first second : String) (rest : List String) :
    isAbsolute (first :: second :: rest) = (first == "") := by
  by_cases blank : first = ""
  · rw [blank]
    rfl
  · rw [beq_false_of_ne blank]
    simp [isAbsolute, blank]

theorem isAbsolute_singleton (name : String) : isAbsolute [name] = false := by
  simp [isAbsolute]

/-- Whether a path is absolute does not hang on its last name. -/
theorem isAbsolute_concat (front : List String) (one other : String) :
    isAbsolute (front ++ [one]) = isAbsolute (front ++ [other]) := by
  cases front with
  | nil => rw [List.nil_append, List.nil_append, isAbsolute_singleton, isAbsolute_singleton]
  | cons first rest =>
    cases rest with
    | nil => exact (isAbsolute_cons_cons first one []).trans (isAbsolute_cons_cons first other []).symm
    | cons second others =>
      exact (isAbsolute_cons_cons first second _).trans (isAbsolute_cons_cons first second _).symm

end Path

namespace Storage

/-- Every directory of one tree is a directory of the other one. -/
structure Wider (before after : Storage) : Prop where
  home : after.home = before.home
  directory (location : Location) :
    before.isDirectory location = true → after.isDirectory location = true

theorem Wider.trans {first second third : Storage} (early : first.Wider second)
    (late : second.Wider third) : first.Wider third :=
  ⟨late.home.trans early.home, fun location there =>
    late.directory location (early.directory location there)⟩

theorem isSome_of_isDirectory {storage : Storage} {location : Location}
    (there : storage.isDirectory location = true) : (storage.node? location).isSome = true := by
  unfold isDirectory at there
  cases known : storage.node? location with
  | some node => rfl
  | none =>
    rw [known] at there
    cases there

/-- A step of a walk that comes to an end. -/
theorem walk_cons_eq_ok {storage : Storage} {name : String} {rest : List String}
    {here last : Location} :
    storage.walk (name :: rest) here = .ok last ↔
      storage.isDirectory here = true ∧ name.utf8ByteSize ≤ Path.nameLimit ∧
        (storage.node? (Path.follow here name)).isSome = true ∧
        storage.walk rest (Path.follow here name) = .ok last := by
  rw [walk]
  constructor
  · intro walked
    split at walked
    · cases walked
    · rename_i passes
      obtain ⟨directory, short⟩ := not_or.mp passes
      dsimp only at walked
      split at walked
      · rename_i there
        exact ⟨Decidable.not_not.mp directory, Nat.not_lt.mp short, there, walked⟩
      · cases walked
  · rintro ⟨directory, short, there, walked⟩
    rw [if_neg (not_or.mpr ⟨Decidable.not_not.mpr directory, Nat.not_lt.mpr short⟩)]
    dsimp only
    rw [if_pos there]
    exact walked

/-- The end of a walk is decided by the names alone. -/
theorem walk_eq_foldl {storage : Storage} {names : List String} {here last : Location}
    (walked : storage.walk names here = .ok last) : last = names.foldl Path.follow here := by
  induction names generalizing here with
  | nil =>
    cases walked
    rfl
  | cons name rest ih => exact ih (walk_cons_eq_ok.mp walked).2.2.2

/-- A walk into a directory. -/
theorem walk_blank_eq_ok {storage : Storage} {here last : Location} :
    storage.walk [""] here = .ok last ↔ storage.isDirectory here = true ∧ last = here := by
  rw [walk_cons_eq_ok]
  constructor
  · rintro ⟨directory, _, _, walked⟩
    exact ⟨directory, walk_eq_foldl walked⟩
  · rintro ⟨directory, rfl⟩
    exact ⟨directory, by decide, isSome_of_isDirectory directory, rfl⟩

/-- A walk into a directory does not fail for more directories. -/
theorem walk_into_wider {before after : Storage} (wider : before.Wider after)
    {names : List String} {here last : Location}
    (walked : before.walk (names ++ [""]) here = .ok last) :
    after.walk (names ++ [""]) here = .ok last ∧ after.isDirectory here = true := by
  induction names generalizing here with
  | nil =>
    obtain ⟨directory, rfl⟩ := walk_blank_eq_ok.mp walked
    have there := wider.directory last directory
    exact ⟨walk_blank_eq_ok.mpr ⟨there, rfl⟩, there⟩
  | cons name rest ih =>
    obtain ⟨directory, short, _, later⟩ := walk_cons_eq_ok.mp walked
    obtain ⟨whole, next⟩ := ih later
    have there := wider.directory here directory
    exact ⟨walk_cons_eq_ok.mpr ⟨there, short, isSome_of_isDirectory next, whole⟩, there⟩

/-- After a walk into a directory, the entry of a name in it is there or missing. -/
theorem walk_entry {storage : Storage} {front : List String} {here directory : Location}
    (walked : storage.walk (front ++ [""]) here = .ok directory) {name : String}
    (plain : Path.isMove name = false) (short : name.utf8ByteSize ≤ Path.nameLimit) :
    storage.walk (front ++ [name]) here =
      if (storage.node? (directory ++ [name])).isSome then .ok (directory ++ [name])
      else .error .missing := by
  induction front generalizing here with
  | nil =>
    obtain ⟨there, rfl⟩ := walk_blank_eq_ok.mp walked
    have next : Path.follow directory name = directory ++ [name] := by
      simp only [Path.isMove, Bool.or_eq_false_iff, beq_eq_false_iff_ne] at plain
      rw [Path.follow, if_neg plain.2, if_neg]
      simp [Path.isMove, plain]
    rw [List.nil_append, walk, if_neg (by simp [there, Nat.not_lt.mpr short])]
    dsimp only
    rw [next]
    rfl
  | cons first rest ih =>
    obtain ⟨there, small, found, later⟩ := walk_cons_eq_ok.mp walked
    rw [List.cons_append, walk, if_neg (by simp [there, Nat.not_lt.mpr small])]
    dsimp only
    rw [if_pos found]
    exact ih later

/-- What it takes that a path has a place: a last name that stays in a directory, and the
directory. -/
theorem place_eq_ok {storage : Storage} {path : Path} {location : Location} :
    storage.place path = .ok location ↔ ∃ front name directory,
      path = front ++ [name] ∧ Path.isMove name = false ∧ name.utf8ByteSize ≤ Path.nameLimit ∧
        path.isUsable = true ∧ storage.find path.holder = .ok directory ∧
        location = directory ++ [name] := by
  rcases List.eq_nil_or_concat path with rfl | ⟨front, name, rfl⟩
  · constructor
    · intro placed
      cases placed
    · rintro ⟨front, name, _, empty, _⟩
      simp at empty
  · rw [List.concat_eq_append]
    unfold place
    rw [List.getLast?_concat]
    dsimp only
    constructor
    · intro placed
      split at placed
      · cases placed
      · rename_i passes
        simp only [not_or, Bool.not_eq_true, Bool.not_eq_false, Nat.not_lt] at passes
        cases found : storage.find (Path.holder (front ++ [name])) with
        | error fault =>
          rw [found] at placed
          cases placed
        | ok directory =>
          rw [found] at placed
          cases placed
          exact ⟨front, name, directory, rfl, passes.1, passes.2.1, passes.2.2, rfl, rfl⟩
    · rintro ⟨other, last, directory, same, plain, short, usable, found, rfl⟩
      obtain ⟨rfl, one⟩ := List.append_inj' same rfl
      cases one
      rw [if_neg (by simp [plain, Nat.not_lt.mpr short, usable]), found]
      rfl

theorem find_eq_ok {storage : Storage} {path : Path} {location : Location} :
    storage.find path = .ok location ↔
      path.isUsable = true ∧ storage.walk path (storage.start path) = .ok location := by
  unfold find
  split
  · rename_i usable
    exact ⟨fun walked => ⟨usable, walked⟩, fun found => found.2⟩
  · rename_i unusable
    exact ⟨nofun, fun found => absurd found.1 unusable⟩

theorem holder_concat (front : List String) (name : String) :
    Path.holder (front ++ [name]) = front ++ [""] := by
  rw [Path.holder, List.dropLast_concat]

/-- More directories keep the places of paths. -/
theorem place_wider {before after : Storage} (wider : before.Wider after) {path : Path}
    {location : Location} (placed : before.place path = .ok location) :
    after.place path = .ok location := by
  obtain ⟨front, name, directory, rfl, plain, short, usable, found, rfl⟩ := place_eq_ok.mp placed
  refine place_eq_ok.mpr ⟨front, name, directory, rfl, plain, short, usable, ?_, rfl⟩
  rw [holder_concat, find_eq_ok] at found ⊢
  rw [start, wider.home]
  exact ⟨found.1, (walk_into_wider wider found.2).1⟩

/-- The place of a path hangs on its names alone. -/
theorem place_unique {one other : Storage} (home : one.home = other.home) {path : Path}
    {location location' : Location} (placed : one.place path = .ok location)
    (placed' : other.place path = .ok location') : location = location' := by
  obtain ⟨front, name, directory, rfl, _, _, _, found, rfl⟩ := place_eq_ok.mp placed
  obtain ⟨front', name', directory', same, _, _, _, found', rfl⟩ := place_eq_ok.mp placed'
  obtain ⟨rfl, last⟩ := List.append_inj' same rfl
  cases last
  rw [holder_concat, find_eq_ok] at found found'
  have ends := walk_eq_foldl found.2
  have ends' := walk_eq_foldl found'.2
  rw [start, home] at ends
  rw [start] at ends'
  rw [ends, ends']

/-- A path with a place is found if there is something. -/
theorem find_of_place {storage : Storage} {path : Path} {location : Location}
    (placed : storage.place path = .ok location) :
    storage.find path =
      if (storage.node? location).isSome then .ok location else .error .missing := by
  obtain ⟨front, name, directory, rfl, plain, short, usable, found, rfl⟩ := place_eq_ok.mp placed
  rw [holder_concat, find_eq_ok] at found
  have begins : storage.start (front ++ [name]) = storage.start (front ++ [""]) := by
    rw [start, start, Path.isAbsolute_concat front name ""]
  rw [find, if_pos usable, begins]
  exact walk_entry found.2 plain short

theorem read_of_file {storage : Storage} {path : Path} {location : Location}
    {content : ByteArray} (placed : storage.place path = .ok location)
    (there : storage.node? location = some (.file content)) : storage.read path = .ok content := by
  have found : storage.find path = .ok location := by
    rw [find_of_place placed, there]
    rfl
  simp only [read, found, bind, Except.bind, there]
  rfl

theorem read_of_absent {storage : Storage} {path : Path} {location : Location}
    (placed : storage.place path = .ok location) (absent : storage.node? location = none) :
    storage.read path = .error .missing := by
  unfold read
  rw [find_of_place placed, absent]
  rfl

theorem isThere_of_place {storage : Storage} {path : Path} {location : Location}
    (placed : storage.place path = .ok location) :
    storage.isThere path = (storage.node? location).isSome := by
  rw [isThere, find_of_place placed]
  cases storage.node? location <;> rfl

section

variable {storage : Storage} {location other : Location} {node : FileNode}

/-- The directories on the way to the home are beyond change. -/
theorem not_home_of_not_directory (free : storage.isDirectory location = false) :
    location.isPrefixOf storage.home = false := by
  unfold isDirectory node? at free
  cases known : location.isPrefixOf storage.home with
  | false => rfl
  | true =>
    rw [known] at free
    cases free

theorem node?_erase_self (free : location.isPrefixOf storage.home = false) :
    (storage.erase location).node? location = none := by
  unfold node? erase
  dsimp only
  rw [free]
  simp [List.find?_eq_none]

theorem node?_erase_other (differs : other ≠ location) :
    (storage.erase location).node? other = storage.node? other := by
  unfold node? erase
  dsimp only
  split
  · rfl
  · rw [List.find?_filter]
    congr 2
    funext entry
    by_cases same : entry.1 = other
    · simp [same, differs]
    · simp [same]

theorem node?_put_self (free : location.isPrefixOf storage.home = false) :
    (storage.put location node).node? location = some node := by
  have erased := node?_erase_self free
  unfold node? put at *
  dsimp only at *
  have home : (storage.erase location).home = storage.home := rfl
  rw [home, free] at erased
  rw [free]
  simp only [Bool.false_eq_true, ↓reduceIte, Option.map_eq_none_iff] at erased ⊢
  rw [List.find?_append, erased]
  simp

theorem node?_put_other (differs : other ≠ location) :
    (storage.put location node).node? other = storage.node? other := by
  rw [← @node?_erase_other storage location other differs]
  unfold node? put
  dsimp only
  have home : (storage.erase location).home = storage.home := rfl
  rw [home, List.find?_append]
  have absent : ([(location, node)].find? fun entry => entry.1 == other) = none := by
    simp [differs.symm]
  rw [absent, Option.or_none]

end

/-- Only a file, or nothing, comes or goes at one place, so that all directories stay. -/
theorem wider_of_others {before after : Storage} {location : Location}
    (home : after.home = before.home) (free : before.isDirectory location = false)
    (others : ∀ other, other ≠ location → after.node? other = before.node? other) :
    before.Wider after := by
  refine ⟨home, fun other there => ?_⟩
  have differs : other ≠ location := fun same => by
    rw [same, free] at there
    cases there
  rw [isDirectory, others other differs]
  exact there

theorem put_wider {storage : Storage} {location : Location}
    (free : storage.isDirectory location = false) (node : FileNode) :
    storage.Wider (storage.put location node) :=
  wider_of_others rfl free fun _ differs => node?_put_other differs

theorem erase_wider {storage : Storage} {location : Location}
    (free : storage.isDirectory location = false) : storage.Wider (storage.erase location) :=
  wider_of_others rfl free fun _ differs => node?_erase_other differs

/-- What is not below the source or the target of a move is found where it was before. -/
theorem moved_beq {source target other : Location} (outside : source.isPrefixOf other = false)
    (beyond : target.isPrefixOf other = false) (location : Location) :
    (moved source target location == other) = (location == other) := by
  unfold moved
  split
  · rename_i inside
    have left : location ≠ other := fun same => by
      rw [same, outside] at inside
      cases inside
    have right : target ++ location.drop source.length ≠ other := fun same => by
      rw [← same, List.isPrefixOf_iff_prefix.mpr (List.prefix_append target _)] at beyond
      cases beyond
    rw [beq_false_of_ne left, beq_false_of_ne right]
  · rfl

/-- A move changes nothing but what is below its source and its target. -/
theorem node?_move {storage after : Storage} {source target other : Location}
    (done : storage.move source target = .ok after) (outside : source.isPrefixOf other = false)
    (beyond : target.isPrefixOf other = false) :
    after.home = storage.home ∧ after.node? other = storage.node? other := by
  have apart (location : Location) (free : location.isPrefixOf other = false) :
      other ≠ location := fun same => by
    rw [same, List.isPrefixOf_iff_prefix.mpr (List.prefix_refl location)] at free
    cases free
  have differs := apart source outside
  have differs' := apart target beyond
  unfold move at done
  split at done
  · cases done
  · split at done
    · cases done
      exact ⟨rfl, rfl⟩
    · split at done
      · split at done
        · cases done
        · cases done
          exact ⟨rfl, (node?_put_other differs').trans (node?_erase_other differs)⟩
      · split at done
        · cases done
        · cases done
          refine ⟨rfl, ?_⟩
          rw [← @node?_erase_other storage target other differs']
          have home : (storage.erase target).home = storage.home := rfl
          have entries : (((storage.erase target).entries.map fun entry : Location × FileNode =>
              (moved source target entry.1, entry.2)).find? fun entry => entry.1 == other).map
                Prod.snd =
              ((storage.erase target).entries.find? fun entry => entry.1 == other).map
                Prod.snd := by
            have same : ((fun entry : Location × FileNode => entry.1 == other) ∘
                fun entry : Location × FileNode => (moved source target entry.1, entry.2)) =
                fun entry => entry.1 == other :=
              funext fun entry => moved_beq outside beyond entry.1
            rw [List.find?_map, Option.map_map, same]
            rfl
          unfold node?
          dsimp only
          rw [home, entries]

/-- What is there stays there. -/
structure Extends (before after : Storage) : Prop where
  home : after.home = before.home
  node {location : Location} {node : FileNode} :
    before.node? location = some node → after.node? location = some node

theorem Extends.refl (storage : Storage) : storage.Extends storage := ⟨rfl, fun there => there⟩

theorem Extends.trans {first second third : Storage} (early : first.Extends second)
    (late : second.Extends third) : first.Extends third :=
  ⟨late.home.trans early.home, fun there => late.node (early.node there)⟩

theorem Extends.wider {before after : Storage} (longer : before.Extends after) :
    before.Wider after := by
  refine ⟨longer.home, fun location there => ?_⟩
  unfold isDirectory at there ⊢
  cases known : before.node? location with
  | none =>
    rw [known] at there
    cases there
  | some node =>
    rw [known] at there
    rw [longer.node known]
    exact there

theorem put_extends {storage : Storage} {location : Location}
    (free : storage.node? location = none) (node : FileNode) :
    storage.Extends (storage.put location node) := by
  refine ⟨rfl, fun {other _} there => ?_⟩
  have differs : other ≠ location := fun same => by
    rw [same, free] at there
    cases there
  rw [node?_put_other differs]
  exact there

theorem walk_append (storage : Storage) (first second : List String) (here : Location) :
    storage.walk (first ++ second) here =
      (storage.walk first here).bind fun there => storage.walk second there := by
  induction first generalizing here with
  | nil => rfl
  | cons name rest ih =>
    rw [List.cons_append, walk, walk]
    split
    · rfl
    · dsimp only
      split
      · exact ih _
      · rfl

/-- Where something is, it is not missed however many slashes follow. -/
theorem walk_blanks {storage : Storage} {here : Location}
    (there : (storage.node? here).isSome = true) {blanks : List String}
    (blank : ∀ name ∈ blanks, name = "") : storage.walk blanks here ≠ .error .missing := by
  induction blanks with
  | nil => nofun
  | cons name rest ih =>
    obtain rfl := blank name List.mem_cons_self
    unfold walk
    split
    · nofun
    · dsimp only
      rw [if_pos (show (storage.node? (Path.follow here "")).isSome = true from there)]
      exact ih fun other member => blank other (List.mem_cons_of_mem _ member)

theorem bare_append (path : Path) :
    ∃ blanks, path = path.bare ++ blanks ∧ ∀ name ∈ blanks, name = "" := by
  refine ⟨(path.reverse.takeWhile fun name => name == "").reverse, ?_, ?_⟩
  · rw [Path.bare, ← List.reverse_append, List.takeWhile_append_dropWhile, List.reverse_reverse]
  · intro name member
    have blank := List.mem_takeWhile_imp (List.mem_reverse.mp member)
    exact eq_of_beq blank

/-- Slashes at the end do not make a path absolute. -/
theorem isAbsolute_blanks {front : List String} {name : String} (plain : name ≠ "")
    (blanks : List String) :
    Path.isAbsolute (front ++ [name] ++ blanks) = Path.isAbsolute (front ++ [name]) := by
  cases front with
  | nil =>
    cases blanks with
    | nil => rfl
    | cons first rest =>
      rw [List.nil_append, List.singleton_append, Path.isAbsolute_cons_cons,
        Path.isAbsolute_singleton, beq_false_of_ne plain]
  | cons first rest =>
    cases rest with
    | nil =>
      exact (Path.isAbsolute_cons_cons first name blanks).trans
        (Path.isAbsolute_cons_cons first name []).symm
    | cons second others =>
      exact (Path.isAbsolute_cons_cons first second _).trans
        (Path.isAbsolute_cons_cons first second _).symm

/-- Where nothing is found, there is nothing at the place of the path without its last slashes. -/
theorem node?_of_missing {storage : Storage} {path : Path}
    (missing : storage.find path = .error .missing) {location : Location}
    (placed : storage.place path.bare = .ok location) : storage.node? location = none := by
  obtain ⟨blanks, whole, blank⟩ := bare_append path
  generalize path.bare = short at placed whole
  subst whole
  cases there : storage.node? location with
  | none => rfl
  | some node =>
    exfalso
    have some_ : (storage.node? location).isSome = true := by
      rw [there]
      rfl
    have found := find_of_place placed
    rw [if_pos some_, find_eq_ok] at found
    obtain ⟨front, name, directory, rfl, plain, _⟩ := place_eq_ok.mp placed
    have nonempty : name ≠ "" := fun empty => by
      rw [empty] at plain
      cases plain
    have begins : storage.start (front ++ [name] ++ blanks) = storage.start (front ++ [name]) := by
      rw [start, start, isAbsolute_blanks nonempty]
    unfold find at missing
    split at missing
    · rw [begins, walk_append, found.2] at missing
      exact walk_blanks some_ blank missing
    · cases missing

theorem makeDirectory_extends {storage after : Storage} {path : Path}
    (made : storage.makeDirectory path = .ok after) : storage.Extends after := by
  unfold makeDirectory at made
  split at made
  · split at made
    · cases made
      exact .refl storage
    · cases made
  · cases made
  · rename_i missing
    cases placed : storage.place path.bare with
    | error fault =>
      rw [placed] at made
      cases made
    | ok location =>
      rw [placed] at made
      cases made
      exact put_extends (node?_of_missing missing placed) .directory

theorem makeInTurn_extends (paths : List Path) (storage : Storage) :
    storage.Extends (makeInTurn paths storage).2 := by
  induction paths generalizing storage with
  | nil => exact .refl storage
  | cons path rest ih =>
    unfold makeInTurn
    split
    · rename_i made
      exact (makeDirectory_extends made).trans (ih _)
    · exact .refl storage

theorem makeDirectories_extends (storage : Storage) (path : Path) :
    storage.Extends (storage.makeDirectories path).2 := by
  unfold makeDirectories
  split
  · exact makeInTurn_extends _ storage
  · exact .refl storage

end Storage

end Sortie
