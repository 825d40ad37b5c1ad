import Sortie.Proofs.Places

set_option autoImplicit false

namespace Sortie

namespace FileOperation

theorem settle_eq_none {storage after : Storage} {result : Except FileFault Storage} :
    settle storage result = (none, after) ↔ result = .ok after := by
  cases result with
  | ok done =>
    constructor
    · rintro ⟨⟩
      rfl
    · rintro ⟨⟩
      rfl
  | error fault => exact ⟨nofun, nofun⟩

theorem runAll_nil_eq_none {storage after : Storage} :
    runAll [] storage = (none, after) ↔ storage = after := by
  rw [runAll, Prod.mk.injEq]
  exact and_iff_right rfl

theorem runAll_cons_eq_none {operation : FileOperation} {rest : List FileOperation}
    {storage after : Storage} :
    runAll (operation :: rest) storage = (none, after) ↔
      ∃ between, operation.run storage = (none, between) ∧ runAll rest between = (none, after) := by
  rw [runAll]
  constructor
  · intro done
    split at done
    · rename_i between ran
      exact ⟨between, ran, done⟩
    · cases done
  · rintro ⟨between, ran, done⟩
    rw [ran]
    exact done

/-- What an operation may leave behind that fails, for whatever reason, or is cut off. A rename
changes nothing, as it is atomic; some of the directories stay; the file that is written has any
content. -/
inductive Leaves (storage : Storage) : FileOperation → Storage → Prop
  | nothing (operation : FileOperation) : Leaves storage operation storage
  | making {path : Path} (count : Nat) (usable : path.isUsable = true) :
      Leaves storage (.makeDirectories path)
        (Storage.makeInTurn ((path.parent.steps ++ [path]).take count) storage).2
  | writing {path : Path} {content other : ByteArray} {left : Storage}
      (wrote : storage.write path other = .ok left) : Leaves storage (.write path content) left

/-- A run of operations that stopped: so many of them were done, and the next one, if there is one,
failed or was cut off. -/
inductive Stopped : List FileOperation → Storage → Nat → Storage → Prop
  | complete (storage : Storage) : Stopped [] storage 0 storage
  | stop {operation : FileOperation} {rest : List FileOperation} {storage left : Storage}
      (leaves : operation.Leaves storage left) : Stopped (operation :: rest) storage 0 left
  | done {operation : FileOperation} {rest : List FileOperation} {storage between left : Storage}
      {count : Nat} (ran : operation.run storage = (none, between))
      (stopped : Stopped rest between count left) :
      Stopped (operation :: rest) storage (count + 1) left

/-- The tree may refuse an operation; what it then leaves is among what any failure may leave. -/
theorem leaves_of_run {operation : FileOperation} {storage left : Storage} {fault : FileFault}
    (failed : operation.run storage = (some fault, left)) : operation.Leaves storage left := by
  have settled {result : Except FileFault Storage}
      (failed : settle storage result = (some fault, left)) : left = storage := by
    cases result with
    | ok done => cases failed
    | error reason =>
      cases failed
      rfl
  cases operation with
  | makeDirectories path =>
    rw [run, Storage.makeDirectories] at failed
    by_cases usable : path.isUsable = true
    · rw [if_pos usable] at failed
      have made : (makeDirectories path).Leaves storage _ :=
        .making (path.parent.steps ++ [path]).length usable
      rw [List.take_length, failed] at made
      exact made
    · rw [if_neg usable] at failed
      cases failed
      exact .nothing _
  | write path content =>
    obtain rfl := settled failed
    exact .nothing _
  | setAside source target =>
    obtain rfl := settled failed
    exact .nothing _
  | rename source target =>
    obtain rfl := settled failed
    exact .nothing _

/-- A run on the tree itself stops where it reports a fault, and else is complete. -/
theorem stopped_of_runAll {operations : List FileOperation} {storage left : Storage}
    {fault : Option FileFault} (ran : runAll operations storage = (fault, left)) :
    ∃ count, Stopped operations storage count left ∧
      (fault = none ↔ count = operations.length) := by
  induction operations generalizing storage with
  | nil =>
    cases ran
    exact ⟨0, .complete _, by simp⟩
  | cons operation rest ih =>
    rw [runAll] at ran
    split at ran
    · rename_i between done
      obtain ⟨count, stopped, complete⟩ := ih ran
      exact ⟨count + 1, .done done stopped, by simpa using complete⟩
    · rename_i reason between failed
      cases ran
      exact ⟨0, .stop (leaves_of_run failed), by simp⟩

/-- A run may be cut off after any number of its operations. -/
theorem stopped_of_runAll_take {operations : List FileOperation} {storage left : Storage}
    {count : Nat} (within : count ≤ operations.length)
    (ran : runAll (operations.take count) storage = (none, left)) :
    Stopped operations storage count left := by
  induction operations generalizing storage count with
  | nil =>
    obtain rfl : count = 0 := by simpa using within
    cases ran
    exact .complete _
  | cons operation rest ih =>
    cases count with
    | zero =>
      cases ran
      exact .stop (.nothing _)
    | succ count =>
      rw [List.take_succ_cons] at ran
      obtain ⟨between, done, later⟩ := runAll_cons_eq_none.mp ran
      exact .done done (ih (by simpa using within) later)

end FileOperation

namespace Storage

open Json

theorem write_eq_ok {storage after : Storage} {path : Path} {content : ByteArray} :
    storage.write path content = .ok after ↔ ∃ location, storage.place path = .ok location ∧
      storage.isDirectory location = false ∧ after = storage.put location (.file content) := by
  unfold write
  cases placed : storage.place path with
  | error fault =>
    constructor
    · nofun
    · rintro ⟨_, ⟨⟩, _⟩
  | ok location =>
    show (if storage.isDirectory location then Except.error FileFault.refused
      else .ok (storage.put location (.file content))) = .ok after ↔ _
    cases free : storage.isDirectory location with
    | true =>
      constructor
      · nofun
      · rintro ⟨_, ⟨⟩, free', _⟩
        rw [free] at free'
        cases free'
    | false =>
      constructor
      · rintro ⟨⟩
        exact ⟨location, rfl, free, rfl⟩
      · rintro ⟨_, ⟨⟩, _, rfl⟩
        rfl

theorem rename_eq_ok {storage after : Storage} {from_ to_ : Path} :
    storage.rename from_ to_ = .ok after ↔ ∃ source target, storage.place from_ = .ok source ∧
      storage.place to_ = .ok target ∧ storage.move source target = .ok after := by
  unfold rename
  cases placed : storage.place from_ with
  | error fault =>
    constructor
    · nofun
    · rintro ⟨_, _, ⟨⟩, _⟩
  | ok source =>
    cases placed' : storage.place to_ with
    | error fault =>
      constructor
      · nofun
      · rintro ⟨_, _, _, ⟨⟩, _⟩
    | ok target =>
      constructor
      · intro done
        exact ⟨source, target, rfl, rfl, done⟩
      · rintro ⟨_, _, ⟨⟩, ⟨⟩, done⟩
        exact done

/-- A file moves to where no directory is. -/
theorem move_file {storage : Storage} {source target : Location} {content : ByteArray}
    (there : storage.node? source = some (.file content)) (apart : source ≠ target) :
    storage.move source target =
      if storage.isDirectory target then .error .refused
      else .ok ((storage.erase source).put target (.file content)) := by
  unfold move
  rw [there]
  dsimp only
  rw [if_neg apart]

/-- The names of a file, of its temporary file and of its backup differ. -/
theorem companions_differ (name : String) :
    name ≠ name ++ ".tmp" ∧ name ≠ name ++ ".bak" ∧ name ++ ".tmp" ≠ name ++ ".bak" := by
  refine ⟨fun same => ?_, fun same => ?_, fun same => ?_⟩
  · have sizes := congrArg String.utf8ByteSize same
    rw [String.utf8ByteSize_append] at sizes
    have some_ : ".tmp".utf8ByteSize = 4 := by decide
    omega
  · have sizes := congrArg String.utf8ByteSize same
    rw [String.utf8ByteSize_append] at sizes
    have some_ : ".bak".utf8ByteSize = 4 := by decide
    omega
  · have letters := congrArg String.toList same
    rw [String.toList_append, String.toList_append, List.append_cancel_left_eq] at letters
    revert letters
    decide

theorem entries_differ {directory : Location} {one other : String} (differs : one ≠ other) :
    directory ++ [one] ≠ directory ++ [other] := fun same =>
  differs (List.singleton_inj.mp (List.append_cancel_left same))

theorem entries_apart {directory : Location} {one other : String} (differs : one ≠ other) :
    (directory ++ [one]).isPrefixOf (directory ++ [other]) = false := by
  rw [Bool.eq_false_iff]
  intro leads
  exact entries_differ differs ((List.isPrefixOf_iff_prefix.mp leads).eq_of_length (by simp))

/-- A path and its companions have their places side by side in a directory. -/
structure Sited (storage : Storage) (path : Path) (directory : Location) (name : String) :
    Prop where
  file : storage.place path = .ok (directory ++ [name])
  temporary : storage.place (temporary path) = .ok (directory ++ [name ++ ".tmp"])
  backup : storage.place (backup path) = .ok (directory ++ [name ++ ".bak"])

theorem Sited.wider {before after : Storage} (wider : before.Wider after) {path : Path}
    {directory : Location} {name : String} (sited : before.Sited path directory name) :
    after.Sited path directory name :=
  ⟨place_wider wider sited.file, place_wider wider sited.temporary, place_wider wider sited.backup⟩

theorem exists_sited {storage : Storage} {path : Path} {file other : Location}
    (placed : storage.place path = .ok file)
    (placed' : storage.place (temporary path) = .ok other) :
    ∃ directory name, file = directory ++ [name] ∧ other = directory ++ [name ++ ".tmp"] ∧
      storage.Sited path directory name := by
  obtain ⟨front, name, directory, rfl, plain, short, usable, found, rfl⟩ := place_eq_ok.mp placed
  obtain ⟨front', name', directory', same, plain', short', usable', found', rfl⟩ :=
    place_eq_ok.mp placed'
  rw [temporary, Path.extend_concat] at same
  obtain ⟨rfl, last⟩ := List.append_inj' same rfl
  cases last
  have here : directory' = directory := by
    rw [temporary, Path.extend_concat, holder_concat] at found'
    rw [holder_concat, found'] at found
    cases found
    rfl
  subst here
  refine ⟨directory', name, rfl, rfl, placed, placed', ?_⟩
  refine place_eq_ok.mpr ⟨front, name ++ ".bak", directory', Path.extend_concat _ _ _, ?_, ?_, ?_,
    ?_, rfl⟩
  · refine Path.isMove_of_long ?_
    rw [String.utf8ByteSize_append]
    have some_ : ".bak".utf8ByteSize = 4 := by decide
    omega
  · rw [String.utf8ByteSize_append] at short' ⊢
    have one : ".tmp".utf8ByteSize = 4 := by decide
    have other : ".bak".utf8ByteSize = 4 := by decide
    omega
  · exact Path.isUsable_extend (by decide) (by decide) usable'
  · rw [backup, Path.extend_concat, holder_concat]
    rwa [holder_concat] at found

/-- The file at a path has some content, and its companions have their places. -/
structure Holds (storage : Storage) (path : Path) (content : ByteArray) (directory : Location)
    (name : String) : Prop extends Sited storage path directory name where
  content : storage.node? (directory ++ [name]) = some (.file content)

theorem move_home {storage after : Storage} {source target : Location}
    (done : storage.move source target = .ok after) : after.home = storage.home := by
  unfold move at done
  repeat' split at done
  all_goals cases done
  all_goals rfl

theorem not_directory_of_file {storage : Storage} {location : Location} {content : ByteArray}
    (there : storage.node? location = some (.file content)) :
    storage.isDirectory location = false := by
  rw [isDirectory, there]

/-- A file that moves is at its target and no longer at its source. -/
theorem node?_move_file {storage after : Storage} {source target : Location} {content : ByteArray}
    (there : storage.node? source = some (.file content)) (apart : source ≠ target)
    (done : storage.move source target = .ok after) :
    storage.Wider after ∧ after.node? target = some (.file content) ∧
      after.node? source = none := by
  rw [move_file there apart] at done
  split at done
  · cases done
  · rename_i taken
    cases done
    have file := not_directory_of_file there
    have free : (storage.erase source).isDirectory target = false := by
      rw [isDirectory, node?_erase_other apart.symm]
      exact Bool.eq_false_iff.mpr taken
    refine ⟨(erase_wider file).trans (put_wider free _),
      node?_put_self (not_home_of_not_directory free), ?_⟩
    rw [node?_put_other apart]
    exact node?_erase_self (not_home_of_not_directory file)

/-- Setting a file aside leaves its temporary file alone, even if it is a directory that is set
aside. -/
theorem node?_setAside {storage after : Storage} {path : Path} {directory : Location}
    {name : String} (sited : after.Sited path directory name)
    (moved : storage.setAside path (backup path) = .ok after) :
    after.home = storage.home ∧ after.node? (directory ++ [name ++ ".tmp"]) =
      storage.node? (directory ++ [name ++ ".tmp"]) := by
  obtain ⟨differs, _, differs'⟩ := companions_differ name
  unfold setAside at moved
  split at moved
  · obtain ⟨source, target, placed, placed', shifted⟩ := rename_eq_ok.mp moved
    have home := move_home shifted
    obtain rfl := place_unique home.symm placed sited.file
    obtain rfl := place_unique home.symm placed' sited.backup
    exact node?_move shifted (entries_apart differs) (entries_apart differs'.symm)
  · cases moved
    exact ⟨rfl, rfl⟩

section

variable {storage after : Storage} {path : Path} {text : String}

theorem runAll_saveOperations :
    FileOperation.runAll (saveOperations path text) storage = (none, after) ↔
      ∃ made written aside, storage.makeDirectories path.parent = (none, made) ∧
        made.write (temporary path) text.toUTF8 = .ok written ∧
        written.setAside path (backup path) = .ok aside ∧
        aside.rename (temporary path) path = .ok after := by
  simp only [saveOperations, FileOperation.runAll_cons_eq_none, FileOperation.run,
    FileOperation.settle_eq_none, FileOperation.runAll_nil_eq_none]
  constructor
  · rintro ⟨made, directories, written, wrote, aside, moved, last, renamed, rfl⟩
    exact ⟨made, written, aside, directories, wrote, moved, renamed⟩
  · rintro ⟨made, written, aside, directories, wrote, moved, renamed⟩
    exact ⟨made, directories, written, wrote, aside, moved, after, renamed, rfl⟩

/-- After a complete save the text is in the file. -/
theorem holds_of_save
    (saved : FileOperation.runAll (saveOperations path text) storage = (none, after)) :
    ∃ directory name, after.Holds path text.toUTF8 directory name := by
  obtain ⟨made, written, aside, _, wrote, moved, renamed⟩ := runAll_saveOperations.mp saved
  obtain ⟨location, placed, free, rfl⟩ := write_eq_ok.mp wrote
  obtain ⟨other, file, placedOther, placedFile, done⟩ := rename_eq_ok.mp renamed
  obtain ⟨directory, name, rfl, rfl, sited⟩ := exists_sited placedFile placedOther
  obtain ⟨home, kept⟩ := node?_setAside sited moved
  have placed' := place_wider (put_wider free (.file text.toUTF8)) placed
  obtain rfl := place_unique home.symm placed' sited.temporary
  rw [node?_put_self (not_home_of_not_directory free)] at kept
  have apart : directory ++ [name ++ ".tmp"] ≠ directory ++ [name] :=
    entries_differ (companions_differ name).1.symm
  obtain ⟨wider, content, _⟩ := node?_move_file kept apart done
  exact ⟨directory, name, sited.wider wider, content⟩

end

section

variable {storage left : Storage} {path : Path} {content fresh : ByteArray} {directory : Location}
  {name text : String}

theorem Holds.extends {after : Storage} (longer : storage.Extends after)
    (held : storage.Holds path content directory name) :
    after.Holds path content directory name :=
  ⟨held.toSited.wider longer.wider, longer.node held.content⟩

theorem Holds.made {made : Storage} {fault : Option FileFault}
    (held : storage.Holds path content directory name)
    (directories : storage.makeDirectories path.parent = (fault, made)) :
    made.Holds path content directory name := by
  have longer := makeDirectories_extends storage path.parent
  rw [directories] at longer
  exact held.extends longer

/-- The temporary file is written beside the file. -/
theorem Holds.write (held : storage.Holds path content directory name)
    (wrote : storage.write (temporary path) fresh = .ok left) :
    left.Holds path content directory name ∧
      left.node? (directory ++ [name ++ ".tmp"]) = some (.file fresh) := by
  obtain ⟨location, placed, free, rfl⟩ := write_eq_ok.mp wrote
  obtain rfl := place_unique rfl placed held.temporary
  have apart : directory ++ [name] ≠ directory ++ [name ++ ".tmp"] :=
    entries_differ (companions_differ name).1
  refine ⟨⟨held.toSited.wider (put_wider free _), ?_⟩,
    node?_put_self (not_home_of_not_directory free)⟩
  rw [node?_put_other apart]
  exact held.content

/-- Between the two renames: nothing is at the path, the document before is in the backup, and the
new one in the temporary file. -/
structure Parted (storage : Storage) (path : Path) (content fresh : ByteArray)
    (directory : Location) (name : String) : Prop extends Sited storage path directory name where
  absent : storage.node? (directory ++ [name]) = none
  kept : storage.node? (directory ++ [name ++ ".bak"]) = some (.file content)
  waiting : storage.node? (directory ++ [name ++ ".tmp"]) = some (.file fresh)

theorem Holds.setAside (held : storage.Holds path content directory name)
    (waiting : storage.node? (directory ++ [name ++ ".tmp"]) = some (.file fresh))
    (moved : storage.setAside path (backup path) = .ok left) :
    left.Parted path content fresh directory name := by
  have there : storage.isThere path = true := by
    rw [isThere_of_place held.file, held.content]
    rfl
  have renamed := moved
  rw [Storage.setAside, if_pos there] at renamed
  obtain ⟨source, target, placed, placed', shifted⟩ := rename_eq_ok.mp renamed
  obtain rfl := place_unique rfl placed held.file
  obtain rfl := place_unique rfl placed' held.backup
  obtain ⟨wider, kept, absent⟩ :=
    node?_move_file held.content (entries_differ (companions_differ name).2.1) shifted
  have sited := held.toSited.wider wider
  exact ⟨sited, absent, kept, (node?_setAside sited moved).2.trans waiting⟩

/-- Nothing in the tree stands in the way of the last rename. -/
theorem Parted.rename (parted : storage.Parted path content fresh directory name) :
    ∃ after, storage.rename (temporary path) path = .ok after ∧
      after.Holds path fresh directory name := by
  have apart : directory ++ [name ++ ".tmp"] ≠ directory ++ [name] :=
    entries_differ (companions_differ name).1.symm
  have free : ¬ storage.isDirectory (directory ++ [name]) = true := by
    rw [isDirectory, parted.absent]
    exact Bool.false_ne_true
  have shifted := move_file parted.waiting apart
  rw [if_neg free] at shifted
  obtain ⟨wider, there, _⟩ := node?_move_file parted.waiting apart shifted
  exact ⟨_, rename_eq_ok.mpr ⟨_, _, parted.temporary, parted.file, shifted⟩,
    parted.toSited.wider wider, there⟩

/-- Wherever a save stops, the document before is in the file, or the new one is, or the file was
just set aside: it depends only on how many of the four operations were done. -/
theorem Holds.stopped {count : Nat} (held : storage.Holds path content directory name)
    (stopped : FileOperation.Stopped (saveOperations path text) storage count left) :
    count < 3 ∧ left.Holds path content directory name ∨
      count = 3 ∧ left.Parted path content text.toUTF8 directory name ∨
      count = 4 ∧ left.Holds path text.toUTF8 directory name := by
  cases stopped with
  | stop leaves =>
    refine .inl ⟨by omega, ?_⟩
    cases leaves with
    | nothing => exact held
    | making count usable => exact held.extends (makeInTurn_extends _ storage)
  | done directories stopped =>
    have made := held.made directories
    cases stopped with
    | stop leaves =>
      refine .inl ⟨by omega, ?_⟩
      cases leaves with
      | nothing => exact made
      | writing wrote => exact (made.write wrote).1
    | done wrote stopped =>
      obtain ⟨written, waiting⟩ := made.write (FileOperation.settle_eq_none.mp wrote)
      cases stopped with
      | stop leaves =>
        cases leaves
        exact .inl ⟨by omega, written⟩
      | done moved stopped =>
        have parted := written.setAside waiting (FileOperation.settle_eq_none.mp moved)
        cases stopped with
        | stop leaves =>
          cases leaves
          exact .inr (.inl ⟨rfl, parted⟩)
        | done renamed stopped =>
          cases stopped
          obtain ⟨after, same, fresh⟩ := parted.rename
          cases same.symm.trans (FileOperation.settle_eq_none.mp renamed)
          exact .inr (.inr ⟨rfl, fresh⟩)

end

section

variable {α : Type} {storage : Storage} {decoder : Decoder α} {path : Path} {text : String}
  {document : α}

theorem fromUTF8?_toUTF8 (text : String) : String.fromUTF8? text.toUTF8 = some text := by
  unfold String.fromUTF8?
  exact dif_pos text.isValidUTF8

theorem loadOne_of_node {location : Location} (placed : storage.place path = .ok location)
    (there : storage.node? location = some (.file text.toUTF8))
    (reads : Decoder.run decoder text = .ok document) :
    storage.loadOne decoder path = .ok (some document) := by
  rw [loadOne, read_of_file placed there]
  dsimp only
  rw [fromUTF8?_toUTF8]
  dsimp only
  rw [reads]

theorem Holds.load {directory : Location} {name : String}
    (held : storage.Holds path text.toUTF8 directory name)
    (reads : Decoder.run decoder text = .ok document) :
    storage.load decoder path = .ok (some document) := by
  rw [Storage.load, loadOne_of_node held.file held.content reads]

theorem Parted.load {directory : Location} {name : String} {content fresh : ByteArray}
    (parted : storage.Parted path content fresh directory name) :
    storage.load decoder path = .ok none := by
  rw [Storage.load, loadOne, read_of_absent parted.file parted.absent]

end

/-- What is read after a second save that was complete, failed at one of its operations or was cut
off there, as every save does one of these. Up to the moment when the file is set aside it is the
document before, and after the last rename the new one. If the last rename is not done, and only
then, no document is found at the path, although the one before is in the backup and the new one in
the temporary file, and nothing in the tree stands in the way of the rename that would complete the
save. The file system is assumed to do a rename wholly or not at all; an operation may fail for
reasons that are not in the tree. -/
theorem interrupted_save_missing_iff {α : Type} {decoder : Decoder α}
    {before storage left : Storage} {path : Path} {old new : Value} {one other : α} {count : Nat}
    (saved : before.save path old = (none, storage))
    (reads : Decoder.run decoder old.indented = .ok one)
    (reads' : Decoder.run decoder new.indented = .ok other)
    (stopped : FileOperation.Stopped (saveOperations path new.indented) storage count left) :
    (∀ fault after, storage.save path new = (fault, after) → ∃ done,
      FileOperation.Stopped (saveOperations path new.indented) storage done after ∧
        (fault = none ↔ done = 4)) ∧
    (count < 3 → left.load decoder path = .ok (some one)) ∧
    (3 < count → left.load decoder path = .ok (some other)) ∧
    (left.load decoder path = .ok none ↔ count = 3) ∧
    (count = 3 →
      left.loadOne decoder (backup path) = .ok (some one) ∧
      left.loadOne decoder (temporary path) = .ok (some other) ∧
      ∃ after, left.rename (temporary path) path = .ok after ∧
        after.load decoder path = .ok (some other)) := by
  obtain ⟨directory, name, held⟩ := holds_of_save saved
  refine ⟨fun fault after ran => FileOperation.stopped_of_runAll ran, ?_⟩
  obtain ⟨early, kept⟩ | ⟨rfl, parted⟩ | ⟨rfl, fresh⟩ := held.stopped stopped
  · have found := kept.load reads
    refine ⟨fun _ => found, fun late => ?_, ⟨fun absent => ?_, fun aside => ?_⟩, fun aside => ?_⟩
    · omega
    · rw [found] at absent
      cases absent
    · omega
    · omega
  · obtain ⟨after, renamed, fresh⟩ := parted.rename
    refine ⟨fun early => ?_, fun late => ?_, ⟨fun _ => rfl, fun _ => parted.load⟩, fun _ => ?_⟩
    · omega
    · omega
    · exact ⟨loadOne_of_node parted.backup parted.kept reads,
        loadOne_of_node parted.temporary parted.waiting reads', after, renamed, fresh.load reads'⟩
  · have found := fresh.load reads'
    refine ⟨fun early => ?_, fun _ => found, ⟨fun absent => ?_, fun aside => ?_⟩, fun aside => ?_⟩
    · omega
    · rw [found] at absent
      cases absent
    · omega
    · omega

def tally (wins : Nat) : Value := .object [("wins", .ofNat wins)]

def tallyDecoder : Decoder (Table Nat) := Decoder.table Decoder.count32

def tallyPath : Path := ["tally.json"]

/-- The tree after a first save. -/
def tallySaved : Storage := (save {} tallyPath (tally 1)).2

/-- The tree between the two renames of a second one. -/
def tallyAside : Storage :=
  (FileOperation.runAll ((saveOperations tallyPath (tally 2).indented).take 3) tallySaved).2

theorem tally_saved : save {} tallyPath (tally 1) = (none, tallySaved) :=
  Prod.ext (by decide +kernel) rfl

theorem tally_reads : Decoder.run tallyDecoder (tally 1).indented = .ok [("wins", 1)] ∧
    Decoder.run tallyDecoder (tally 2).indented = .ok [("wins", 2)] := by
  simp only [Decoder.run, outline, String.foldl_eq_foldl_toList, tally, Value.indented, Value.write,
    Value.quoted]
  exact ⟨rfl, rfl⟩

theorem tally_aside : FileOperation.runAll ((saveOperations tallyPath (tally 2).indented).take 3)
    tallySaved = (none, tallyAside) :=
  Prod.ext (by decide +kernel) rfl

theorem tally_stopped : FileOperation.Stopped (saveOperations tallyPath (tally 2).indented)
    tallySaved 3 tallyAside :=
  FileOperation.stopped_of_runAll_take (by decide) tally_aside

theorem tally_in_companions :
    save {} tallyPath (tally 1) = (none, tallySaved) ∧
      FileOperation.Stopped (saveOperations tallyPath (tally 2).indented) tallySaved 3 tallyAside ∧
      tallyAside.load tallyDecoder tallyPath = .ok none ∧
      tallyAside.loadOne tallyDecoder (backup tallyPath) = .ok (some [("wins", 1)]) ∧
      tallyAside.loadOne tallyDecoder (temporary tallyPath) = .ok (some [("wins", 2)]) := by
  obtain ⟨_, _, _, missing, found⟩ :=
    interrupted_save_missing_iff tally_saved tally_reads.1 tally_reads.2 tally_stopped
  obtain ⟨kept, waiting, _⟩ := found rfl
  exact ⟨tally_saved, tally_stopped, missing.mpr rfl, kept, waiting⟩

/-- A save whose last rename is cut off, or fails, may leave neither document at the path. -/
theorem tally_missing : save {} tallyPath (tally 1) = (none, tallySaved) ∧
    Decoder.run tallyDecoder (tally 1).indented = .ok [("wins", 1)] ∧
    Decoder.run tallyDecoder (tally 2).indented = .ok [("wins", 2)] ∧
    FileOperation.Stopped (saveOperations tallyPath (tally 2).indented) tallySaved 3 tallyAside ∧
    ¬ (tallyAside.load tallyDecoder tallyPath = .ok (some [("wins", 1)]) ∨
      tallyAside.load tallyDecoder tallyPath = .ok (some [("wins", 2)])) := by
  have absent : tallyAside.load tallyDecoder tallyPath = .ok none := rfl
  refine ⟨tally_saved, tally_reads.1, tally_reads.2, tally_stopped, ?_⟩
  rw [absent]
  rintro (⟨⟨⟩⟩ | ⟨⟨⟩⟩)

end Storage

end Sortie
