import Sortie.Proofs.Saving

set_option autoImplicit false

namespace Sortie.Storage

open Json

/-- The file at a path has some content, and its backup has an older one. -/
structure Backed (storage : Storage) (path : Path) (content older : ByteArray)
    (directory : Location) (name : String) : Prop
    extends Holds storage path content directory name where
  older : storage.node? (directory ++ [name ++ ".bak"]) = some (.file older)

section

variable {storage left : Storage} {path : Path} {content older fresh : ByteArray}
  {directory : Location} {name text : String}

/-- The last rename leaves the backup alone. -/
theorem Parted.backed (parted : storage.Parted path content fresh directory name)
    (renamed : storage.rename (temporary path) path = .ok left) :
    left.Backed path fresh content directory name := by
  obtain ⟨after, done, held⟩ := parted.rename
  rw [renamed] at done
  cases done
  obtain ⟨source, target, placed, placed', shifted⟩ := rename_eq_ok.mp renamed
  obtain rfl := place_unique rfl placed parted.temporary
  obtain rfl := place_unique rfl placed' parted.file
  obtain ⟨_, differs, differs'⟩ := companions_differ name
  have still := (node?_move shifted (entries_apart differs') (entries_apart differs)).2
  exact ⟨held, still.trans parted.kept⟩

/-- A complete save puts what was in the file into its backup. -/
theorem Holds.saved (held : storage.Holds path content directory name)
    (saved : FileOperation.runAll (saveOperations path text) storage = (none, left)) :
    left.Backed path text.toUTF8 content directory name := by
  obtain ⟨made, written, aside, directories, wrote, moved, renamed⟩ :=
    runAll_saveOperations.mp saved
  obtain ⟨held', waiting⟩ := (held.made directories).write wrote
  exact (held'.setAside waiting moved).backed renamed

/-- Nothing in the tree keeps a file from being overwritten, and its backup is left alone. -/
theorem Backed.overwrite (backed : storage.Backed path content older directory name)
    (fresh : ByteArray) :
    ∃ after, storage.write path fresh = .ok after ∧
      after.Backed path fresh older directory name := by
  have free := not_directory_of_file backed.content
  have differs : directory ++ [name ++ ".bak"] ≠ directory ++ [name] :=
    (entries_differ (companions_differ name).2.1).symm
  refine ⟨_, write_eq_ok.mpr ⟨_, backed.file, free, rfl⟩,
    ⟨backed.toSited.wider (put_wider free _), node?_put_self (not_home_of_not_directory free)⟩, ?_⟩
  rw [node?_put_other differs]
  exact backed.older

end

section

variable {α : Type} {storage : Storage} {decoder : Decoder α} {path : Path} {content : ByteArray}
  {directory : Location} {name : String}

/-- Whether some bytes are a document for a decoder. -/
def IsDocument (decoder : Decoder α) (content : ByteArray) : Prop :=
  ∃ text document, String.fromUTF8? content = some text ∧
    Decoder.run decoder text = .ok document

/-- What is read of a file with some text. -/
def reading (decoder : Decoder α) (text : String) : Except LoadFault (Option α) :=
  match Decoder.run decoder text with
  | .ok document => .ok (some document)
  | .error problem => .error (.corrupt problem)

theorem loadOne_of_file {location : Location} (placed : storage.place path = .ok location)
    (there : storage.node? location = some (.file content)) :
    storage.loadOne decoder path =
      match String.fromUTF8? content with
      | some text => reading decoder text
      | none => .error .unreadable := by
  rw [Storage.loadOne, read_of_file placed there]
  dsimp only
  cases String.fromUTF8? content with
  | none => rfl
  | some text => rfl

theorem reading_of_corrupt (corrupt : ¬IsDocument decoder content) {text : String}
    (decoded : String.fromUTF8? content = some text) :
    ∃ problem, reading decoder text = .error (.corrupt problem) := by
  unfold reading
  cases ran : Decoder.run decoder text with
  | ok document => exact absurd ⟨text, document, decoded, ran⟩ corrupt
  | error problem => exact ⟨problem, rfl⟩

theorem Backed.loadOne {older : String}
    (backed : storage.Backed path content older.toUTF8 directory name) :
    storage.loadOne decoder (backup path) = reading decoder older := by
  rw [loadOne_of_file backed.backup backed.older, fromUTF8?_toUTF8]

/-- The backup is asked for what is text but no document. -/
theorem Backed.load {older text : String}
    (backed : storage.Backed path content older.toUTF8 directory name)
    (corrupt : ¬IsDocument decoder content) (decoded : String.fromUTF8? content = some text) :
    storage.load decoder path = reading decoder older := by
  obtain ⟨problem, failed⟩ := reading_of_corrupt corrupt decoded
  rw [Storage.load, loadOne_of_file backed.file backed.content, decoded]
  dsimp only
  rw [failed]
  dsimp only
  rw [backed.loadOne]
  unfold reading
  cases Decoder.run decoder older with
  | ok document => rfl
  | error fault => rfl

/-- The backup is not asked for what is no text. -/
theorem Holds.load_of_undecoded (held : storage.Holds path content directory name)
    (undecoded : String.fromUTF8? content = none) :
    storage.load decoder path = .error .unreadable := by
  rw [Storage.load, loadOne_of_file held.file held.content, undecoded]

end

/-- After two complete saves a file can be overwritten with any bytes. If they are no document but
text, what is read is what the document of the first save is read as. If they are no text, the file
counts as one that cannot be read, and the backup is not asked, although it is still as good. So a
first document that reads back is recovered exactly if the bytes are text. -/
theorem overwritten_recovered_iff {α : Type} {decoder : Decoder α}
    {before first second : Storage} {path : Path} {old new : Value} {content : ByteArray}
    (saved : before.save path old = (none, first))
    (saved' : first.save path new = (none, second)) (corrupt : ¬IsDocument decoder content) :
    ∃ after, second.write path content = .ok after ∧
      (∀ text, String.fromUTF8? content = some text →
        after.load decoder path = reading decoder old.indented) ∧
      (String.fromUTF8? content = none → after.load decoder path = .error .unreadable ∧
        after.loadOne decoder (backup path) = reading decoder old.indented) ∧
      ∀ one, Decoder.run decoder old.indented = .ok one →
        (after.load decoder path = .ok (some one) ↔
          ∃ text, String.fromUTF8? content = some text) := by
  obtain ⟨directory, name, held⟩ := holds_of_save saved
  obtain ⟨after, wrote, backed⟩ := (held.saved saved').overwrite content
  refine ⟨after, wrote, fun text decoded => backed.load corrupt decoded,
    fun undecoded => ⟨backed.load_of_undecoded undecoded, backed.loadOne⟩, fun one reads => ?_⟩
  constructor
  · intro recovered
    cases decoded : String.fromUTF8? content with
    | some text => exact ⟨text, rfl⟩
    | none =>
      rw [backed.load_of_undecoded decoded] at recovered
      cases recovered
  · rintro ⟨text, decoded⟩
    rw [backed.load corrupt decoded, reading, reads]

/-- The tree after a second save. -/
def tallySavedTwice : Storage := (tallySaved.save tallyPath (tally 2)).2

theorem tally_saved_twice : tallySaved.save tallyPath (tally 2) = (none, tallySavedTwice) :=
  Prod.ext (by decide +kernel) rfl

/-- Text that is no document. -/
def scribble : String := "not json"

/-- A brace, and a byte that makes it no text. -/
def noise : ByteArray := ⟨#[0x7b, 0xff]⟩

theorem scribble_corrupt : ¬IsDocument tallyDecoder scribble.toUTF8 := by
  rintro ⟨text, document, decoded, ran⟩
  rw [fromUTF8?_toUTF8] at decoded
  cases decoded
  simp only [Decoder.run, outline, String.foldl_eq_foldl_toList, scribble] at ran
  cases ran

theorem noise_undecoded : String.fromUTF8? noise = none := by
  decide +kernel

theorem noise_corrupt : ¬IsDocument tallyDecoder noise := by
  rintro ⟨text, document, decoded, _⟩
  rw [noise_undecoded] at decoded
  cases decoded

theorem scribble_recovered :
    save {} tallyPath (tally 1) = (none, tallySaved) ∧
      tallySaved.save tallyPath (tally 2) = (none, tallySavedTwice) ∧
      Decoder.run tallyDecoder (tally 1).indented = .ok [("wins", 1)] ∧
      ¬IsDocument tallyDecoder scribble.toUTF8 ∧
      ∃ after, tallySavedTwice.write tallyPath scribble.toUTF8 = .ok after ∧
        after.load tallyDecoder tallyPath = .ok (some [("wins", 1)]) := by
  obtain ⟨after, wrote, _, _, recovered⟩ :=
    overwritten_recovered_iff tally_saved tally_saved_twice scribble_corrupt
  exact ⟨tally_saved, tally_saved_twice, tally_reads.1, scribble_corrupt, after, wrote,
    (recovered _ tally_reads.1).mpr ⟨scribble, fromUTF8?_toUTF8 scribble⟩⟩

/-- What is no text is not recovered, although it is as little a document. -/
theorem noise_not_recovered :
    save {} tallyPath (tally 1) = (none, tallySaved) ∧
      tallySaved.save tallyPath (tally 2) = (none, tallySavedTwice) ∧
      Decoder.run tallyDecoder (tally 1).indented = .ok [("wins", 1)] ∧
      ¬IsDocument tallyDecoder noise ∧
      ∃ after, tallySavedTwice.write tallyPath noise = .ok after ∧
        ¬after.load tallyDecoder tallyPath = .ok (some [("wins", 1)]) ∧
        after.loadOne tallyDecoder (backup tallyPath) = .ok (some [("wins", 1)]) := by
  obtain ⟨directory, name, held⟩ := holds_of_save tally_saved
  obtain ⟨after, wrote, backed⟩ := (held.saved tally_saved_twice).overwrite noise
  refine ⟨tally_saved, tally_saved_twice, tally_reads.1, noise_corrupt, after, wrote, ?_,
    loadOne_of_node backed.backup backed.older tally_reads.1⟩
  rw [backed.load_of_undecoded noise_undecoded]
  nofun

end Sortie.Storage
