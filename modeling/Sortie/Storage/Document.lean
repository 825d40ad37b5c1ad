import Sortie.Json.Decoder
import Sortie.Storage.Basic

namespace Sortie.Storage

open Json

/-- Why no document can be read. -/
inductive LoadFault where
  /-- The file cannot be read as text. -/
  | unreadable
  /-- The text is not a document. -/
  | corrupt (problem : Problem)

def backup (path : Path) : Path := path.extend ".bak"

def temporary (path : Path) : Path := path.extend ".tmp"

/-- The operations that save a text, in order: it is written to a temporary file, the file before it
becomes the backup, and only then the temporary file takes its place. -/
def saveOperations (path : Path) (text : String) : List FileOperation :=
  [.makeDirectories path.parent, .write (temporary path) text.toUTF8,
    .setAside path (backup path), .rename (temporary path) path]

/-- Saves a document. After a fault the tree stays as the operations before it left it. -/
def save (storage : Storage) (path : Path) (document : Value) : Option FileFault × Storage :=
  FileOperation.runAll (saveOperations path document.indented) storage

/-- The document in one file, if there is such a file. -/
def loadOne {α : Type} (storage : Storage) (decoder : Decoder α) (path : Path) :
    Except LoadFault (Option α) :=
  match storage.read path with
  | .error .missing => .ok none
  | .error .refused => .error .unreadable
  | .ok content =>
    match String.fromUTF8? content with
    | none => .error .unreadable
    | some text =>
      match Decoder.run decoder text with
      | .ok document => .ok (some document)
      | .error problem => .error (.corrupt problem)

/-- The saved document, or the one in the backup if the file is corrupt. If there is no file,
nothing is read, even if there is a backup. -/
def load {α : Type} (storage : Storage) (decoder : Decoder α) (path : Path) :
    Except LoadFault (Option α) :=
  match storage.loadOne decoder path with
  | .error (.corrupt problem) =>
    match storage.loadOne decoder (backup path) with
    | .ok none => .error (.corrupt problem)
    | other => other
  | other => other

/-- The saved document, or another one if none can be read. -/
def loadOr {α : Type} (storage : Storage) (decoder : Decoder α) (path : Path) (fallback : α) : α :=
  match storage.load decoder path with
  | .ok (some document) => document
  | _ => fallback

end Sortie.Storage
