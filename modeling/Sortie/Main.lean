import Sortie.CommandLine.Run

namespace Sortie.CommandLine

/-- What stands at a path. What cannot be read as a file counts as a directory. -/
def fetch (path : Path) : IO (Option FileNode) := do
  try
    return some (.file (← IO.FS.readBinFile path.text))
  catch
    | .noFileOrDirectory .. => return none
    | _ => return some .directory

/-- The files that a run can need, and the directories on the way to them. -/
def neededPaths (arguments : List String) : List Path :=
  let saved := [settingsFile, Storage.backup settingsFile, recordsFile,
    Storage.backup recordsFile, Storage.temporary recordsFile]
  let named := match Options.ofArguments? arguments with
    | some options => options.mission :: options.catalog.toList
    | none => []
  ((saved ++ named.map Path.ofText).flatMap Path.steps).filter fun path =>
    !path.getLast?.any Path.isMove

/-- The part of the files that a run can need. -/
def collect (arguments : List String) : IO Storage := do
  let home := (Path.ofText (← IO.currentDir).toString).filter fun name => !Path.isMove name
  let mut storage : Storage := { home }
  for path in neededPaths arguments do
    if let some node ← fetch path then
      storage := storage.put (path.foldl Path.follow (storage.start path)) node
  return storage

def perform : FileOperation → IO Unit
  | .makeDirectories path => IO.FS.createDirAll path.text
  | .write path content => IO.FS.writeBinFile path.text content
  | .setAside source target => do
    if let some _ ← fetch source then
      IO.FS.rename source.text target.text
  | .rename source target => IO.FS.rename source.text target.text

end Sortie.CommandLine

def main (arguments : List String) : IO UInt32 := do
  let storage ← Sortie.CommandLine.collect arguments
  let outcome := Sortie.CommandLine.run arguments storage
  for line in outcome.lines do
    IO.println line
  try
    for operation in outcome.operations do
      Sortie.CommandLine.perform operation
    return outcome.ending.exitCode.toUInt32
  catch _ => return Sortie.CommandLine.Ending.failure.exitCode.toUInt32
