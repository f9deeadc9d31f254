import CourseFeed.Command.Run
import Std.Time.Format
import Std.Time.Zoned

/-!
# The program

Runs the request that the arguments make. The files that the request names are read from the
machine, the request is run on them, and the files that differ afterwards are written back.
-/

namespace CourseFeed.Command

/-- The places on the way to a path, from the root or from the working directory. -/
def placesTo (working : Location) (path : String) : List Location :=
  let chars := path.toList
  let rec go (here : Location) : List String → List Location
    | [] => [here]
    | "." :: rest => go here rest
    | ".." :: rest => here :: go here.dropLast rest
    | part :: rest => here :: go (here ++ [part]) rest
  go (if chars.head? = some '/' then [] else working) (Storage.pathParts chars)

/-- The path of a location. -/
def pathOf (location : Location) : String := "/" ++ String.intercalate "/" location

/-- What the machine has at a location. -/
def entryAt (location : Location) : IO (Option Entry) := do
  try
    let real ← IO.FS.realPath (pathOf location)
    if ← real.isDir then return some .directory
    else return some (.file (← IO.FS.readBinFile real).data.toList)
  catch fault =>
    match fault with
    | .noFileOrDirectory .. => return none
    | _ => throw fault

/-- The storage with what the machine has on the way to some paths. -/
def lookAt (storage : Storage) (paths : List String) : IO Storage := do
  let mut storage := storage
  for location in paths.flatMap (placesTo storage.working) do
    if let some entry ← entryAt location then
      storage := storage.put location entry
  return storage

/-- Writes the files that differ to the machine. -/
def writeBack (before after : Storage) : IO Unit := do
  for (location, entry) in after.entries do
    if before.entry? location ≠ some entry then
      if let .file content := entry then
        IO.FS.writeBinFile (pathOf location) ⟨content.toArray⟩

/-- The time, down to microseconds. -/
def timeText : IO String := do
  let now ← Std.Time.Timestamp.now
  let time := Std.Time.PlainDateTime.ofWallTime
    (Std.Time.WallTime.ofNanoseconds now.toNanosecondsSinceUnixEpoch)
  return time.format "uuuu-MM-dd'T'HH:mm:ss.SSSSSS'Z'"

/-- Runs a request on the files of the machine. -/
def perform (request : Request) : IO UInt32 := do
  let working := Storage.pathParts (← IO.currentDir).toString.toList
  let settled ← lookAt ⟨working, []⟩ (request.paths ⟨working, []⟩)
  let before ← lookAt settled (request.paths settled)
  let (after, report) := request.run (← timeText) before
  writeBack before after
  IO.print report.shown
  if let some fault := report.fault then
    IO.eprint (faultText fault)
  return UInt32.ofNat report.code

end CourseFeed.Command

open CourseFeed.Command in
/-- Runs the program. -/
def main (arguments : List String) : IO UInt32 := do
  match Request.parse arguments with
  | .ok request => perform request
  | .error .help =>
    IO.print usageText
    return 0
  | .error .version =>
    IO.print versionText
    return 0
  | .error (.misuse cause) =>
    IO.eprintln ("error: " ++ cause.message)
    IO.eprint usageText
    return UInt32.ofNat misuseCode
