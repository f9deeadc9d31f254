import CourseFeed.Text.Bytes

/-!
# Stored files

A **`Storage`** holds files and directories, one of which is the working directory. A path is
looked up part by part, from the root if it begins with a slash and else from the working
directory, and every part but the last has to be a directory. **`Storage.create`** empties a file
or makes a new one; **`Storage.writeAt`** writes over a file from an offset on, zeros filling a
gap, so that several writers of one file each write at their own place.
-/

namespace CourseFeed

/-- Why a file cannot be read or written. -/
inductive StorageFault where
  | notFound
  | notDirectory
  | isDirectory
  | nameTooLong
  | nulInName
  | notText
  | refused
  deriving Repr, DecidableEq

/-- The wording of a storage fault. -/
def StorageFault.message : StorageFault → String
  | .notFound => "No such file or directory (os error 2)"
  | .notDirectory => "Not a directory (os error 20)"
  | .isDirectory => "Is a directory (os error 21)"
  | .nameTooLong => "File name too long (os error 36)"
  | .nulInName => "file name contained an unexpected NUL byte"
  | .notText => "stream did not contain valid UTF-8"
  | .refused => "sink refused the write"

/-- A place: the names that lead to it from the root. -/
abbrev Location := List String

/-- What is stored at a location. -/
inductive Entry where
  | directory
  | file (content : List UInt8)
  deriving Repr, DecidableEq

/-- Files and directories, and the place of the working directory. -/
structure Storage where
  working : Location
  entries : List (Location × Entry)
  deriving Repr, DecidableEq

namespace Storage

/-- What is stored at a location. The root is a directory. -/
def entry? (s : Storage) (location : Location) : Option Entry :=
  if location.isEmpty then some .directory
  else (s.entries.find? fun e => e.1 == location).map Prod.snd

/-- Replaces the entry at a location, or adds it at the end. -/
def putIn (location : Location) (entry : Entry) :
    List (Location × Entry) → List (Location × Entry)
  | [] => [(location, entry)]
  | (l, e) :: rest =>
    if l = location then (l, entry) :: rest else (l, e) :: putIn location entry rest

/-- The storage with an entry at a location. -/
def put (s : Storage) (location : Location) (entry : Entry) : Storage :=
  { s with entries := putIn location entry s.entries }

/-! ## Paths -/

/-- The parts of a path between its slashes, the last one last. -/
def pathParts (path : List Char) : List String :=
  ((path.splitOn '/').filter (· ≠ [])).map String.ofList

/-- The longest name of a file, in bytes. -/
def longestName : Nat := 255

/-- The longest path, in bytes. -/
def longestPath : Nat := 4095

/-- The location that the parts of a path lead to from a directory. -/
def walk (s : Storage) (here : Location) : List String → Except StorageFault Location
  | [] => .ok here
  | part :: rest =>
    if part = "." then s.walk here rest
    else if part = ".." then s.walk here.dropLast rest
    else if longestName < part.utf8ByteSize then .error .nameTooLong
    else
      let next := here ++ [part]
      if rest.isEmpty then .ok next
      else
        match s.entry? next with
        | none => .error .notFound
        | some (.file _) => .error .notDirectory
        | some .directory => s.walk next rest

/-- The location of a path, and whether the path can only be that of a directory. -/
def locate (s : Storage) (path : String) : Except StorageFault (Location × Bool) :=
  let chars := path.toList
  if chars.contains '\x00' then .error .nulInName
  else if path.isEmpty then .error .notFound
  else if longestPath < path.utf8ByteSize then .error .nameTooLong
  else do
    let start := if chars.head? = some '/' then [] else s.working
    return (← s.walk start (pathParts chars), chars.getLast? = some '/')

/-! ## Reading -/

/-- What a path that is opened for reading leads to. -/
def openEntry (s : Storage) (path : String) : Except StorageFault Entry := do
  let (location, directory) ← s.locate path
  match s.entry? location with
  | none => .error .notFound
  | some .directory => .ok .directory
  | some (.file content) => if directory then .error .notDirectory else .ok (.file content)

/-- The text of a stored file. -/
def readText (s : Storage) (path : String) : Except StorageFault String :=
  match s.openEntry path with
  | .error fault => .error fault
  | .ok .directory => .error .isDirectory
  | .ok (.file content) =>
    match Text.decodeUtf8? content with
    | some text => .ok text
    | none => .error .notText

/-! ## Writing -/

/-- The location of a path that is opened for writing, and the content of the file there. -/
def openForWriting (s : Storage) (path : String) :
    Except StorageFault (Location × Option (List UInt8)) := do
  let (location, directory) ← s.locate path
  match s.entry? location with
  | some .directory => .error .isDirectory
  | some (.file content) =>
    if directory then .error .notDirectory else .ok (location, some content)
  | none => if directory then .error .isDirectory else .ok (location, none)

/-- Empties the file of a path, or makes a new one. -/
def create (s : Storage) (path : String) : Except StorageFault (Storage × Location) := do
  let (location, _) ← s.openForWriting path
  return (s.put location (.file []), location)

/-- Makes the file of a path unless it is there. -/
def ensure (s : Storage) (path : String) : Except StorageFault (Storage × Location) := do
  let (location, content) ← s.openForWriting path
  return (s.put location (.file (content.getD [])), location)

/-- The content of the file at a location. -/
def contentAt (s : Storage) (location : Location) : List UInt8 :=
  match s.entry? location with
  | some (.file content) => content
  | _ => []

/-- Bytes written over others from an offset on, zeros filling a gap. -/
def overlay (old : List UInt8) (offset : Nat) (new : List UInt8) : List UInt8 :=
  old.take offset ++ List.replicate (offset - old.length) 0 ++ new ++
    old.drop (offset + new.length)

/-- Writes over the file at a location from an offset on. -/
def writeAt (s : Storage) (location : Location) (offset : Nat) (new : List UInt8) : Storage :=
  s.put location (.file (overlay (s.contentAt location) offset new))

/-- Writes at the end of the file at a location. -/
def append (s : Storage) (location : Location) (new : List UInt8) : Storage :=
  s.put location (.file (s.contentAt location ++ new))

end Storage

end CourseFeed
