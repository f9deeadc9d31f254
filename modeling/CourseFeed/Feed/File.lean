import CourseFeed.Feed.Writer
import CourseFeed.Session

/-!
# Feeds in files

A **`FeedFile`** is a session together with the file to which it writes a feed, and
**`FeedFile.create`** makes one, with the row of column names at its start if they are wanted.
-/

namespace CourseFeed.Feed

/-- A session and the file to which it writes a feed. -/
structure FeedFile where
  session : Session
  handle : Handle
  deriving Repr, DecidableEq

namespace FeedFile

/-- Delivers bytes to the file. -/
def deliver : Deliver FeedFile := fun f bytes =>
  let (session, handle) := f.session.writeTo f.handle bytes
  .ok ⟨session, handle⟩

/-- Notes something down. -/
def note (f : FeedFile) (entry : JournalEntry) : FeedFile :=
  { f with session := f.session.note entry }

/-- Makes a file for a feed. -/
def create (s : Session) (path : String) (withNames : Bool) :
    Except Fault (FeedFile × Writer) := do
  let (session, handle) ← s.create path
  let file : FeedFile := ⟨session, handle⟩
  if withNames then
    match (Writer.start path).writeUncounted deliver file Row.header with
    | (file, w, none) => return (file, w)
    | (_, _, some fault) => .error fault
  else return (file, Writer.start path)

end FeedFile

end CourseFeed.Feed
