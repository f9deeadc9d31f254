import CourseFeed.Reconcile.Keyed
import CourseFeed.Row.Operation

/-!
# Changes

What differs between two generations of a feed, key by key: a row is new, gone, or another one.
**`changes`** lists the changes, first those of old keys in their order, then the new keys in
theirs. **`Change.format`** is the row that tells the receiver of the feed about a change.
-/

namespace CourseFeed

/-- The kinds of change. -/
inductive ChangeKind where
  | create
  | delete
  | update
  deriving Repr, DecidableEq

/-- All kinds of change. -/
def ChangeKind.all : List ChangeKind := [.create, .delete, .update]

/-- The name of a kind of change. -/
def ChangeKind.name : ChangeKind → String
  | .create => "create"
  | .delete => "delete"
  | .update => "update"

/-- A change of the row of one key. -/
inductive Change where
  | create (new : Row)
  | delete (old : Row)
  | update (old new : Row)
  deriving Repr, DecidableEq

/-- What rules how changes are told. -/
structure DiffOptions where
  /-- Whether new rows that name the course they come after are told as rollovers. -/
  rollover : Bool
  deriving Repr, DecidableEq

namespace Change

/-- The kind of a change. -/
def kind : Change → ChangeKind
  | .create _ => .create
  | .delete _ => .delete
  | .update _ _ => .update

/-- The row before a change. -/
def old? : Change → Option Row
  | .create _ => none
  | .delete old => some old
  | .update old _ => some old

/-- The row after a change. -/
def new? : Change → Option Row
  | .create new => some new
  | .delete _ => none
  | .update _ new => some new

/-- The key of the changed row. -/
def key : Change → Key
  | .create new => new.key
  | .delete old => old.key
  | .update _ new => new.key

/-- The row that tells of a change. -/
def format (options : DiffOptions) : Change → Row
  | .create new =>
    new.mark (if options.rollover && new.hasPrevious then .rollover else .update)
  | .update _ new => new.mark .update
  | .delete old => old.mark .delete

end Change

/-- The change of an old key, if its row is not the same in the new rows. -/
def changeOfOld (new : Keyed) (entry : Key × Row) : Option Change :=
  match new.get? entry.1 with
  | none => some (.delete entry.2)
  | some row => if row = entry.2 then none else some (.update entry.2 row)

/-- The change of a new key, if it is not among the old ones. -/
def changeOfNew (old : Keyed) (entry : Key × Row) : Option Change :=
  if old.contains entry.1 then none else some (.create entry.2)

/-- The changes from the old rows to the new ones. -/
def changes (old new : Keyed) : List Change :=
  old.entries.filterMap (changeOfOld new) ++ new.entries.filterMap (changeOfNew old)

end CourseFeed
