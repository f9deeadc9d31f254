import CourseFeed.Filter.Error
import CourseFeed.Storage.Basic

/-!
# Faults

Everything that can go wrong, by cause. **`Fault.message`** has the wording of all of it.
-/

namespace CourseFeed

open CourseFeed.Decimal

/-- What is wrong with the settings of a run. -/
inductive SettingsFault where
  | noCatalog
  | noOutput
  | unknownOperation (name : String)
  | invalidFilters (count : Nat)
  deriving Repr, DecidableEq

/-- The wording of a settings fault. -/
def SettingsFault.message : SettingsFault → String
  | .noCatalog => "no catalog file given"
  | .noOutput => "no output file given"
  | .unknownOperation name => "unknown operation: " ++ name
  | .invalidFilters count => String.ofList (natText count) ++ " invalid filter(s)"

/-- Why the text of a feed cannot be read or written. -/
inductive FeedFault where
  | storage (fault : StorageFault)
  /-- A field is no text from the byte at `valid` on; the other numbers say where it stands. -/
  | notText (record line field byte valid : Nat)
  deriving Repr, DecidableEq

/-- The wording of a feed fault. -/
def FeedFault.message : FeedFault → String
  | .storage fault => fault.message
  | .notText record line field byte valid =>
    let n := fun (k : Nat) => String.ofList (natText k)
    "CSV parse error: record " ++ n record ++ " (line " ++ n line ++ ", field: " ++ n field ++
      ", byte: " ++ n byte ++ "): invalid utf-8: invalid UTF-8 in field " ++ n field ++
      " near byte index " ++ n valid

/-- The number of columns of a row. -/
def columnCount : Nat := 31

/-- What went wrong. -/
inductive Fault where
  | unreadable (path : String) (fault : StorageFault)
  | unwritable (path : String) (fault : StorageFault)
  | feed (path : String) (fault : FeedFault)
  | tooWide (line fields : Nat)
  | value (error : TokenError)
  | filter (error : FilterError)
  | settings (fault : SettingsFault)
  | json (error : Json.Error)
  deriving Repr, DecidableEq

/-- The wording of a fault. -/
def Fault.message : Fault → String
  | .unreadable path fault => "failed to read file '" ++ path ++ "': " ++ fault.message
  | .unwritable path fault => "failed to write file '" ++ path ++ "': " ++ fault.message
  | .feed path fault => "TSV error in '" ++ path ++ "': " ++ fault.message
  | .tooWide line fields =>
    "row " ++ String.ofList (natText line) ++ " has " ++ String.ofList (natText fields) ++
      " fields, expected at most " ++ String.ofList (natText columnCount)
  | .value error => error.message
  | .filter error => error.message
  | .settings fault => "invalid configuration: " ++ fault.message
  | .json error => "JSON error: " ++ error.message

end CourseFeed
