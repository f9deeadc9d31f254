import CourseFeed.Json.Skip

/-!
# Reading values of a wanted shape

A text that should hold a value of some shape is read with that shape in mind, so that the first
thing that does not fit is what is reported. A value of the wrong kind is read to its end if it is
a scalar, and is reported behind it; a list or an object is reported before its bracket.
-/

namespace CourseFeed.Json

/-- Refuses a value of the wrong kind. -/
def mismatch (expected : String) (c : Cursor) : Except Failure α :=
  let wrong := fun (found : Found) (c : Cursor) =>
    (c.fail (.wrongType found expected) : Except Failure α)
  match c.peek? with
  | none => c.failAhead .valueExpected
  | some 'n' => do wrong .null (← readWord ['u', 'l', 'l'] c.next)
  | some 't' => do wrong (.bool true) (← readWord ['r', 'u', 'e'] c.next)
  | some 'f' => do wrong (.bool false) (← readWord ['a', 'l', 's', 'e'] c.next)
  | some '"' => do
    let (text, c) ← readTextBody c.next
    wrong (.text text) c
  | some '[' => wrong .list c
  | some '{' => wrong .object c
  | some ch =>
    if ch = '-' ∨ (digit? ch).isSome then do
      let (number, c) ← readNumber c
      wrong (.number number) c
    else c.failAhead .valueExpected

/-- Reads a value by its first character. -/
def dispatch (read : Char → Cursor → Option (Except Failure (α × Cursor)))
    (expected : String) : Reader α := fun c =>
  let c := c.skipSpace
  match c.peek? with
  | none => c.failAhead .endInValue
  | some ch => (read ch c).getD (mismatch expected c)

/-- Reads a text that should be something called `expected`. -/
def readTextAs (expected : String) : Reader String :=
  dispatch (fun ch c => if ch = '"' then some (readTextBody c.next) else none) expected

/-- Reads a text. -/
def readString : Reader String := readTextAs "a string"

/-- Reads the path of a file. -/
def readPath : Reader String := readTextAs "path string"

/-- Reads a truth value. -/
def readBool : Reader Bool :=
  dispatch (fun ch c =>
    if ch = 't' then some do return (true, ← readWord ['r', 'u', 'e'] c.next)
    else if ch = 'f' then some do return (false, ← readWord ['a', 'l', 's', 'e'] c.next)
    else none) "a boolean"

/-- Reads a number and makes something of it. -/
def readNumberAs (expected : String) (make : Number → Except Problem α) : Reader α :=
  dispatch (fun ch c =>
    if ch = '-' ∨ (digit? ch).isSome then some do
      let (number, c) ← readNumber c
      match make number with
      | .ok value => return (value, c)
      | .error problem => c.fail problem
    else none) expected

/-- Reads an integer between two bounds, whose kind is called `expected`. -/
def readIntWithin (expected : String) (lo hi : Int) : Reader Int :=
  readNumberAs expected fun number =>
    match number with
    | .int n =>
      if lo ≤ n ∧ n ≤ hi then .ok n else .error (.wrongValue (.number number) expected)
    | .float _ => .error (.wrongType (.number number) expected)

/-- Reads a signed word of 32 bits. -/
def readInt32 : Reader Int := readIntWithin "i32" (-(Nat.pow 2 31)) (Nat.pow 2 31 - 1)

/-- Reads an unsigned word of 32 bits. -/
def readNat32 : Reader Nat := fun c => do
  let (n, c) ← readIntWithin "u32" 0 (Nat.pow 2 32 - 1) c
  return (n.toNat, c)

/-- Reads a count. -/
def readSize : Reader Nat := fun c => do
  let (n, c) ← readIntWithin "usize" 0 (Nat.pow 2 64 - 1) c
  return (n.toNat, c)

/-- Reads a binary number. -/
def readBinary : Reader Decimal.Binary64 :=
  readNumberAs "f64" fun number =>
    match number with
    | .int n => .ok (.ofInt n)
    | .float x => .ok x

/-- Reads a value that may be null. -/
def readOptional (reader : Reader α) : Reader (Option α) := fun c =>
  let c := c.skipSpace
  if c.peek? = some 'n' then do return (none, ← readWord ['u', 'l', 'l'] c.next)
  else do
    let (value, c) ← reader c
    return (some value, c)

/-- Reads a list. -/
def readList (item : Reader α) : Reader (List α) :=
  dispatch (fun ch c =>
    if ch = '[' then some (settle closeList (readItems item c.next)) else none) "a sequence"

/-- Reads a text and makes something of it, or refuses it for a reason. -/
def readParsed (expected : String) (parse : String → Except String α) : Reader α := fun c => do
  let (text, c) ← readTextAs expected c
  match parse text with
  | .ok value => return (value, c)
  | .error reason => c.fail (.refused reason)

/-! ## Choices between names -/

/-- Reads one of some names. -/
def readVariantName (variants : List (String × α)) : Reader α := fun c => do
  let (name, c) ← readTextAs "variant identifier" c
  match findNamed? name variants with
  | some value => return (value, c)
  | none => c.fail (.unknownVariant name (variants.map Prod.fst))

/-- Reads nothing, written as null. -/
def readUnit : Reader Unit :=
  dispatch (fun ch c =>
    if ch = 'n' then some do return ((), ← readWord ['u', 'l', 'l'] c.next) else none) "unit"

/-- Reads a choice: a name, or an object whose one member has the name and is null. -/
def readVariant (variants : List (String × α)) : Reader α := fun c =>
  let c := c.skipSpace
  match c.peek? with
  | none => c.failAhead .endInValue
  | some '"' => readVariantName variants c
  | some '{' => do
    let (value, c) ← readVariantName variants c.next
    let (_, c) ← readUnit (← readColon c)
    let c := c.skipSpace
    match c.peek? with
    | none => c.fail .endInObject
    | some '}' => return (value, c.next)
    | some _ => c.fail .valueExpected
  | some _ => c.failAhead .valueExpected

end CourseFeed.Json
