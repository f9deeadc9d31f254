import CourseFeed.Json.Text
import CourseFeed.Named

/-!
# JSON values as trees

A **`Tree`** is any JSON value. **`Tree.parse`** reads a whole text as one; lists and objects nest
at most 127 deep. The members of an object are ordered by name, and the last of several with one
name counts.
-/

namespace CourseFeed.Json

/-- A JSON value. -/
inductive Tree where
  | null
  | bool (value : Bool)
  | number (value : Number)
  | text (value : String)
  | list (items : List Tree)
  | object (members : List (String × Tree))

/-- Whether another item of a list follows; takes the comma before it. -/
def readMoreItems (first : Bool) : Reader Bool := fun c =>
  let c := c.skipSpace
  match c.peek? with
  | none => c.failAhead .endInList
  | some ']' => .ok (false, c)
  | some ch =>
    if first then .ok (true, c)
    else if ch = ',' then
      let c := c.next.skipSpace
      if c.peek? = some ']' then c.failAhead .trailingComma else .ok (true, c)
    else c.failAhead .listSeparatorExpected

/-- Whether another member of an object follows; takes the comma before it. -/
def readMoreMembers (first : Bool) : Reader Bool := fun c =>
  let c := c.skipSpace
  match c.peek? with
  | none => c.failAhead .endInObject
  | some '}' => .ok (false, c)
  | some ch =>
    if first then if ch = '"' then .ok (true, c) else c.failAhead .keyNotText
    else if ch = ',' then
      let c := c.next.skipSpace
      match c.peek? with
      | none => c.failAhead .endInValue
      | some '"' => .ok (true, c)
      | some '}' => c.failAhead .trailingComma
      | some _ => c.failAhead .keyNotText
    else c.failAhead .objectSeparatorExpected

/-- Takes the colon after the name of a member. -/
def readColon (c : Cursor) : Except Failure Cursor :=
  let c := c.skipSpace
  match c.peek? with
  | none => c.failAhead .endInObject
  | some ':' => .ok c.next
  | some _ => c.failAhead .colonExpected

/-- Reads the items of a list, at most `fuel` of them. -/
def readItemsWithin (item : Reader α) (first : Bool) : Nat → Reader (List α)
  | 0, c => c.fail .endInList
  | fuel + 1, c => do
    let (more, c) ← readMoreItems first c
    if more then
      let (x, c) ← item c
      let (xs, c) ← readItemsWithin item false fuel c
      return (x :: xs, c)
    else return ([], c)

/-- Reads the items of a list after its bracket. -/
def readItems (item : Reader α) : Reader (List α) := fun c =>
  readItemsWithin item true (c.rest.length + 1) c

/-- Reads the members of an object, at most `fuel` of them; `member` takes what is known so far
    and the name, and reads on from the colon. -/
def readMembersWithin (member : σ → String → Reader σ) (first : Bool) : Nat → σ → Reader σ
  | 0, _, c => c.fail .endInObject
  | fuel + 1, known, c => do
    let (more, c) ← readMoreMembers first c
    if more then
      let (name, c) ← readTextBody c.next
      let (known, c) ← member known name c
      readMembersWithin member false fuel known c
    else return (known, c)

/-- Reads the members of an object after its brace. -/
def readMembers (member : σ → String → Reader σ) (known : σ) : Reader σ := fun c =>
  readMembersWithin member true (c.rest.length + 1) known c

/-- Where looking for the end of a list comes to, and the failure if the end is not there. -/
def closeList (c : Cursor) : Cursor × Option Failure :=
  let c := c.skipSpace
  match c.peek? with
  | none => (c, some (.placed ⟨.endInList, c.ahead⟩))
  | some ']' => (c.next, none)
  | some ',' =>
    let c := c.next.skipSpace
    (c, some (.placed
      ⟨if c.peek? = some ']' then .trailingComma else .trailingCharacters, c.ahead⟩))
  | some _ => (c, some (.placed ⟨.trailingCharacters, c.ahead⟩))

/-- Where looking for the end of an object comes to, and the failure if the end is not there. -/
def closeObject (c : Cursor) : Cursor × Option Failure :=
  let c := c.skipSpace
  match c.peek? with
  | none => (c, some (.placed ⟨.endInObject, c.ahead⟩))
  | some '}' => (c.next, none)
  | some ',' => (c, some (.placed ⟨.trailingComma, c.ahead⟩))
  | some _ => (c, some (.placed ⟨.trailingCharacters, c.ahead⟩))

/-- Ends a list or an object: a problem left open by the body is placed where looking for the end
    comes to. -/
def settle (close : Cursor → Cursor × Option Failure) : Outcome α → Outcome α
  | .ok (x, c) =>
    match close c with
    | (c, none) => .ok (x, c)
    | (_, some failure) => .error failure
  | .error (.pending problem c) => (close c).1.fail problem
  | .error (.placed e) => .error (.placed e)

/-- The number of lists and objects that may be open at once, and one more. -/
def nestingLimit : Nat := 128

/-- Reads a value; fewer than `depth` lists and objects may be opened. -/
def readTree : Nat → Reader Tree
  | 0, c => c.failAhead .tooDeep
  | depth + 1, c =>
    let c := c.skipSpace
    match c.peek? with
    | none => c.failAhead .endInValue
    | some 'n' => do return (.null, ← readWord ['u', 'l', 'l'] c.next)
    | some 't' => do return (.bool true, ← readWord ['r', 'u', 'e'] c.next)
    | some 'f' => do return (.bool false, ← readWord ['a', 'l', 's', 'e'] c.next)
    | some '"' => do
      let (text, c) ← readTextBody c.next
      return (.text text, c)
    | some '[' =>
      if depth = 0 then c.failAhead .tooDeep
      else do
        let (items, c) ← settle closeList (readItems (readTree depth) c.next)
        return (.list items, c)
    | some '{' =>
      if depth = 0 then c.failAhead .tooDeep
      else do
        let member := fun (known : List (String × Tree)) name c => do
          let (value, c) ← readTree depth (← readColon c)
          return (insertNamed name value known, c)
        let (members, c) ← settle closeObject (readMembers member [] c.next)
        return (.object members, c)
    | some ch =>
      if ch = '-' ∨ (digit? ch).isSome then do
        let (number, c) ← readNumber c
        return (.number number, c)
      else c.failAhead .valueExpected

/-- Reads a whole text with a reader, blanks at its end aside. -/
def readAll (reader : Reader α) (text : String) : Except Error α :=
  match reader (Cursor.start text) with
  | .ok (value, c) =>
    let c := c.skipSpace
    if c.rest.isEmpty then .ok value else .error ⟨.trailingCharacters, c.ahead⟩
  | .error (.placed e) => .error e
  | .error (.pending problem c) => .error ⟨problem, c.here⟩

/-- The JSON value that a text holds. -/
def Tree.parse (text : String) : Except Error Tree := readAll (readTree nestingLimit) text

end CourseFeed.Json
