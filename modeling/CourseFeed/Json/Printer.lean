import CourseFeed.Json.Tree

/-!
# Writing JSON

**`Tree.compact`** writes a value without any blanks, **`Tree.pretty`** with a line for each item
and two blanks for each open bracket. A text escapes quotes, backslashes and the controls below the
blank, and nothing else.
-/

namespace CourseFeed.Json

/-- What stands for a character of a text. -/
def escapedChar (c : Char) : List Char :=
  if c = '"' then ['\\', '"']
  else if c = '\\' then ['\\', '\\']
  else if c.toNat < 0x20 then
    if c = '\n' then ['\\', 'n']
    else if c = '\r' then ['\\', 'r']
    else if c = '\t' then ['\\', 't']
    else if c = '\x08' then ['\\', 'b']
    else if c = '\x0c' then ['\\', 'f']
    else ['\\', 'u', '0', '0', Nat.digitChar (c.toNat / 16), Nat.digitChar (c.toNat % 16)]
  else [c]

/-- A text between quotes. -/
def textLiteral (text : String) : List Char :=
  '"' :: text.toList.flatMap escapedChar ++ ['"']

/-- The text of a truth value. -/
def boolLiteral (b : Bool) : List Char := if b then "true".toList else "false".toList

/-- Parts with commas between them. -/
def joinComma : List (List Char) → List Char
  | [] => []
  | [part] => part
  | part :: rest => part ++ ',' :: joinComma rest

mutual

/-- A value without any blanks. -/
def compactChars : Tree → List Char
  | .null => "null".toList
  | .bool value => boolLiteral value
  | .number value => value.text.toList
  | .text value => textLiteral value
  | .list items => '[' :: joinComma (compactItems items) ++ [']']
  | .object members => '\x7b' :: joinComma (compactMembers members) ++ ['\x7d']

/-- Items without any blanks. -/
def compactItems : List Tree → List (List Char)
  | [] => []
  | item :: rest => compactChars item :: compactItems rest

/-- Members without any blanks. -/
def compactMembers : List (String × Tree) → List (List Char)
  | [] => []
  | (name, value) :: rest =>
    (textLiteral name ++ ':' :: compactChars value) :: compactMembers rest

end

/-- A value without any blanks. -/
def Tree.compact (t : Tree) : String := String.ofList (compactChars t)

/-- A line end and the blanks before a line inside some brackets. -/
def newLine (depth : Nat) : List Char := '\n' :: List.replicate (2 * depth) ' '

/-- Parts on lines of their own between brackets. -/
def bracketLines (opening closing : Char) (depth : Nat) (parts : List (List Char)) : List Char :=
  if parts.isEmpty then [opening, closing]
  else
    opening :: joinComma (parts.map fun part => newLine (depth + 1) ++ part) ++
      newLine depth ++ [closing]

mutual

/-- A value with a line for each item, inside some brackets. -/
def prettyChars (depth : Nat) : Tree → List Char
  | .list items => bracketLines '[' ']' depth (prettyItems (depth + 1) items)
  | .object members => bracketLines '\x7b' '\x7d' depth (prettyMembers (depth + 1) members)
  | .null => "null".toList
  | .bool value => boolLiteral value
  | .number value => value.text.toList
  | .text value => textLiteral value

/-- Items with lines of their own. -/
def prettyItems (depth : Nat) : List Tree → List (List Char)
  | [] => []
  | item :: rest => prettyChars depth item :: prettyItems depth rest

/-- Members with lines of their own. -/
def prettyMembers (depth : Nat) : List (String × Tree) → List (List Char)
  | [] => []
  | (name, value) :: rest =>
    (textLiteral name ++ ':' :: ' ' :: prettyChars depth value) :: prettyMembers depth rest

end

/-- A value with a line for each item. -/
def Tree.pretty (t : Tree) : String := String.ofList (prettyChars 0 t)

/-! ## Trees of common values -/

/-- The tree of an integer. -/
def Tree.int (n : Int) : Tree := .number (.int n)

/-- The tree of a natural number. -/
def Tree.nat (n : Nat) : Tree := .number (.int n)

/-- The tree of some texts. -/
def Tree.texts (texts : List String) : Tree := .list (texts.map .text)

/-- The tree of a value that may be absent. -/
def Tree.optional (tree : α → Tree) (value : Option α) : Tree := value.elim .null tree

end CourseFeed.Json
