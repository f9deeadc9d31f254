import CourseFeed.Pattern.Error
import CourseFeed.Pattern.Expr
import CourseFeed.Text.Blank
import CourseFeed.Text.Category
import CourseFeed.Text.Property

/-!
# The small parts of a pattern's text

Escapes, counts, flag lists and group names: what stands between the operators of a pattern. In
*spaced* text blanks and comments, from `#` to the end of the line, stand for nothing in most
places. Each reader gives what it read and the text behind it.
-/

namespace CourseFeed.Pattern

open CourseFeed.Text

/-- A text without the blanks and comments at its start; `comment` says that one is open. -/
def dropSpaced (comment : Bool) : List Char → List Char
  | [] => []
  | c :: rest =>
    if comment then dropSpaced (c != '\n') rest
    else if c = '#' then dropSpaced true rest
    else if isBlank c then dropSpaced false rest
    else c :: rest

/-- A text without what stands for nothing at its start. -/
def settle (spaced : Bool) (text : List Char) : List Char :=
  if spaced then dropSpaced false text else text

/-- A text without its first character and what then stands for nothing. -/
def advance (spaced : Bool) (text : List Char) : List Char := settle spaced text.tail

/-- The first character after the present one that stands for something. -/
def peekSettled (spaced : Bool) (text : List Char) : Option Char :=
  let rest := text.tail
  if spaced then
    match rest.dropWhile isBlank with
    | [] => rest.head?
    | '#' :: more => ((more.dropWhile isBlank).head?).or rest.head?
    | c :: _ => some c
  else rest.head?

/-! ## Counts -/

/-- The value of a decimal digit. -/
def decimalDigit? (c : Char) : Option Nat :=
  if '0' ≤ c ∧ c ≤ '9' then some (c.toNat - 48) else none

/-- Reads digits, at most `fuel` of them, and what stands for nothing after each. -/
def readDigits (spaced : Bool) : Nat → List Char → List Nat × List Char
  | 0, text => ([], text)
  | fuel + 1, text =>
    match text with
    | [] => ([], [])
    | c :: _ =>
      match decimalDigit? c with
      | none => ([], text)
      | some d =>
        let (ds, rest) := readDigits spaced fuel (advance spaced text)
        (d :: ds, rest)

/-- The largest count. -/
def maxCount : Nat := Nat.pow 2 32 - 1

/-- Reads a count; the text behind it is known even when there is none. -/
def readCount (spaced : Bool) (text : List Char) : Except Error Nat × List Char :=
  let text := text.dropWhile isBlank
  let (digits, rest) := readDigits spaced text.length text
  let count := digits.foldl (fun n d => n * 10 + d) 0
  let rest := if digits.isEmpty then rest else rest.dropWhile isBlank
  (if digits.isEmpty then .error .countEmpty
    else if maxCount < count then .error .decimalInvalid
    else .ok count, settle (spaced && !digits.isEmpty) rest)

/-- Reads the counts of a repetition, from the opening brace on. -/
def readCounts (spaced : Bool) (text : List Char) :
    Except Error ((Nat × Option Nat) × List Char) := do
  let text := advance spaced text
  if text.isEmpty then .error .countUnclosed
  let (least, text) := readCount spaced text
  match text with
  | [] => .error .countUnclosed
  | ',' :: _ =>
    let text := advance spaced text
    if text.isEmpty then .error .countUnclosed
    let (counts, text) ← (do
      if text.head? = some '}' then return ((← least, none), text)
      let least ← least
      let (most, text) := readCount spaced text
      return ((least, some (← most)), text) : Except Error ((Nat × Option Nat) × List Char))
    if text.head? = some '}' then return (counts, advance spaced text)
    else .error .countUnclosed
  | c :: _ =>
    let least ← least
    if c = '}' then return ((least, some least), advance spaced text)
    else .error .countUnclosed

/-! ## Escapes -/

/-- The value of a hexadecimal digit. -/
def hexDigit? (c : Char) : Option Nat :=
  if '0' ≤ c ∧ c ≤ '9' then some (c.toNat - 48)
  else if 'a' ≤ c ∧ c ≤ 'f' then some (c.toNat - 87)
  else if 'A' ≤ c ∧ c ≤ 'F' then some (c.toNat - 55)
  else none

/-- The character with a code point. -/
def charOfCode (n : Nat) : Except Error Char :=
  if n < 0xD800 ∨ 0xE000 ≤ n ∧ n ≤ CharSet.lastCode then .ok (Char.ofNat n)
  else .error .hexInvalid

/-- Reads a number of hexadecimal digits after the value `n`. -/
def readHexDigits (spaced : Bool) (n : Nat) : Nat → List Char → Except Error (Nat × List Char)
  | 0, text => .ok (n, text)
  | _ + 1, [] => .error .escapeAtEnd
  | count + 1, c :: rest =>
    match hexDigit? c with
    | none => .error .hexDigitInvalid
    | some d => readHexDigits spaced (n * 16 + d) count (settle spaced rest)

/-- Reads the text between braces, from the opening one on, at most `fuel` characters of it. -/
def readBraced (spaced : Bool) (accept : Char → Except Error Unit) :
    Nat → List Char → Except Error (List Char × List Char)
  | 0, _ => .error .escapeAtEnd
  | fuel + 1, text =>
    match advance spaced text with
    | [] => .error .escapeAtEnd
    | '}' :: rest => .ok ([], rest)
    | c :: rest => do
      accept c
      let (more, rest) ← readBraced spaced accept fuel (c :: rest)
      return (c :: more, rest)

/-- Reads the character of a hexadecimal escape, from its letter on. -/
def readHexEscape (spaced : Bool) (text : List Char) : Except Error (Literal × List Char) := do
  let letter := text.head?
  let count := if letter = some 'x' then 2 else if letter = some 'u' then 4 else 8
  match advance spaced text with
  | [] => .error .escapeAtEnd
  | '{' :: rest =>
    let accept := fun c => if (hexDigit? c).isSome then .ok () else .error Error.hexDigitInvalid
    let (digits, rest) ← readBraced spaced accept (rest.length + 1) ('{' :: rest)
    let rest := settle spaced rest
    if digits.isEmpty then .error .hexEmpty
    else
      let code := digits.foldl (fun n c => n * 16 + (hexDigit? c).getD 0) 0
      return (⟨← charOfCode code, false⟩, rest)
  | text =>
    let (code, rest) ← readHexDigits spaced 0 count text
    return (⟨← charOfCode code, letter = some 'x'⟩, rest)

/-- Cuts a text at the first place where a separator stands. -/
def cutAt (separator : List Char) : List Char → Option (List Char × List Char)
  | [] => none
  | c :: rest =>
    if separator.isPrefixOf (c :: rest) then some ([], (c :: rest).drop separator.length)
    else (cutAt separator rest).map fun (before, after) => (c :: before, after)

/-- The question that the text between the braces of a property asks. -/
def PropertyQuery.ofText (text : List Char) : PropertyQuery :=
  match (cutAt ['!', '='] text).or ((cutAt [':'] text).or (cutAt ['='] text)) with
  | some (key, given) => PropertyQuery.value (String.ofList key) (String.ofList given)
  | none => .name (String.ofList text)

/-- Reads a property, from its letter on. -/
def readProperty (spaced : Bool) (text : List Char) : Except Error (PropertyQuery × List Char) :=
  match advance spaced text with
  | [] => .error .escapeAtEnd
  | '{' :: rest => do
    let (name, rest) ← readBraced spaced (fun _ => .ok ()) (rest.length + 1) ('{' :: rest)
    return (PropertyQuery.ofText name, rest)
  | '\\' :: _ => .error .propertyInvalid
  | c :: rest => .ok (PropertyQuery.name (String.ofList [c]), settle spaced rest)

/-- Whether a character has a meaning of its own in patterns. -/
def isMeta (c : Char) : Bool :=
  ['\\', '.', '+', '*', '?', '(', ')', '|', '[', ']', '\x7b', '\x7d', '^', '$', '#', '&', '-',
    '~'].contains c

/-- Whether a backslash may stand before a character to no effect. -/
def isEscapable (c : Char) : Bool :=
  isMeta c || (c.toNat < 0x80 && !c.isAlphanum && c != '<' && c != '>')

/-- The control that a letter after a backslash stands for. -/
def controlEscape? : Char → Option Char
  | 'a' => some '\x07'
  | 'f' => some '\x0c'
  | 't' => some '\t'
  | 'n' => some '\n'
  | 'r' => some '\r'
  | 'v' => some '\x0b'
  | _ => none

/-- Whether a character may stand in the name of a word boundary. -/
def isBoundaryChar (c : Char) : Bool := c.isAlpha || c = '-'

/-- Reads the name of a word boundary, at most `fuel` characters of it. -/
def readBoundaryName (spaced : Bool) : Nat → List Char → List Char × List Char
  | 0, text => ([], text)
  | fuel + 1, text =>
    match text with
    | [] => ([], [])
    | c :: _ =>
      if isBoundaryChar c then
        let (name, rest) := readBoundaryName spaced fuel (advance spaced text)
        (c :: name, rest)
      else ([], text)

/-- The word boundary with a name. -/
def boundaryNamed (name : String) : Except Error Assertion :=
  if name = "start" then .ok .wordStart
  else if name = "end" then .ok .wordEnd
  else if name = "start-half" then .ok .wordStartHalf
  else if name = "end-half" then .ok .wordEndHalf
  else .error .boundaryUnknown

/-- Reads what may follow `\b`: the name of a word boundary in braces. A brace before anything
    else begins a count, and is left. -/
def readBoundary (spaced : Bool) (text : List Char) : Except Error (Assertion × List Char) :=
  match text with
  | '{' :: _ =>
    match advance spaced text with
    | [] => .error .boundaryAtEnd
    | c :: rest =>
      if isBoundaryChar c then
        match readBoundaryName spaced (rest.length + 1) (c :: rest) with
        | (name, '}' :: rest) => do return (← boundaryNamed (String.ofList name), rest)
        | _ => .error .boundaryUnclosed
      else .ok (.boundary, text)
  | _ => .ok (.boundary, text)

/-- Reads an escape, from the backslash on. -/
def readEscape (spaced : Bool) (text : List Char) : Except Error (Expr × List Char) :=
  match text.tail with
  | [] => .error .escapeAtEnd
  | c :: rest =>
    if c.isDigit then .error .backreference
    else if c = 'x' ∨ c = 'u' ∨ c = 'U' then do
      let (literal, rest) ← readHexEscape spaced (c :: rest)
      return (.literal literal, rest)
    else if c = 'p' ∨ c = 'P' then do
      let (query, rest) ← readProperty spaced (c :: rest)
      return (.property query (c = 'P'), rest)
    else if isEscapable c then .ok (.literal ⟨c, false⟩, rest)
    else
      match controlEscape? c with
      | some control => .ok (.literal ⟨control, false⟩, rest)
      | none =>
        match c with
        | 'd' => .ok (.perl .digit false, rest)
        | 'D' => .ok (.perl .digit true, rest)
        | 's' => .ok (.perl .space false, rest)
        | 'S' => .ok (.perl .space true, rest)
        | 'w' => .ok (.perl .word false, rest)
        | 'W' => .ok (.perl .word true, rest)
        | 'A' => .ok (.assertion .textStart, rest)
        | 'z' => .ok (.assertion .textEnd, rest)
        | 'B' => .ok (.assertion .noBoundary, rest)
        | '<' => .ok (.assertion .wordStart, rest)
        | '>' => .ok (.assertion .wordEnd, rest)
        | 'b' => do
          let (assertion, rest) ← readBoundary spaced rest
          return (.assertion assertion, rest)
        | _ => .error .escapeUnknown

/-! ## Flags and names of groups -/

/-- The flag with a letter. -/
def flagLetter? : Char → Option Flag
  | 'i' => some .ignoreCase
  | 'm' => some .multiLine
  | 's' => some .dotMatchesAll
  | 'U' => some .swapGreed
  | 'u' => some .unicode
  | 'R' => some .carriageReturns
  | 'x' => some .spaced
  | _ => none

/-- Reads a flag list up to the colon or parenthesis behind it, after the items `before`. -/
def readFlags (before : List FlagItem) : List Char → Except Error (List FlagItem × List Char)
  | [] => .error .flagAtEnd
  | c :: rest =>
    if c = ':' ∨ c = ')' then
      if before.getLast? = some .negation then .error .flagDanglingNegation
      else .ok (before, c :: rest)
    else if c = '-' then
      if before.contains .negation then .error .flagNegationRepeated
      else readFlags (before ++ [.negation]) rest
    else
      match flagLetter? c with
      | none => .error .flagUnknown
      | some flag =>
        if before.contains (.flag flag) then .error .flagRepeated
        else readFlags (before ++ [.flag flag]) rest

/-- Whether a character may stand in the name of a group, at its start or later. -/
def isNameChar (first : Bool) (c : Char) : Bool :=
  c = '_' || Property.alphabetic.contains c ||
    (!first && (c = '.' || c = '[' || c = ']' || Category.number.contains c))

/-- Reads the name of a group up to its closing bracket. -/
def readName (first : Bool) : List Char → Except Error (List Char × List Char)
  | [] => .error .groupNameAtEnd
  | '>' :: rest => .ok ([], rest)
  | c :: rest =>
    if isNameChar first c then do
      let (name, rest) ← readName false rest
      return (c :: name, rest)
    else .error .groupNameInvalid

/-- Reads the name of a group that no group before it has. -/
def readGroupName (taken : List String) (text : List Char) :
    Except Error (String × List Char) := do
  let (name, rest) ← readName true text
  let name := String.ofList name
  if name.isEmpty then .error .groupNameEmpty
  else if taken.contains name then .error .groupNameRepeated
  else return (name, rest)

end CourseFeed.Pattern
