import CourseFeed.Json.Numeral

/-!
# Reading texts

A text stands between double quotes. A backslash begins an escape: a letter for a control, or `u`
and four hexadecimal digits for a unit of sixteen bits, of which a leading and a trailing surrogate
make one character between them.
-/

namespace CourseFeed.Json

/-- The value of a hexadecimal digit. -/
def hexDigit? (c : Char) : Option Nat :=
  if '0' ≤ c ∧ c ≤ '9' then some (c.toNat - 48)
  else if 'a' ≤ c ∧ c ≤ 'f' then some (c.toNat - 87)
  else if 'A' ≤ c ∧ c ≤ 'F' then some (c.toNat - 55)
  else none

/-- The number of bytes of a text. -/
def byteCount (text : List Char) : Nat := text.foldl (fun n c => n + c.utf8Size) 0

/-- Reads the four digits of a hexadecimal escape. -/
def readHex : Reader Nat := fun c =>
  let bad : Outcome Nat :=
    if byteCount c.rest < 4 then c.toEnd.fail .endInText
    else .error (.placed ⟨.invalidEscape, c.here.afterBytes 4 c.rest⟩)
  match c.rest with
  | w :: x :: y :: z :: _ =>
    match hexDigit? w, hexDigit? x, hexDigit? y, hexDigit? z with
    | some w, some x, some y, some z =>
      .ok (((w * 16 + x) * 16 + y) * 16 + z, c.skip 4)
    | _, _, _, _ => bad
  | _ => bad

/-- Reads one given character of an escape that cannot stop before it. -/
def readEscapePart (part : Char) (c : Cursor) : Except Failure Cursor :=
  match c.peek? with
  | none => c.fail .endInText
  | some ch => if ch = part then .ok c.next else c.failAhead .endOfHexEscape

/-- Reads a hexadecimal escape after its `u`. -/
def readUnicodeEscape : Reader Char := fun c => do
  let (unit, c) ← readHex c
  if 0xDC00 ≤ unit ∧ unit ≤ 0xDFFF then c.fail .loneSurrogate
  else if 0xD800 ≤ unit ∧ unit ≤ 0xDBFF then
    let c ← readEscapePart '\\' c
    let c ← readEscapePart 'u' c
    let (trail, c) ← readHex c
    if 0xDC00 ≤ trail ∧ trail ≤ 0xDFFF then
      return (Char.ofNat ((unit - 0xD800) * 0x400 + (trail - 0xDC00) + 0x10000), c)
    else c.fail .loneSurrogate
  else return (Char.ofNat unit, c)

/-- The character that a letter after a backslash stands for. -/
def simpleEscape? : Char → Option Char
  | '"' => some '"'
  | '\\' => some '\\'
  | '/' => some '/'
  | 'b' => some '\x08'
  | 'f' => some '\x0c'
  | 'n' => some '\n'
  | 'r' => some '\r'
  | 't' => some '\t'
  | _ => none

/-- Reads an escape after its backslash. -/
def readEscape : Reader Char := fun c =>
  match c.peek? with
  | none => c.fail .endInText
  | some 'u' => readUnicodeEscape c.next
  | some ch =>
    match simpleEscape? ch with
    | some value => .ok (value, c.next)
    | none => c.failAhead .invalidEscape

/-- Reads a text up to its closing quote, at most `fuel` characters of it. -/
def readTextWithin : Nat → Reader (List Char)
  | 0, c => c.fail .endInText
  | fuel + 1, c =>
    match c.peek? with
    | none => c.fail .endInText
    | some '"' => .ok ([], c.next)
    | some '\\' => do
      let (ch, c) ← readEscape c.next
      let (text, c) ← readTextWithin fuel c
      return (ch :: text, c)
    | some ch =>
      if ch.toNat < 0x20 then c.failAhead .controlCharacter
      else do
        let (text, c) ← readTextWithin fuel c.next
        return (ch :: text, c)

/-- Reads a text after its opening quote. -/
def readTextBody : Reader String := fun c => do
  let (text, c) ← readTextWithin (c.rest.length + 1) c
  return (String.ofList text, c)

end CourseFeed.Json
