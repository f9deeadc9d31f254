import CourseFeed.Json.Tree

/-!
# Skipping values

A value that nobody asks for is skipped: its text has to be JSON, but numbers may be of any size,
surrogates need not be paired and lists and objects may nest to any depth. The brackets that are
open wait in a list.
-/

namespace CourseFeed.Json

/-- The brackets that can be open. -/
inductive Bracket where
  | list
  | object
  deriving Repr, DecidableEq

/-- Skips the digits of an exponent, from its letter on. -/
def skipExponent (c : Cursor) : Except Failure Cursor :=
  let c := c.next
  let c := if c.peek? = some '-' ∨ c.peek? = some '+' then c.next else c
  match c.peek?.bind digit? with
  | none => if c.rest.isEmpty then c.fail .invalidNumber else c.failAhead .invalidNumber
  | some _ => .ok (readDigits c).2

/-- Skips what may follow the digits of a number before its exponent. -/
def skipAfterDigits (c : Cursor) : Except Failure Cursor :=
  if c.peek? = some 'e' ∨ c.peek? = some 'E' then skipExponent c else .ok c

/-- Skips a number after its sign. -/
def skipNumber (c : Cursor) : Except Failure Cursor := do
  match c.peek?.bind digit? with
  | none => if c.rest.isEmpty then c.fail .invalidNumber else c.failAhead .invalidNumber
  | some 0 =>
    let c := c.next
    if (c.peek?.bind digit?).isSome then c.failAhead .invalidNumber
    else skipPlaces c
  | some _ => skipPlaces (readDigits c).2
where
  /-- Skips decimal places and an exponent. -/
  skipPlaces (c : Cursor) : Except Failure Cursor :=
    if c.peek? = some '.' then
      match readDigits c.next with
      | ([], c) => c.failAhead .invalidNumber
      | (_, c) => skipAfterDigits c
    else skipAfterDigits c

/-- Skips an escape after its backslash. -/
def skipEscape (c : Cursor) : Except Failure Cursor :=
  match c.peek? with
  | none => c.fail .endInText
  | some 'u' => (readHex c.next).map Prod.snd
  | some ch => if (simpleEscape? ch).isSome then .ok c.next else c.failAhead .invalidEscape

/-- Skips a text after its opening quote, at most `fuel` characters of it. -/
def skipTextWithin : Nat → Cursor → Except Failure Cursor
  | 0, c => c.fail .endInText
  | fuel + 1, c =>
    match c.peek? with
    | none => c.fail .endInText
    | some '"' => .ok c.next
    | some '\\' => do skipTextWithin fuel (← skipEscape c.next)
    | some ch =>
      if ch.toNat < 0x20 then c.fail .controlCharacter else skipTextWithin fuel c.next

/-- Skips a text after its opening quote. -/
def skipText (c : Cursor) : Except Failure Cursor := skipTextWithin (c.rest.length + 1) c

/-- Skips the name and the colon of a member. -/
def skipName (c : Cursor) : Except Failure Cursor :=
  let c := c.skipSpace
  match c.peek? with
  | none => c.failAhead .endInObject
  | some '"' => do readColon (← skipText c.next)
  | some _ => c.failAhead .keyNotText

/-- Skips to the value of the next item or member. -/
def skipToValue (bracket : Bracket) (c : Cursor) : Except Failure Cursor :=
  match bracket with
  | .list => .ok c
  | .object => skipName c

/-- What is skipped next: a value, or what follows an opening bracket or a value in the innermost
    open bracket. -/
inductive SkipState where
  | value
  | opened (bracket : Bracket)
  | closed

/-- The closing bracket. -/
def Bracket.close : Bracket → Char
  | .list => ']'
  | .object => '\x7d'

/-- The problem when a text ends inside a bracket. -/
def Bracket.endProblem : Bracket → Problem
  | .list => .endInList
  | .object => .endInObject

/-- The problem when neither a comma nor the closing bracket follows a value. -/
def Bracket.separatorProblem : Bracket → Problem
  | .list => .listSeparatorExpected
  | .object => .objectSeparatorExpected

/-- Skips on until no bracket is open, in at most `fuel` steps. -/
def skipWithin : Nat → SkipState → List Bracket → Cursor → Except Failure Cursor
  | 0, _, _, c => c.fail .endInValue
  | fuel + 1, state, stack, c =>
    let c := c.skipSpace
    match state with
    | .value =>
      match c.peek? with
      | none => c.failAhead .endInValue
      | some 'n' => do skipWithin fuel .closed stack (← readWord ['u', 'l', 'l'] c.next)
      | some 't' => do skipWithin fuel .closed stack (← readWord ['r', 'u', 'e'] c.next)
      | some 'f' => do skipWithin fuel .closed stack (← readWord ['a', 'l', 's', 'e'] c.next)
      | some '"' => do skipWithin fuel .closed stack (← skipText c.next)
      | some '[' => skipWithin fuel (.opened .list) (.list :: stack) c.next
      | some '{' => skipWithin fuel (.opened .object) (.object :: stack) c.next
      | some '-' => do skipWithin fuel .closed stack (← skipNumber c.next)
      | some ch =>
        if (digit? ch).isSome then do skipWithin fuel .closed stack (← skipNumber c)
        else c.failAhead .valueExpected
    | .opened bracket =>
      match c.peek? with
      | none => c.failAhead bracket.endProblem
      | some ch =>
        if ch = bracket.close then skipWithin fuel .closed stack.tail c.next
        else do skipWithin fuel .value stack (← skipToValue bracket c)
    | .closed =>
      match stack with
      | [] => .ok c
      | bracket :: rest =>
        match c.peek? with
        | none => c.failAhead bracket.endProblem
        | some ch =>
          if ch = ',' then do skipWithin fuel .value stack (← skipToValue bracket c.next)
          else if ch = bracket.close then skipWithin fuel .closed rest c.next
          else c.failAhead bracket.separatorProblem

/-- Skips a value. -/
def skipValue (c : Cursor) : Except Failure Cursor :=
  skipWithin (3 * c.rest.length + 3) .value [] c

end CourseFeed.Json
