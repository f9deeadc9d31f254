import CourseFeed.Json.Cursor

/-!
# Reading numbers

A number without point and exponent that fits 64 bits is an integer, except minus zero. Any other
is a binary number: as many leading digits as fit an unsigned word of 64 bits, times or divided by
a power of ten, each step rounded.
-/

namespace CourseFeed.Json

open CourseFeed.Decimal

/-- The largest unsigned word. -/
def maxWord : Nat := Nat.pow 2 64 - 1

/-- The value of a decimal digit. -/
def digit? (c : Char) : Option Nat :=
  if '0' ≤ c ∧ c ≤ '9' then some (c.toNat - 48) else none

/-- Reads the digits at the front of a text. -/
def digitsFrom (here : Position) : List Char → List Nat × Cursor
  | [] => ([], ⟨[], here⟩)
  | c :: rest =>
    match digit? c with
    | none => ([], ⟨c :: rest, here⟩)
    | some d =>
      let (ds, c') := digitsFrom (here.after c) rest
      (d :: ds, c')

/-- Reads the digits at a cursor. -/
def readDigits (c : Cursor) : List Nat × Cursor := digitsFrom c.here c.rest

/-- Appends digits to a number while the result is at most `limit`; gives the rest of them. -/
def appendWithin (limit n : Nat) : List Nat → Nat × List Nat
  | [] => (n, [])
  | d :: ds => if n * 10 + d ≤ limit then appendWithin limit (n * 10 + d) ds else (n, d :: ds)

/-- The binary number nearest to a power of ten. -/
def powerOfTen (n : Nat) : Binary64 := Binary64.ofNat (Nat.pow 10 n)

/-- Divides by powers of ten, at most by ten to the 308th at a time. -/
def divideByTens (x : Binary64) (exponent : Nat) : Nat → Option Binary64
  | 0 => some x
  | fuel + 1 =>
    if exponent ≤ 308 then x.div? (powerOfTen exponent)
    else if x.units = 0 then some x
    else (x.div? (powerOfTen 308)).bind fun y => divideByTens y (exponent - 308) fuel

/-- A whole number times a power of ten, or `none` when it is too large. -/
def scaled? (significand : Nat) (exponent : Int) : Option Binary64 :=
  let x := Binary64.ofNat significand
  match exponent with
  | .ofNat n =>
    if n ≤ 308 then x.mul? (powerOfTen n) else if x.units = 0 then some x else none
  | .negSucc n => divideByTens x (n + 1) 4

/-- Gives a binary number its sign. -/
def signed (negative : Bool) (x : Binary64) : Number := .float (if negative then x.neg else x)

/-- The number made of a significand and an exponent, once its text is read up to `c`. -/
def finishFloat (negative : Bool) (significand : Nat) (exponent : Int) (c : Cursor) :
    Outcome Number :=
  match scaled? significand exponent with
  | some x => .ok (signed negative x, c)
  | none => c.fail .numberOutOfRange

/-- The largest magnitude of an exponent. -/
def maxExponent : Nat := Nat.pow 2 31 - 1

/-- Keeps a sum of exponents within a signed word of 32 bits. -/
def clampExponent (e : Int) : Int := max (-(Nat.pow 2 31)) (min (Nat.pow 2 31 - 1) e)

/-- The cursor after the first of some ASCII characters. -/
def Cursor.skip (c : Cursor) : Nat → Cursor
  | 0 => c
  | n + 1 => c.next.skip n

/-- Reads an exponent, from the letter on. -/
def readExponent (negative : Bool) (significand : Nat) (exponent : Int) (c : Cursor) :
    Outcome Number :=
  let c := c.next
  let down := c.peek? = some '-'
  let c := if down ∨ c.peek? = some '+' then c.next else c
  match c.peek? with
  | none => c.fail .endInValue
  | some ch =>
    if (digit? ch).isNone then c.failAhead .invalidNumber
    else
      let (ds, after) := readDigits c
      match appendWithin maxExponent 0 ds with
      | (n, []) =>
        finishFloat negative significand
          (clampExponent (if down then exponent - n else exponent + n)) after
      | (_, rest) =>
        if significand ≠ 0 ∧ ¬ down then
          (c.skip (ds.length - rest.length + 1)).fail .numberOutOfRange
        else .ok (signed negative ⟨false, 0⟩, after)

/-- Reads what may follow the digits of a binary number. -/
def finishOrExponent (negative : Bool) (significand : Nat) (exponent : Int) (c : Cursor) :
    Outcome Number :=
  if c.peek? = some 'e' ∨ c.peek? = some 'E' then readExponent negative significand exponent c
  else finishFloat negative significand exponent c

/-- Reads the decimal places, from the point on. -/
def readPlaces (negative : Bool) (significand : Nat) (exponent : Int) (c : Cursor) :
    Outcome Number :=
  let c := c.next
  match readDigits c with
  | ([], after) =>
    after.failAhead (if after.rest.isEmpty then .endInValue else .invalidNumber)
  | (ds, after) =>
    let (significand, rest) := appendWithin maxWord significand ds
    finishOrExponent negative significand (exponent - (ds.length - rest.length : Nat)) after

/-- An integer from its sign and its digits; minus zero and what no signed word holds are binary
    numbers. -/
def integerOf (negative : Bool) (significand : Nat) : Number :=
  if ¬ negative then .int significand
  else if 0 < significand ∧ significand ≤ Nat.pow 2 63 then .int (-(significand : Int))
  else signed true (Binary64.ofNat significand)

/-- Reads what follows the whole digits, `dropped` of which no longer fit. -/
def readAfterWhole (negative : Bool) (significand dropped : Nat) (c : Cursor) : Outcome Number :=
  if c.peek? = some '.' then readPlaces negative significand dropped c
  else if c.peek? = some 'e' ∨ c.peek? = some 'E' then
    readExponent negative significand dropped c
  else if dropped = 0 then .ok (integerOf negative significand, c)
  else finishFloat negative significand dropped c

/-- Reads a number after its sign. -/
def readUnsigned (negative : Bool) : Reader Number := fun c =>
  match c.rest with
  | [] => c.fail .endInValue
  | '0' :: _ =>
    let c := c.next
    if (c.peek?.bind digit?).isSome then c.failAhead .invalidNumber
    else readAfterWhole negative 0 0 c
  | ch :: _ =>
    if (digit? ch).isNone then c.failAhead .invalidNumber
    else
      let (ds, after) := readDigits c
      let (significand, rest) := appendWithin maxWord 0 ds
      readAfterWhole negative significand rest.length after

/-- Reads a number. -/
def readNumber : Reader Number := fun c =>
  if c.peek? = some '-' then readUnsigned true c.next else readUnsigned false c

end CourseFeed.Json
