import CourseFeed.Decimal.Layout
import CourseFeed.Text.Blank

/-!
# Dates

A **`Date`** is a day of the Gregorian calendar, also reckoned before its time. It is written as
year, month and day with hyphens between them. **`Date.parse`** allows blanks before each part and
at the end, months and days of one digit and years of fewer than four; a year with a sign may have
any number of digits.
-/

namespace CourseFeed

open CourseFeed.Text CourseFeed.Decimal

/-- A day of the calendar. -/
structure Date where
  year : Int
  month : Nat
  day : Nat
  deriving Repr, DecidableEq

/-- Why a text is no date. -/
inductive DateFault where
  | tooShort
  | invalid
  | outOfRange
  | tooLong
  deriving Repr, DecidableEq

/-- The wording of a date fault. -/
def DateFault.message : DateFault → String
  | .tooShort => "premature end of input"
  | .invalid => "input contains invalid characters"
  | .outOfRange => "input is out of range"
  | .tooLong => "trailing input"

namespace Date

/-- Whether a year has a 29th of February. -/
def isLeap (year : Int) : Bool := year % 4 == 0 && (year % 100 != 0 || year % 400 == 0)

/-- The number of days of a month. -/
def daysIn (year : Int) (month : Nat) : Nat :=
  if month = 2 then if isLeap year then 29 else 28
  else if month = 4 ∨ month = 6 ∨ month = 9 ∨ month = 11 then 30
  else 31

/-- The first year of the calendar. -/
def firstYear : Int := -262143

/-- The last year of the calendar. -/
def lastYear : Int := 262142

/-- The largest number that is read. -/
def maxNumber : Nat := Nat.pow 2 63 - 1

/-- Reads up to `most` digits after the value `n`; `first` says that a digit has to come. -/
def readDigits (first : Bool) (n : Nat) : Nat → List Char → Except DateFault (Nat × List Char)
  | 0, text => .ok (n, text)
  | _ + 1, [] => if first then .error .tooShort else .ok (n, [])
  | most + 1, c :: rest =>
    if c.isDigit then
      let n := n * 10 + (c.toNat - 48)
      if maxNumber < n then .error .outOfRange else readDigits false n most rest
    else if first then .error .invalid
    else .ok (n, c :: rest)

/-- Reads a number of up to `most` digits. -/
def readNumber (most : Nat) (text : List Char) : Except DateFault (Nat × List Char) :=
  readDigits true 0 most text

/-- Reads a year: up to four digits, or a sign and any number of digits. -/
def readYear (text : List Char) : Except DateFault (Int × List Char) :=
  match dropBlanks text with
  | '-' :: rest => do
    let (n, rest) ← readNumber rest.length.succ rest
    return (-n, rest)
  | '+' :: rest => do
    let (n, rest) ← readNumber rest.length.succ rest
    return (n, rest)
  | text => do
    let (n, rest) ← readNumber 4 text
    return (n, rest)

/-- Reads a hyphen. -/
def readHyphen (text : List Char) : Except DateFault (List Char) :=
  match dropBlanks text with
  | [] => .error .tooShort
  | c :: rest => if c = '-' then .ok rest else .error .invalid

/-- Reads a number of one or two digits that lies between one and a bound. -/
def readPart (bound : Nat) (text : List Char) : Except DateFault (Nat × List Char) := do
  let (n, rest) ← readNumber 2 (dropBlanks text)
  if 1 ≤ n ∧ n ≤ bound then return (n, rest) else .error .outOfRange

/-- The date that a text is. -/
def parse (text : String) : Except DateFault Date := do
  let (year, rest) ← readYear text.toList
  if year < -(Nat.pow 2 31) ∨ Nat.pow 2 31 - 1 < year then .error .outOfRange
  else
    let (month, rest) ← readPart 12 (← readHyphen rest)
    let (day, rest) ← readPart 31 (← readHyphen rest)
    if ¬ (dropBlanks rest).isEmpty then .error .tooLong
    else if year < firstYear ∨ lastYear < year ∨ daysIn year month < day then
      .error .outOfRange
    else return ⟨year, month, day⟩

/-- A number with zeros before it up to a width. -/
def padded (width n : Nat) : List Char :=
  let digits := natText n
  List.replicate (width - digits.length) '0' ++ digits

/-- The text of a year: four digits, or a sign and at least four digits. -/
def yearText (year : Int) : List Char :=
  if 0 ≤ year ∧ year ≤ 9999 then padded 4 year.toNat
  else (if year < 0 then '-' else '+') :: padded 4 year.natAbs

/-- The text of a date. -/
def text (d : Date) : String :=
  String.ofList (yearText d.year ++ '-' :: padded 2 d.month ++ '-' :: padded 2 d.day)

end Date

end CourseFeed
