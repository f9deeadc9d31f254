import CourseFeed.Decimal.Shortest

/-!
# Layouts of decimals

A **`Layout`** holds what a format decides about the text of a number: which of two equally near
decimals it shows, for which sizes it writes all places out, and what follows a whole number.
Everything else is common: digits, a point, and an exponent with its sign and no leading zeros.
-/

namespace CourseFeed.Decimal

/-- What a format decides about the text of a number. -/
structure Layout where
  tie : Tie
  /-- Whether a number below `10 ^ n` and not below `10 ^ (n - 1)` has its places written out. -/
  positional : Int → Bool
  /-- What follows a whole number whose places are written out. -/
  wholeEnd : List Char

/-- The digits of a natural number. -/
def natText (n : Nat) : List Char := Nat.toDigits 10 n

/-- The digits of an integer, after a sign if it is negative. -/
def intText : Int → List Char
  | .ofNat n => natText n
  | .negSucc n => '-' :: natText (n + 1)

/-- Digits written out with the point after `point` of them. -/
def positionalText (layout : Layout) (digits : List Char) (point : Int) : List Char :=
  if point ≤ 0 then ['0', '.'] ++ List.replicate (-point).toNat '0' ++ digits
  else if point.toNat < digits.length then
    digits.take point.toNat ++ '.' :: digits.drop point.toNat
  else digits ++ List.replicate (point.toNat - digits.length) '0' ++ layout.wholeEnd

/-- Digits with the point after the first of them and the exponent that makes up for it. -/
def exponentText (digits : List Char) (point : Int) : List Char :=
  let exponent := point - 1
  digits.take 1 ++ (if digits.length ≤ 1 then [] else '.' :: digits.drop 1) ++
    ['e', if exponent < 0 then '-' else '+'] ++ natText exponent.natAbs

/-- The text of a binary number in a layout. -/
def Layout.text (layout : Layout) (x : Binary64) : List Char :=
  (if x.negative then ['-'] else []) ++
    if x.units = 0 then '0' :: layout.wholeEnd
    else
      let decimal := shortest layout.tie x.units
      let digits := natText decimal.digits
      let point := digits.length + decimal.exponent
      if layout.positional point then positionalText layout digits point
      else exponentText digits point

end CourseFeed.Decimal
