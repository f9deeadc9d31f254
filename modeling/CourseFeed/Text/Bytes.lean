/-!
# Texts as bytes

Files hold bytes; a text is written as its UTF-8 bytes. **`decodeUtf8?`** reads them back, and
**`validLength`** says how many bytes at the front of a list are the bytes of whole characters.
-/

namespace CourseFeed.Text

/-- The bytes of a text. -/
def encodeUtf8 (text : String) : List UInt8 := text.toUTF8.data.toList

/-- The text that some bytes are. -/
def decodeUtf8? (bytes : List UInt8) : Option String := String.fromUTF8? ⟨bytes.toArray⟩

/-- Whether a byte continues a character, and lies between two bounds. -/
def isTail (lo hi : Nat) (b : UInt8) : Bool := lo ≤ b.toNat && b.toNat ≤ hi

/-- The number of bytes of the character at the front, or `none` where no character stands. -/
def charLength? : List UInt8 → Option Nat
  | [] => none
  | a :: rest =>
    let n := a.toNat
    if n < 0x80 then some 1
    else
      let need := fun (bounds : List (Nat × Nat)) =>
        if bounds.length ≤ rest.length &&
            (bounds.zip rest).all fun (bound, b) => isTail bound.1 bound.2 b then
          some (bounds.length + 1)
        else none
      let any := (0x80, 0xBF)
      if 0xC2 ≤ n ∧ n ≤ 0xDF then need [any]
      else if n = 0xE0 then need [(0xA0, 0xBF), any]
      else if n = 0xED then need [(0x80, 0x9F), any]
      else if 0xE1 ≤ n ∧ n ≤ 0xEF then need [any, any]
      else if n = 0xF0 then need [(0x90, 0xBF), any, any]
      else if 0xF1 ≤ n ∧ n ≤ 0xF3 then need [any, any, any]
      else if n = 0xF4 then need [(0x80, 0x8F), any, any]
      else none

/-- How many bytes at the front of a list are whole characters, at most `fuel` of them. -/
def validLengthWithin : Nat → List UInt8 → Nat
  | 0, _ => 0
  | fuel + 1, bytes =>
    match charLength? bytes with
    | none => 0
    | some n => n + validLengthWithin fuel (bytes.drop n)

/-- How many bytes at the front of a list are whole characters. -/
def validLength (bytes : List UInt8) : Nat := validLengthWithin bytes.length bytes

end CourseFeed.Text
