import CourseFeed.Text.CharSet

/-!
# Blanks

The blanks are the characters with the White_Space property: tab to carriage return, the space,
and the other characters that show as a gap or a break. **`trim`** cuts them off both ends of a
text.
-/

namespace CourseFeed.Text

/-- The characters with the White_Space property. -/
def blanks : CharSet :=
  ⟨[(0x9, 0xD), (0x20, 0x20), (0x85, 0x85), (0xA0, 0xA0), (0x1680, 0x1680), (0x2000, 0x200A),
    (0x2028, 0x2029), (0x202F, 0x202F), (0x205F, 0x205F), (0x3000, 0x3000)]⟩

/-- Whether a character is a blank. -/
def isBlank (c : Char) : Bool := blanks.contains c

/-- A text without the blanks at its start. -/
def dropBlanks (text : List Char) : List Char := text.dropWhile isBlank

/-- A text without the blanks at its end. -/
def dropBlanksEnd (text : List Char) : List Char := (dropBlanks text.reverse).reverse

/-- A text without the blanks at its ends. -/
def trimBlanks (text : List Char) : List Char := dropBlanksEnd (dropBlanks text)

/-- A string without the blanks at its ends. -/
def trim (text : String) : String := String.ofList (trimBlanks text.toList)

end CourseFeed.Text
