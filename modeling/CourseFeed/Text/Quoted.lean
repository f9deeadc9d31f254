import CourseFeed.Text.Category
import CourseFeed.Text.Property

/-!
# Quoted text

**`quoted`** shows a text between double quotes so that every character of it can be seen: quotes
and backslashes take a backslash, the usual controls their letters, and any other character that
shows nothing of its own its code point. Hidden are controls, format characters, private and
unassigned code points, separators other than the space, and marks that extend the character
before them.
-/

namespace CourseFeed.Text

/-- The characters above U+007F that show nothing of their own. -/
def hiddenChars : CharSet :=
  CharSet.unions
    [Category.control, Category.format, Category.privateUse, Category.unassigned,
      Category.lineSeparator, Category.paragraphSeparator, Category.spaceSeparator,
      Property.graphemeExtend]

/-- Whether a character is shown by its code point. -/
def isHidden (c : Char) : Bool :=
  if c.toNat < 0x80 then c.toNat < 0x20 || c.toNat == 0x7F else hiddenChars.contains c

/-- What stands for a character in quoted text. -/
def quotedChar (c : Char) : List Char :=
  if c = '"' then ['\\', '"']
  else if c = '\\' then ['\\', '\\']
  else if c = '\n' then ['\\', 'n']
  else if c = '\r' then ['\\', 'r']
  else if c = '\t' then ['\\', 't']
  else if c.toNat = 0 then ['\\', '0']
  else if isHidden c then ['\\', 'u', '\x7b'] ++ Nat.toDigits 16 c.toNat ++ ['\x7d']
  else [c]

/-- A text between double quotes, with every character made visible. -/
def quoted (text : String) : String :=
  String.ofList ('"' :: text.toList.flatMap quotedChar ++ ['"'])

end CourseFeed.Text
