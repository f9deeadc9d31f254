/-!
# Journals

What a run notes down on its way: an **`JournalEntry`** has a level, the part of the program that
made it and a message. A journal keeps the entries from some level on.
-/

namespace CourseFeed

/-- How much an entry matters. -/
inductive Level where
  | debug
  | info
  deriving Repr, DecidableEq

/-- The name of a level, five characters wide. -/
def Level.label : Level → String
  | .debug => "DEBUG"
  | .info => " INFO"

/-- Whether a journal that keeps entries from level `least` on keeps those of a level. -/
def Level.keptFrom (least : Level) : Level → Bool
  | .debug => least = .debug
  | .info => true

/-- What is noted down. -/
structure JournalEntry where
  level : Level
  part : String
  message : String
  /-- Named values behind the message. -/
  values : List (String × String)
  deriving Repr, DecidableEq

namespace JournalEntry

/-- An entry without named values. -/
def plain (level : Level) (part message : String) : JournalEntry := ⟨level, part, message, []⟩

/-- What stands for a character of a message. Controls that rule a terminal are spelled out. -/
def messageChar (c : Char) : List Char :=
  let n := c.toNat
  if n = 0x1B then "\\x1b".toList
  else if n = 0x07 then "\\x07".toList
  else if n = 0x08 then "\\x08".toList
  else if n = 0x0C then "\\x0c".toList
  else if n = 0x7F then "\\x7f".toList
  else if 0x80 ≤ n ∧ n ≤ 0x9F then
    ['\\', 'u', '\x7b'] ++ Nat.toDigits 16 n ++ ['\x7d']
  else [c]

/-- The line of an entry made at a time. -/
def line (e : JournalEntry) (time : String) : String :=
  time ++ " " ++ e.level.label ++ " " ++ e.part ++ ": " ++
    String.ofList (e.message.toList.flatMap messageChar) ++
    String.join (e.values.map fun (name, value) => " " ++ name ++ "=" ++ value) ++ "\n"

end JournalEntry

end CourseFeed
