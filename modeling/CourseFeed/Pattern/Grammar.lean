import CourseFeed.Pattern.Lexeme

/-!
# The grammar of patterns

**`Expr.parse`** reads the text of a pattern. Groups, branches and bracketed classes that are still
open wait in a list of frames, so one loop that takes at least a character per round reads it all.
-/

namespace CourseFeed.Pattern

open CourseFeed.Text

/-! ## Bracketed classes -/

/-- The set of ASCII characters with a name. -/
def posixNamed? (name : String) : Option Posix :=
  if name = "alnum" then some .alnum
  else if name = "alpha" then some .alpha
  else if name = "ascii" then some .ascii
  else if name = "blank" then some .blank
  else if name = "cntrl" then some .cntrl
  else if name = "digit" then some .digit
  else if name = "graph" then some .graph
  else if name = "lower" then some .lower
  else if name = "print" then some .print
  else if name = "punct" then some .punct
  else if name = "space" then some .space
  else if name = "upper" then some .upper
  else if name = "word" then some .word
  else if name = "xdigit" then some .xdigit
  else none

/-- Reads a named set of ASCII characters between `[:` and `:]`, if one stands here. -/
def readPosix? (text : List Char) : Option (ClassItem × List Char) :=
  match text with
  | '[' :: ':' :: rest =>
    let negated := rest.head? = some '^'
    let rest := if negated then rest.tail else rest
    match rest.dropWhile (· != ':') with
    | ':' :: ']' :: after =>
      (posixNamed? (String.ofList (rest.takeWhile (· != ':')))).map fun kind =>
        (.posix kind negated, after)
    | _ => none
  | _ => none

/-- A class item or an operation that waits for what follows it. -/
inductive ClassFrame where
  | opened (before : List ClassItem) (negated : Bool)
  | operation (operation : SetOperation) (left : ClassBody)

/-- The item that a part makes alone. -/
def classItemOf : Expr → Except Error ClassItem
  | .literal literal => .ok (.literal literal)
  | .perl kind negated => .ok (.perl kind negated)
  | .property query negated => .ok (.property query negated)
  | _ => .error .classEscapeInvalid

/-- The character that a part makes as an end of a range. -/
def rangeEndOf : Expr → Except Error Literal
  | .literal literal => .ok literal
  | _ => .error .classRangeBoundary

/-- Reads a character or an escape of a class. -/
def readClassPart (spaced : Bool) (text : List Char) : Except Error (Expr × List Char) :=
  match text with
  | [] => .error .classUnclosed
  | '\\' :: _ => readEscape spaced text
  | c :: rest => .ok (.literal ⟨c, false⟩, rest)

/-- Reads an item of a class: a range, or a part alone. -/
def readClassRange (spaced : Bool) (text : List Char) :
    Except Error (ClassItem × List Char) := do
  let (first, text) ← readClassPart spaced text
  let text := settle spaced text
  if text.isEmpty then .error .classUnclosed
  let next := peekSettled spaced text
  if text.head? ≠ some '-' ∨ next = some ']' ∨ next = some '-' then
    return (← classItemOf first, text)
  else
    let text := advance spaced text
    if text.isEmpty then .error .classUnclosed
    let (last, text) ← readClassPart spaced text
    let first ← rangeEndOf first
    let last ← rangeEndOf last
    if last.char < first.char then .error .classRangeInvalid
    else return (.range first last, text)

/-- Reads the hyphens that stand for themselves at the start of a class, at most `fuel`. -/
def readHyphens (spaced : Bool) : Nat → List Char → List ClassItem × List Char
  | 0, text => ([], text)
  | fuel + 1, text =>
    if text.head? = some '-' then
      let (items, rest) := readHyphens spaced fuel (advance spaced text)
      (.literal ⟨'-', false⟩ :: items, rest)
    else ([], text)

/-- Reads the start of a class, from its bracket on: whether it is negated, and the hyphens or the
    bracket that stand for themselves there. -/
def readClassOpen (spaced : Bool) (text : List Char) :
    Except Error ((Bool × List ClassItem) × List Char) := do
  let text := advance spaced text
  let negated := text.head? = some '^'
  let text := if negated then advance spaced text else text
  let (hyphens, text) := readHyphens spaced (text.length + 1) text
  match text with
  | [] => .error .classUnclosed
  | ']' :: _ =>
    if hyphens.isEmpty then
      let text := advance spaced text
      if text.isEmpty then .error .classUnclosed
      else return ((negated, [.literal ⟨']', false⟩]), text)
    else return ((negated, hyphens), text)
  | _ => return ((negated, hyphens), text)

/-- The body that some items make, as the right side of an operation that waits for one. -/
def closeOperation (frames : List ClassFrame) (items : List ClassItem) :
    List ClassFrame × ClassBody :=
  match frames with
  | .operation operation left :: rest => (rest, .operation operation left (.items items))
  | _ => (frames, .items items)

/-- The set operation that two equal characters stand for. -/
def setOperation? (text : List Char) : Option (SetOperation × List Char) :=
  match text with
  | '&' :: '&' :: rest => some (.intersection, rest)
  | '-' :: '-' :: rest => some (.difference, rest)
  | '~' :: '~' :: rest => some (.symmetricDifference, rest)
  | _ => none

/-- Reads a class; `frames` wait, and `items` stand before the text in the innermost class. -/
def readClassWithin (spaced : Bool) :
    Nat → List ClassFrame → List ClassItem → List Char → Except Error (Expr × List Char)
  | 0, _, _, _ => .error .classUnclosed
  | fuel + 1, frames, items, text =>
    let text := settle spaced text
    match text with
    | [] => .error .classUnclosed
    | '[' :: _ =>
      match if frames.isEmpty then none else readPosix? text with
      | some (item, rest) => readClassWithin spaced fuel frames (items ++ [item]) rest
      | none => do
        let ((negated, start), rest) ← readClassOpen spaced text
        readClassWithin spaced fuel (.opened items negated :: frames) start rest
    | ']' :: rest =>
      match closeOperation frames items with
      | ([.opened _ negated], body) => .ok (.bracketed negated body, rest)
      | (.opened before negated :: frames, body) =>
        readClassWithin spaced fuel frames (before ++ [.bracketed negated body]) rest
      | _ => .error .classUnclosed
    | _ =>
      match setOperation? text with
      | some (operation, rest) =>
        let (frames, left) := closeOperation frames items
        readClassWithin spaced fuel (.operation operation left :: frames) [] rest
      | none => do
        let (item, rest) ← readClassRange spaced text
        readClassWithin spaced fuel frames (items ++ [item]) rest

/-- Reads a class from its bracket on. -/
def readClass (spaced : Bool) (text : List Char) : Except Error (Expr × List Char) :=
  readClassWithin spaced (text.length + 1) [] [] text

/-! ## Groups, branches and repetitions -/

/-- A group or a choice of branches that waits for its end. -/
inductive Frame where
  | group (before : List Expr) (flags : List FlagItem) (spaced : Bool)
  | branches (before : List Expr)

/-- How far a pattern is read: what waits, the parts of the present branch with the latest first,
    whether the text is spaced, and the names of groups. -/
structure Progress where
  frames : List Frame
  parts : List Expr
  spaced : Bool
  names : List String

/-- Nothing read yet. -/
def Progress.start : Progress := ⟨[], [], false, []⟩

/-- The present branch as one pattern. -/
def Progress.branch (p : Progress) : Expr := Expr.ofParts p.parts.reverse

/-- The progress with one more part in the present branch. -/
def Progress.push (p : Progress) (part : Expr) : Progress := { p with parts := part :: p.parts }

/-- Opens a group; its flags may change whether the text is spaced. -/
def Progress.openGroup (p : Progress) (flags : List FlagItem) : Progress :=
  { p with
    frames := .group p.parts flags p.spaced :: p.frames
    parts := []
    spaced := (flagState .spaced true flags).getD p.spaced }

/-- Ends a branch and begins another. -/
def Progress.nextBranch (p : Progress) : Progress :=
  match p.frames with
  | .branches before :: rest =>
    { p with frames := .branches (before ++ [p.branch]) :: rest, parts := [] }
  | frames => { p with frames := .branches [p.branch] :: frames, parts := [] }

/-- The branches that end here as one pattern, and the frames around them. -/
def Progress.endBranches (p : Progress) : Expr × List Frame :=
  match p.frames with
  | .branches before :: rest => (.alternation (before ++ [p.branch]), rest)
  | frames => (p.branch, frames)

/-- Ends a group. -/
def Progress.closeGroup (p : Progress) : Except Error Progress :=
  match p.endBranches with
  | (body, .group before flags spaced :: rest) =>
    .ok { p with frames := rest, parts := .group flags body :: before, spaced := spaced }
  | _ => .error .groupUnopened

/-- Ends the pattern. -/
def Progress.finish (p : Progress) : Except Error Expr :=
  match p.endBranches with
  | (body, []) => if nestingLimit < body.depth then .error .tooDeep else .ok body
  | _ => .error .groupUnclosed

/-- Whether a text begins with another. -/
def startsWith (start : String) (text : List Char) : Bool := start.toList.isPrefixOf text

/-- Reads the start of a group from its parenthesis on, or flags for what follows. -/
def readGroup (p : Progress) (text : List Char) : Except Error (Progress × List Char) :=
  let text := advance p.spaced text
  if startsWith "?=" text || startsWith "?!" text || startsWith "?<=" text ||
      startsWith "?<!" text then .error .lookAround
  else if startsWith "?P<" text || startsWith "?<" text then do
    let text := if startsWith "?P<" text then text.drop 3 else text.drop 2
    let (name, text) ← readGroupName p.names text
    let p := p.openGroup []
    return ({ p with names := name :: p.names }, text)
  else if startsWith "?" text then do
    let text := text.tail
    if text.isEmpty then .error .groupUnclosed
    let (flags, text) ← readFlags [] text
    if text.head? = some ')' then
      if flags.isEmpty then .error .repetitionMissing
      else
        let p := p.push (.flags flags)
        return ({ p with spaced := (flagState .spaced true flags).getD p.spaced }, text.tail)
    else return (p.openGroup flags, text.tail)
  else .ok (p.openGroup [], text)

/-- Takes the part that a repetition repeats off the present branch. -/
def Progress.popRepeated (p : Progress) : Except Error (Expr × Progress) :=
  match p.parts with
  | [] => .error .repetitionMissing
  | .empty :: _ => .error .repetitionMissing
  | .flags _ :: _ => .error .repetitionMissing
  | part :: rest => .ok (part, { p with parts := rest })

/-- A text without the question mark that makes a repetition reluctant. -/
def dropReluctant (text : List Char) : List Char :=
  if text.head? = some '?' then text.tail else text

/-- Reads a repetition of the latest part with given counts, its sign being a character. -/
def readSimpleRepetition (p : Progress) (least : Nat) (most : Option Nat) (text : List Char) :
    Except Error (Progress × List Char) := do
  let (part, p) ← p.popRepeated
  return (p.push (.repetition part least most), dropReluctant text.tail)

/-- Reads a repetition of the latest part with its counts in braces. -/
def readCountedRepetition (p : Progress) (text : List Char) :
    Except Error (Progress × List Char) := do
  let (part, p) ← p.popRepeated
  let ((least, most), text) ← readCounts p.spaced text
  let text := dropReluctant text
  if most.any (· < least) then .error .countsReversed
  else return (p.push (.repetition part least most), text)

/-- Reads on by one step; the text is not empty and begins with what stands for something. -/
def readStep (p : Progress) (text : List Char) : Except Error (Progress × List Char) :=
  match text with
  | [] => .ok (p, [])
  | c :: rest =>
    match c with
    | '(' => readGroup p text
    | ')' => do return (← p.closeGroup, rest)
    | '|' => .ok (p.nextBranch, rest)
    | '[' => do
      let (part, rest) ← readClass p.spaced text
      return (p.push part, rest)
    | '?' => readSimpleRepetition p 0 (some 1) text
    | '*' => readSimpleRepetition p 0 none text
    | '+' => readSimpleRepetition p 1 none text
    | '{' => readCountedRepetition p text
    | '\\' => do
      let (part, rest) ← readEscape p.spaced text
      return (p.push part, rest)
    | '.' => .ok (p.push .dot, rest)
    | '^' => .ok (p.push (.assertion .lineStart), rest)
    | '$' => .ok (p.push (.assertion .lineEnd), rest)
    | c => .ok (p.push (.literal ⟨c, false⟩), rest)

/-- Reads to the end of a pattern in at most `fuel` steps. -/
def readWithin : Nat → Progress → List Char → Except Error Expr
  | 0, p, _ => p.finish
  | fuel + 1, p, text =>
    match settle p.spaced text with
    | [] => p.finish
    | text => do
      let (p, text) ← readStep p text
      readWithin fuel p text

/-- The pattern that a text holds. -/
def Expr.parse (text : String) : Except Error Expr :=
  readWithin (text.length + 1) .start text.toList

end CourseFeed.Pattern
