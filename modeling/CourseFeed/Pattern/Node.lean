import CourseFeed.Pattern.CharClass
import CourseFeed.Pattern.Grammar

/-!
# Patterns as understood

A **`Node`** is a pattern whose flags are applied and whose sets are looked up: one character of a
set, a condition on a place, and their sequences, choices and repetitions. **`Expr.interpret`**
makes the node of a pattern as written, and refuses what could match half a character.

Without the Unicode flag letters and classes stand for ASCII characters only. A complement of such
a class would hold bytes that are no characters, so it is refused.
-/

namespace CourseFeed.Pattern

open CourseFeed.Text

/-- A condition on the characters around a place; `unicode` says which characters make words. -/
inductive Look where
  | start
  | stop
  | lineStart
  | lineEnd
  | lineStartOrReturn
  | lineEndOrReturn
  | boundary (unicode : Bool)
  | noBoundary (unicode : Bool)
  | wordStart (unicode : Bool)
  | wordEnd (unicode : Bool)
  | wordStartHalf (unicode : Bool)
  | wordEndHalf (unicode : Bool)
  deriving Repr, DecidableEq

/-- A pattern as understood. -/
inductive Node where
  | empty
  | chars (set : CharSet)
  | look (look : Look)
  | cat (first second : Node)
  | alt (first second : Node)
  | repetition (body : Node) (least : Nat) (most : Option Nat)

/-- The flags that rule the meaning of a part. -/
structure Flags where
  ignoreCase : Bool
  multiLine : Bool
  dotMatchesAll : Bool
  unicode : Bool
  carriageReturns : Bool

/-- The flags at the start of a pattern. -/
def Flags.start : Flags := ⟨false, false, false, true, false⟩

/-- The flags after a flag list. -/
def Flags.apply (flags : Flags) (items : List FlagItem) : Flags :=
  { ignoreCase := (flagState .ignoreCase true items).getD flags.ignoreCase
    multiLine := (flagState .multiLine true items).getD flags.multiLine
    dotMatchesAll := (flagState .dotMatchesAll true items).getD flags.dotMatchesAll
    unicode := (flagState .unicode true items).getD flags.unicode
    carriageReturns := (flagState .carriageReturns true items).getD flags.carriageReturns }

/-- The condition that an assertion makes under some flags. -/
def Assertion.look (flags : Flags) : Assertion → Look
  | .lineStart =>
    if flags.multiLine then
      if flags.carriageReturns then .lineStartOrReturn else .lineStart
    else .start
  | .lineEnd =>
    if flags.multiLine then if flags.carriageReturns then .lineEndOrReturn else .lineEnd
    else .stop
  | .textStart => .start
  | .textEnd => .stop
  | .boundary => .boundary flags.unicode
  | .noBoundary => .noBoundary flags.unicode
  | .wordStart => .wordStart flags.unicode
  | .wordEnd => .wordEnd flags.unicode
  | .wordStartHalf => .wordStartHalf flags.unicode
  | .wordEndHalf => .wordEndHalf flags.unicode

/-- A set closed under case where case is ignored. -/
def Flags.fold (flags : Flags) (set : CharSet) : CharSet :=
  if flags.ignoreCase then if flags.unicode then set.foldClosed else set.foldClosedAscii
  else set

/-- A set or its complement. -/
def Flags.negate (flags : Flags) (negated : Bool) (set : CharSet) : Except Error CharSet :=
  if ¬ negated then .ok set
  else if flags.unicode then .ok set.complement
  else .error .halfCharacter

/-- Refuses a literal that stands for half a character. -/
def Flags.checkLiteral (flags : Flags) (literal : Literal) : Except Error Unit :=
  if ¬ flags.unicode ∧ literal.byte ∧ 0x80 ≤ literal.char.toNat then .error .halfCharacter
  else .ok ()

/-- The node of a literal. -/
def Literal.interpret (flags : Flags) (literal : Literal) : Except Error Node := do
  flags.checkLiteral literal
  return .chars (flags.fold (CharSet.singleton literal.char))

/-- The code point of a literal in a class. -/
def Literal.classCode (flags : Flags) (literal : Literal) : Except Error Nat := do
  flags.checkLiteral literal
  if ¬ flags.unicode ∧ 0x80 ≤ literal.char.toNat then .error .unicodeNotAllowed
  else return literal.char.toNat

/-- The set that a letter stands for under some flags. -/
def Perl.interpret (flags : Flags) (negated : Bool) (kind : Perl) : Except Error CharSet :=
  flags.negate negated (kind.chars flags.unicode)

/-- The set that a property query asks for under some flags. -/
def PropertyQuery.interpret (flags : Flags) (negated : Bool) (query : PropertyQuery) :
    Except Error CharSet := do
  if ¬ flags.unicode then .error .unicodeNotAllowed
  else flags.negate negated (flags.fold (← query.chars))

/-- The set that an operation makes of two. -/
def SetOperation.apply (left right : CharSet) : SetOperation → CharSet
  | .intersection => left.inter right
  | .difference => left.diff right
  | .symmetricDifference => left.symmDiff right

mutual

/-- The set of a class item. -/
def ClassItem.interpret (flags : Flags) : ClassItem → Except Error CharSet
  | .literal literal => do
    let code ← literal.classCode flags
    return CharSet.ofSpans [(code, code)]
  | .range first last => do
    let lo ← first.classCode flags
    let hi ← last.classCode flags
    return CharSet.ofSpans [(lo, hi)]
  | .posix kind negated => flags.negate negated (flags.fold kind.chars)
  | .perl kind negated => kind.interpret flags negated
  | .property query negated => query.interpret flags negated
  | .bracketed negated body => do
    flags.negate negated (flags.fold (← body.interpret flags))

/-- The set of a class body. -/
def ClassBody.interpret (flags : Flags) : ClassBody → Except Error CharSet
  | .items items => do return CharSet.unions (← interpretItems flags items)
  | .operation operation left right => do
    let left ← left.interpret flags
    let right ← right.interpret flags
    return operation.apply (flags.fold left) (flags.fold right)

/-- The sets of class items. -/
def interpretItems (flags : Flags) : List ClassItem → Except Error (List CharSet)
  | [] => .ok []
  | item :: rest => do
    let set ← item.interpret flags
    return set :: (← interpretItems flags rest)

end

/-- The characters that a dot stands for. -/
def Flags.dotChars (flags : Flags) : CharSet :=
  if flags.dotMatchesAll then CharSet.all
  else if flags.carriageReturns then
    (CharSet.ofSpans [(0xA, 0xA), (0xD, 0xD)]).complement
  else (CharSet.singleton '\n').complement

mutual

/-- The node of a pattern, and the flags that rule what follows it in its group. -/
def Expr.interpret (flags : Flags) : Expr → Except Error (Node × Flags)
  | .empty => .ok (.empty, flags)
  | .flags items => .ok (.empty, flags.apply items)
  | .literal literal => do return (← literal.interpret flags, flags)
  | .dot => if flags.unicode then .ok (.chars flags.dotChars, flags) else .error .halfCharacter
  | .assertion assertion => .ok (.look (assertion.look flags), flags)
  | .perl kind negated => do return (.chars (← kind.interpret flags negated), flags)
  | .property query negated => do return (.chars (← query.interpret flags negated), flags)
  | .bracketed negated body => do
    let set ← flags.negate negated (flags.fold (← body.interpret flags))
    return (.chars set, flags)
  | .repetition body least most => do
    let (node, flags) ← body.interpret flags
    return (.repetition node least most, flags)
  | .group items body => do
    let (node, _) ← body.interpret (flags.apply items)
    return (node, flags)
  | .alternation branches => interpretBranches flags branches
  | .concat parts => interpretParts flags parts

/-- The choice between the nodes of some patterns. -/
def interpretBranches (flags : Flags) : List Expr → Except Error (Node × Flags)
  | [] => .ok (.empty, flags)
  | [branch] => branch.interpret flags
  | branch :: rest => do
    let (first, flags) ← branch.interpret flags
    let (second, flags) ← interpretBranches flags rest
    return (.alt first second, flags)

/-- The sequence of the nodes of some patterns. -/
def interpretParts (flags : Flags) : List Expr → Except Error (Node × Flags)
  | [] => .ok (.empty, flags)
  | part :: rest => do
    let (first, flags) ← part.interpret flags
    let (second, flags) ← interpretParts flags rest
    return (.cat first second, flags)

end

/-- The node of a whole pattern. -/
def Node.ofText (text : String) : Except Error Node := do
  let expr ← Expr.parse text
  let (node, _) ← expr.interpret .start
  return node

end CourseFeed.Pattern
