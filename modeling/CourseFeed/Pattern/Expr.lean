/-!
# Patterns as written

An **`Expr`** is the tree of a pattern's text: what is written, before flags are applied and names
of character sets are looked up. **`Expr.depth`** counts how deep its parts nest, and
**`nestingLimit`** is the deepest nesting that is read.
-/

namespace CourseFeed.Pattern

/-- A character of a pattern; `byte` marks one that is written as two hexadecimal digits. -/
structure Literal where
  char : Char
  byte : Bool
  deriving Repr, DecidableEq

/-- A condition on a place in the text. -/
inductive Assertion where
  | lineStart
  | lineEnd
  | textStart
  | textEnd
  | boundary
  | noBoundary
  | wordStart
  | wordEnd
  | wordStartHalf
  | wordEndHalf
  deriving Repr, DecidableEq

/-- What a flag switches. -/
inductive Flag where
  | ignoreCase
  | multiLine
  | dotMatchesAll
  | swapGreed
  | unicode
  | carriageReturns
  | spaced
  deriving Repr, DecidableEq

/-- An item of a flag list: a flag, or the sign after which flags are switched off. -/
inductive FlagItem where
  | negation
  | flag (flag : Flag)
  deriving Repr, DecidableEq

/-- What a flag list says about a flag. -/
def flagState (flag : Flag) (on : Bool) : List FlagItem → Option Bool
  | [] => none
  | .negation :: rest => flagState flag false rest
  | .flag f :: rest => if f = flag then some on else flagState flag on rest

/-- A set that has a letter of its own. -/
inductive Perl where
  | digit
  | space
  | word
  deriving Repr, DecidableEq

/-- A set of ASCII characters that is named between colons. -/
inductive Posix where
  | alnum
  | alpha
  | ascii
  | blank
  | cntrl
  | digit
  | graph
  | lower
  | print
  | punct
  | space
  | upper
  | word
  | xdigit
  deriving Repr, DecidableEq

/-- How a set is asked for by a property. -/
inductive PropertyQuery where
  | name (name : String)
  | value (name value : String)
  deriving Repr, DecidableEq

/-- An operation between two sets. -/
inductive SetOperation where
  | intersection
  | difference
  | symmetricDifference
  deriving Repr, DecidableEq

mutual

/-- An item between the brackets of a class. -/
inductive ClassItem where
  | literal (literal : Literal)
  | range (first last : Literal)
  | posix (kind : Posix) (negated : Bool)
  | perl (kind : Perl) (negated : Bool)
  | property (query : PropertyQuery) (negated : Bool)
  | bracketed (negated : Bool) (body : ClassBody)

/-- What stands between the brackets of a class: items side by side, or an operation. -/
inductive ClassBody where
  | items (items : List ClassItem)
  | operation (operation : SetOperation) (left right : ClassBody)

end

/-- A pattern as written. -/
inductive Expr where
  | empty
  | flags (items : List FlagItem)
  | literal (literal : Literal)
  | dot
  | assertion (assertion : Assertion)
  | perl (kind : Perl) (negated : Bool)
  | property (query : PropertyQuery) (negated : Bool)
  | bracketed (negated : Bool) (body : ClassBody)
  | repetition (body : Expr) (least : Nat) (most : Option Nat)
  | group (flags : List FlagItem) (body : Expr)
  | alternation (branches : List Expr)
  | concat (parts : List Expr)

mutual

/-- How deep the parts of a class item nest. -/
def ClassItem.depth : ClassItem → Nat
  | .bracketed _ body => body.depth + 1
  | _ => 0

/-- How deep the parts of a class body nest. -/
def ClassBody.depth : ClassBody → Nat
  | .items items => itemsDepth items + (if items.length ≤ 1 then 0 else 1)
  | .operation _ left right => max left.depth right.depth + 1

/-- How deep the deepest of some class items nests. -/
def itemsDepth : List ClassItem → Nat
  | [] => 0
  | item :: rest => max item.depth (itemsDepth rest)

end

mutual

/-- How deep the parts of a pattern nest. -/
def Expr.depth : Expr → Nat
  | .bracketed _ body => body.depth + 1
  | .repetition body _ _ => body.depth + 1
  | .group _ body => body.depth + 1
  | .alternation branches => partsDepth branches + 1
  | .concat parts => partsDepth parts + 1
  | _ => 0

/-- How deep the deepest of some patterns nests. -/
def partsDepth : List Expr → Nat
  | [] => 0
  | part :: rest => max part.depth (partsDepth rest)

end

/-- The deepest nesting that is read. -/
def nestingLimit : Nat := 250

/-- Patterns one after another, as one pattern. -/
def Expr.ofParts : List Expr → Expr
  | [] => .empty
  | [part] => part
  | parts => .concat parts

end CourseFeed.Pattern
