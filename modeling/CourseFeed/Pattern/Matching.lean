import CourseFeed.Pattern.Node

/-!
# Where patterns match

The places of a text are its positions between characters, from `0` to its length. A set of places
is a natural number with a bit for each. **`Node.ends`** sends a set of places to the places where
a match that begins at one of them may end; a repetition is the same step done again, and since
places only move forward, a text of `n` characters has nothing new after `n + 1` rounds.
**`Node.matchesIn`** asks for a match that begins anywhere.
-/

namespace CourseFeed.Pattern

open CourseFeed.Text

/-- A text with the places before characters of words. -/
structure Subject where
  chars : List Char
  length : Nat
  wordPlaces : Bool → Nat

/-- The places before the characters that a test accepts, the first of them being `place`. -/
def placesBefore (test : Char → Bool) (place : Nat) : List Char → Nat
  | [] => 0
  | c :: rest => (if test c then Nat.pow 2 place else 0) ||| placesBefore test (place + 1) rest

/-- The places of a text of some length. -/
def allPlaces (length : Nat) : Nat := Nat.pow 2 (length + 1) - 1

/-- The text to match, made ready. -/
def Subject.ofText (text : List Char) : Subject :=
  let unicode := placesBefore wordChars.contains 0 text
  let ascii := placesBefore asciiWordChars.contains 0 text
  ⟨text, text.length, fun u => if u then unicode else ascii⟩

/-- The places at which a condition holds. -/
def Subject.lookPlaces (s : Subject) (look : Look) : Nat :=
  let all := allPlaces s.length
  let start := 1
  let stop := Nat.pow 2 s.length
  let except := fun (places : Nat) => all ^^^ (places &&& all)
  let before := fun u => s.wordPlaces u <<< 1
  let after := s.wordPlaces
  let feeds := placesBefore (· = '\n') 0 s.chars
  let returns := placesBefore (· = '\r') 0 s.chars
  match look with
  | .start => start
  | .stop => stop
  | .lineStart => start ||| feeds <<< 1
  | .lineEnd => stop ||| feeds
  | .lineStartOrReturn => start ||| feeds <<< 1 ||| (returns <<< 1 &&& except feeds)
  | .lineEndOrReturn => stop ||| returns ||| (feeds &&& except (returns <<< 1))
  | .boundary u => before u ^^^ after u
  | .noBoundary u => except (before u ^^^ after u)
  | .wordStart u => after u &&& except (before u)
  | .wordEnd u => before u &&& except (after u)
  | .wordStartHalf u => except (before u)
  | .wordEndHalf u => except (after u)

/-- Does a step a number of times. -/
def iterate (step : Nat → Nat) : Nat → Nat → Nat
  | 0, places => places
  | rounds + 1, places => iterate step rounds (step places)

/-- Does a step up to a number of times, and keeps all places on the way. -/
def gather (step : Nat → Nat) : Nat → Nat → Nat
  | 0, places => places
  | rounds + 1, places =>
    let more := places ||| step places
    if more = places then places else gather step rounds more

/-- The places where a match that begins at one of some places may end. -/
def Node.ends (s : Subject) : Node → Nat → Nat
  | .empty => fun places => places
  | .chars set =>
    let before := placesBefore set.contains 0 s.chars
    fun places => (places &&& before) <<< 1
  | .look condition =>
    let holds := s.lookPlaces condition
    fun places => places &&& holds
  | .cat first second =>
    let first := first.ends s
    let second := second.ends s
    fun places => second (first places)
  | .alt first second =>
    let first := first.ends s
    let second := second.ends s
    fun places => first places ||| second places
  | .repetition body least most =>
    let step := body.ends s
    let rounds := s.length + 1
    let more := match most with
      | none => rounds
      | some most => min (most - least) rounds
    fun places => gather step more (iterate step (min least rounds) places)

/-- Whether a pattern matches somewhere in a text. -/
def Node.matchesIn (node : Node) (text : String) : Bool :=
  let s := Subject.ofText text.toList
  node.ends s (allPlaces s.length) != 0

end CourseFeed.Pattern
