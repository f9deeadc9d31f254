import CourseFeed.Pattern.Matching

/-!
# Compiled patterns

A **`Pattern`** is a text together with the node it means. Since the text determines the node,
patterns with one source are equal.
-/

namespace CourseFeed

/-- A pattern that is ready to match. -/
structure Pattern where
  source : String
  node : Pattern.Node
  means : Pattern.Node.ofText source = .ok node

namespace Pattern

/-- The pattern with a source, or why there is none. -/
def compile (source : String) : Except Error Pattern :=
  match h : Node.ofText source with
  | .ok node => .ok ⟨source, node, h⟩
  | .error e => .error e

/-- Whether a pattern matches somewhere in a text. -/
def matchesIn (p : Pattern) (text : String) : Bool := p.node.matchesIn text

theorem eq_of_source_eq {p q : Pattern} (h : p.source = q.source) : p = q := by
  obtain ⟨s, m, hm⟩ := p
  obtain ⟨t, n, hn⟩ := q
  subst h
  have : m = n := Except.ok.inj (hm.symm.trans hn)
  subst this
  rfl

end Pattern

end CourseFeed
