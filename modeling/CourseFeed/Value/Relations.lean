import CourseFeed.Value.Basic

/-!
# Relations between a value and a field

What a filter's value can be asked about a field: whether it is a pattern that matches the field,
and whether it is a collection that holds it. A pattern looks at the scalars of a field and of the
lists in it, to any depth, and never into a map.
-/

namespace CourseFeed.Value

mutual

/-- Whether a pattern matches a scalar that a field is or that its lists hold. -/
def matchedBy (p : Pattern) : Value → Bool
  | .list items => someMatchedBy p items
  | .map _ => false
  | field => field.text?.any p.matchesIn

/-- Whether a pattern matches one of some fields. -/
def someMatchedBy (p : Pattern) : List Value → Bool
  | [] => false
  | item :: rest => matchedBy p item || someMatchedBy p rest

end

/-- Whether a value is a pattern that matches a field. -/
def isMatch (value field : Value) : Bool :=
  match value with
  | .pattern p => field.matchedBy p
  | _ => false

/-- Whether a text stands somewhere in another. -/
def isInfix (part : List Char) : List Char → Bool
  | [] => part.isEmpty
  | c :: rest => part.isPrefixOf (c :: rest) || isInfix part rest

/-- Whether a list holds a field, a map a member of its name, or a text a part. -/
def contains (value field : Value) : Bool :=
  match value, field with
  | .list items, _ => items.any fun item => item.same field
  | .map members, .text name => hasName name members
  | .text whole, .text part => isInfix part.toList whole.toList
  | _, _ => false

/-- Whether a map has a member with the name that a field is. -/
def hasKey (value field : Value) : Bool :=
  match value, field with
  | .map members, .text name => hasName name members
  | _, _ => false

/-- Whether a map has a member whose value is a field. -/
def hasValue (value field : Value) : Bool :=
  match value with
  | .map members => members.any fun member => member.2.same field
  | _ => false

end CourseFeed.Value
