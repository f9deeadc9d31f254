import CourseFeed.Proofs.Outcomes
import CourseFeed.Value.Relations

/-!
# What a pattern sees of a field

A pattern looks through the lists of a field, and through the lists in these, and what it comes to
in the end is a scalar that it matches or something that it does not look at.

* **`Within`** — what stands in a field with nothing but lists around it, however many.
* **`IsScalar`** — the values that have a plain text, each with its text.
* **`matchedBy_of_within`** — what matches within a field makes the field match;
  **`exists_scalar_of_matchedBy`** — where a field matches, some scalar within it does.
* **`Hidden`** — what a pattern does not look at. Taken out of a list, it leaves as many matches
  (**`matchedBy_list_hidden`**).
* **`isMatch_iff_leaf`** — all of it.
-/

namespace CourseFeed.Value

open CourseFeed.Json

variable {p : Pattern}

/-! ## Leaves -/

/-- A value that stands in a field with nothing but lists around it. -/
inductive Within : Value → Value → Prop
  | self (leaf : Value) : Within leaf leaf
  | item {leaf item : Value} {items : List Value} :
      item ∈ items → Within leaf item → Within leaf (.list items)

/-- A scalar and its plain text. -/
inductive IsScalar : Value → String → Prop
  | bool (b : Bool) : IsScalar (.bool b) (boolName b)
  | number (n : Number) : IsScalar (.number n) n.text
  | text (s : String) : IsScalar (.text s) s
  | pattern (q : Pattern) : IsScalar (.pattern q) q.source

/-! ## One step: through a list -/

/-- A list matches just if one of its items does. -/
theorem someMatchedBy_eq_any (items : List Value) :
    someMatchedBy p items = items.any (matchedBy p) := by
  induction items with
  | nil => rfl
  | cons item rest ih => rw [someMatchedBy, ih, List.any_cons]

theorem matchedBy_list_iff {items : List Value} :
    matchedBy p (.list items) = true ↔ ∃ item ∈ items, item.matchedBy p = true := by
  rw [matchedBy, someMatchedBy_eq_any, List.any_eq_true]

theorem IsScalar.matchedBy_eq {leaf : Value} {text : String} (h : leaf.IsScalar text) :
    leaf.matchedBy p = p.matchesIn text := by
  cases h <;> rfl

/-! ## Through all lists -/

/-- **What matches within a field makes the field match**, by induction on the lists around it. -/
theorem matchedBy_of_within {leaf field : Value} (h : leaf.Within field)
    (hleaf : leaf.matchedBy p = true) : field.matchedBy p = true := by
  induction h with
  | self => exact hleaf
  | item hmem _ ih => exact matchedBy_list_iff.mpr ⟨_, hmem, ih⟩

mutual

/-- **Where a field matches, a scalar within it does.** -/
theorem exists_scalar_of_matchedBy : ∀ field : Value, field.matchedBy p = true →
    ∃ (leaf : Value) (text : String),
      leaf.Within field ∧ leaf.IsScalar text ∧ p.matchesIn text = true
  | .bool b, h => ⟨_, _, .self _, .bool b, h⟩
  | .number n, h => ⟨_, _, .self _, .number n, h⟩
  | .text s, h => ⟨_, _, .self _, .text s, h⟩
  | .pattern q, h => ⟨_, _, .self _, .pattern q, h⟩
  | .null, h => absurd h Bool.false_ne_true
  | .map _, h => absurd h Bool.false_ne_true
  | .list items, h => by
      obtain ⟨item, hmem, leaf, text, hwithin, hscalar⟩ := exists_item_of_someMatchedBy items h
      exact ⟨leaf, text, .item hmem hwithin, hscalar⟩

/-- Where some of a list's items match, a scalar within one of them does. -/
theorem exists_item_of_someMatchedBy : ∀ items : List Value, someMatchedBy p items = true →
    ∃ item ∈ items, ∃ (leaf : Value) (text : String),
      leaf.Within item ∧ leaf.IsScalar text ∧ p.matchesIn text = true
  | [], h => absurd h Bool.false_ne_true
  | item :: rest, h => by
      rcases (Bool.or_eq_true _ _).mp h with hitem | hrest
      · exact ⟨item, List.mem_cons_self, exists_scalar_of_matchedBy item hitem⟩
      · obtain ⟨other, hmem, hother⟩ := exists_item_of_someMatchedBy rest hrest
        exact ⟨other, List.mem_cons_of_mem _ hmem, hother⟩

end

/-- **A field matches just if a scalar within it does.** -/
theorem matchedBy_iff (field : Value) :
    field.matchedBy p = true ↔ ∃ (leaf : Value) (text : String),
      leaf.Within field ∧ leaf.IsScalar text ∧ p.matchesIn text = true := by
  constructor
  · exact exists_scalar_of_matchedBy field
  · rintro ⟨leaf, text, hwithin, hscalar, hmatch⟩
    exact matchedBy_of_within hwithin (hscalar.matchedBy_eq.trans hmatch)

/-! ## What is not looked at -/

/-- What a pattern does not look at: null, a list without items, and a map, whatever is in it. -/
def Hidden (v : Value) : Prop := v = .null ∨ v = .list [] ∨ ∃ members, v = .map members

theorem Hidden.matchedBy_eq {v : Value} (h : v.Hidden) : v.matchedBy p = false := by
  rcases h with rfl | rfl | ⟨members, rfl⟩ <;> rfl

/-- What is hidden in a list may as well not be there. -/
theorem matchedBy_list_hidden {v : Value} (h : v.Hidden) (before after : List Value) :
    matchedBy p (.list (before ++ v :: after)) = matchedBy p (.list (before ++ after)) := by
  rw [matchedBy, matchedBy, someMatchedBy_eq_any, someMatchedBy_eq_any, List.any_append,
    List.any_append, List.any_cons, h.matchedBy_eq, Bool.false_or]

/-! ## Together -/

/-- **A pattern matches a field just if it matches a scalar that the field is, or that stands in it
    with nothing but lists around it.**  Null, empty lists and maps never match, and a list matches
    with them as it does without them. -/
theorem isMatch_iff_leaf (p : Pattern) :
    (∀ field, isMatch (.pattern p) field = true ↔ ∃ (leaf : Value) (text : String),
      leaf.Within field ∧ leaf.IsScalar text ∧ p.matchesIn text = true) ∧
    ∀ v, v = .null ∨ v = .list [] ∨ (∃ members, v = .map members) →
      isMatch (.pattern p) v = false ∧
        ∀ before after, isMatch (.pattern p) (.list (before ++ v :: after)) =
          isMatch (.pattern p) (.list (before ++ after)) := by
  refine ⟨matchedBy_iff, ?_⟩
  intro v (hhidden : v.Hidden)
  exact ⟨hhidden.matchedBy_eq, matchedBy_list_hidden hhidden⟩

/-- A text in a list in a list is found. The same text in a map is not, be the map alone or between
    null and an empty list. -/
theorem isMatch_iff_leaf_nested :
    let members : List (String × Value) := [("title", .text "Algebra")]
    ∃ p, Pattern.compile "lg" = .ok p ∧
      isMatch (.pattern p) (.list [.null, .list [.text "Algebra"]]) = true ∧
      isMatch (.pattern p) (.map members) = false ∧
      isMatch (.pattern p) (.list [.null, .map members, .list []]) = false := by
  intro members
  have hvalid : (Pattern.compile "lg").isOk = true := by decide +kernel
  have hfound : (Pattern.compile "lg").toOption.any (fun p => p.matchesIn "Algebra") = true := by
    decide +kernel
  obtain ⟨p, hp⟩ := exists_eq_ok_of_isOk hvalid
  rw [hp] at hfound
  obtain ⟨hleaf, hhidden⟩ := isMatch_iff_leaf p
  obtain ⟨hmap, hbesideMap⟩ := hhidden (.map members) (Or.inr (Or.inr ⟨members, rfl⟩))
  obtain ⟨hempty, hbesideEmpty⟩ := hhidden (.list []) (Or.inr (Or.inl rfl))
  obtain ⟨-, hbesideNull⟩ := hhidden .null (Or.inl rfl)
  refine ⟨p, hp, (hleaf _).mpr ⟨.text "Algebra", "Algebra", ?_, .text _, hfound⟩, hmap, ?_⟩
  · exact .item (List.mem_cons_of_mem _ List.mem_cons_self) (.item List.mem_cons_self (.self _))
  · calc isMatch (.pattern p) (.list [.null, .map members, .list []])
        = isMatch (.pattern p) (.list [.null, .list []]) := hbesideMap [.null] [.list []]
      _ = isMatch (.pattern p) (.list [.null]) := hbesideEmpty [.null] []
      _ = isMatch (.pattern p) (.list []) := hbesideNull [] []
      _ = false := hempty

end CourseFeed.Value
