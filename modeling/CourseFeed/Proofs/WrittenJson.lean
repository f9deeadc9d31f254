import CourseFeed.Json.Shape
import CourseFeed.Proofs.BracketedJson

/-!
# Reading what is written

What is written of a value stands on lines of its own, with a line for each item and each member.
The readers do not look at the lines: they skip the blanks before a value and read what follows.  So
a reader takes back what is written of its values, and one that is put together from others does so
because they do.

* **`bracketLines_eq`** — what is written between brackets is laid out with line ends as gaps.
* **`Rereads`** — a reader takes back what is written of any value.  The reader of texts does
  (**`rereads_text`**); those of values that may be absent (**`rereads_optional`**), of lists
  (**`rereads_list`**) and of choices between names (**`rereads_variant`**) do if their parts do.
* **`Shape.takesMember`** — the member that is written of a field replaces its default, and
  **`Shape.readsItem_object`**: members that make up a record are read as it.
* **`readAll_pretty`** — what is written of a tree is read to its end.
-/

namespace CourseFeed.Json

open CourseFeed.Text

/-! ## Layout -/

theorem joinComma_eq (parts : List (List Char)) : joinComma parts = [','].intercalate parts := by
  induction parts with
  | nil => rfl
  | cons part rest ih =>
      cases rest with
      | nil => exact List.intercalate_singleton.symm
      | cons next rest =>
          show part ++ ',' :: joinComma (next :: rest) = _
          rw [ih, List.intercalate_cons_cons, List.append_assoc]
          rfl

/-- The end of a line and the blanks before the next. -/
def Gap.line (depth : Nat) : Gap where
  chars := newLine depth
  spaces := by
    intro c hc
    rcases List.mem_cons.mp hc with rfl | hblank
    · rfl
    · rw [(List.mem_replicate.mp hblank).2]
      rfl

/-- Parts on lines of their own are laid out between their brackets. -/
theorem bracketLines_eq (opening closing : Char) (depth : Nat) (parts : List (List Char)) :
    ∃ lead trail, bracketLines opening closing depth parts =
      opening :: (laidOut lead trail parts ++ [closing]) := by
  cases parts with
  | nil => exact ⟨.none, .none, rfl⟩
  | cons part rest =>
      refine ⟨.line (depth + 1), .line depth, ?_⟩
      rw [bracketLines, joinComma_eq, laidOut]
      rfl

theorem prettyItems_eq_map (depth : Nat) (items : List Tree) :
    prettyItems depth items = items.map (prettyChars depth) := by
  induction items with
  | nil => rfl
  | cons item rest ih => rw [prettyItems, ih, List.map_cons]

/-! ## Readers -/

theorem skipSpace_skipSpace (c : Cursor) : c.skipSpace.skipSpace = c.skipSpace := by
  obtain ⟨rest, here⟩ := c
  induction rest generalizing here with
  | nil => rfl
  | cons ch tail ih =>
      by_cases hspace : isSpace ch = true
      · have hskip : (Cursor.mk (ch :: tail) here).skipSpace =
            (Cursor.mk tail (here.after ch)).skipSpace := by
          rw [Cursor.skipSpace, skipSpaceFrom, if_pos hspace]
          rfl
        rw [hskip]
        exact ih (here.after ch)
      · have hskip : (Cursor.mk (ch :: tail) here).skipSpace = ⟨ch :: tail, here⟩ :=
          skipSpaceFrom_of_off here (beginsOff_cons (Bool.eq_false_iff.mpr hspace))
        rw [hskip, hskip]

/-- There are no blanks before an item. -/
theorem ReadsItem.skipSpace_eq {α : Type} {item : Reader α} {text : List Char} {value : α}
    (h : ReadsItem item text value) (rest : List Char) (here : Position) :
    (Cursor.mk (text ++ rest) here).skipSpace = ⟨text ++ rest, here⟩ := by
  obtain ⟨c, tail, rfl, hspace, -⟩ := h.begins
  exact skipSpaceFrom_of_off here (beginsOff_cons hspace)

/-- A reader takes back what is written of any value, and skips the blanks before it. -/
structure Rereads {α : Type} (reader : Reader α) (tree : α → Tree) : Prop where
  skips : ∀ c : Cursor, reader c.skipSpace = reader c
  reads : ∀ (value : α) (depth : Nat), ReadsItem reader (prettyChars depth (tree value)) value

section

variable {α : Type} {reader : Reader α} {tree : α → Tree}

theorem dispatch_skipSpace (read : Char → Cursor → Option (Except Failure (α × Cursor)))
    (expected : String) (c : Cursor) :
    dispatch read expected c.skipSpace = dispatch read expected c := by
  rw [dispatch, dispatch, skipSpace_skipSpace]

/-- The text of a value is read between its quotes. -/
theorem readsItem_textLiteral (expected text : String) :
    ReadsItem (readTextAs expected) (textLiteral text) text where
  begins := ⟨'"', _, rfl, by decide, by decide⟩
  reads := by
    intro rest here _
    obtain ⟨p, hread⟩ := readTextBody_escaped text rest (here.after '"')
    refine ⟨p, ?_⟩
    rw [textLiteral, List.cons_append, List.cons_append, List.append_assoc]
    exact hread

/-- Texts are taken back, whatever their characters. -/
theorem rereads_text (expected : String) : Rereads (readTextAs expected) .text where
  skips := dispatch_skipSpace _ expected
  reads := fun text _ => readsItem_textLiteral expected text

/-- What is written of a text begins with a quote, so it is not taken for null. -/
theorem head?_prettyChars_text (depth : Nat) (text : String) :
    (prettyChars depth (.text text)).head? ≠ some 'n' :=
  fun hhead => absurd (Option.some.inj hhead) (by decide)

/-- Values that may be absent are taken back if those that are there are and none of them is
    written as null. -/
theorem rereads_optional (h : Rereads reader tree)
    (hnull : ∀ value depth, (prettyChars depth (tree value)).head? ≠ some 'n') :
    Rereads (readOptional reader) (.optional tree) where
  skips := by
    intro c
    rw [readOptional, readOptional, skipSpace_skipSpace]
  reads := by
    intro value depth
    cases value with
    | none => exact ⟨⟨'n', _, rfl, by decide, by decide⟩, fun rest here _ => ⟨_, rfl⟩⟩
    | some value =>
        have hitem := h.reads value depth
        refine ⟨hitem.begins, ?_⟩
        intro rest here hrest
        obtain ⟨p, hread⟩ := hitem.reads rest here hrest
        have hpeek :
            (Cursor.mk (prettyChars depth (tree value) ++ rest) here).peek? ≠ some 'n' := by
          obtain ⟨c, tail, htext, -⟩ := hitem.begins
          have hfirst := hnull value depth
          rw [htext] at hfirst ⊢
          exact hfirst
        refine ⟨p, ?_⟩
        show readOptional reader ⟨prettyChars depth (tree value) ++ rest, here⟩ = _
        rw [readOptional, hitem.skipSpace_eq]
        simp only [if_neg hpeek, hread]
        rfl

/-- Lists are taken back if their items are. -/
theorem rereads_list (h : Rereads reader tree) :
    Rereads (readList reader) fun values => .list (values.map tree) where
  skips := dispatch_skipSpace _ _
  reads := by
    intro values depth
    obtain ⟨lead, trail, hlines⟩ :=
      bracketLines_eq '[' ']' depth (prettyItems (depth + 1) (values.map tree))
    have hentries : prettyItems (depth + 1) (values.map tree) =
        (values.map fun v => (prettyChars (depth + 1) (tree v), v)).map Prod.fst := by
      rw [prettyItems_eq_map, List.map_map, List.map_map]
      rfl
    have hvalues : (values.map fun v => (prettyChars (depth + 1) (tree v), v)).map Prod.snd =
        values := by
      rw [List.map_map]
      exact List.map_id' values
    have hreads : ∀ e ∈ values.map fun v => (prettyChars (depth + 1) (tree v), v),
        ReadsItem reader e.1 e.2 := by
      intro e he
      obtain ⟨v, -, rfl⟩ := List.mem_map.mp he
      exact h.reads v (depth + 1)
    rw [prettyChars, hlines]
    refine ⟨⟨'[', _, rfl, by decide, by decide⟩, ?_⟩
    intro rest here _
    obtain ⟨p, hread⟩ := readItems_laidOut hreads lead trail rest (here.after '[')
    rw [← hentries, hvalues] at hread
    refine ⟨p.after ']', ?_⟩
    rw [List.cons_append, List.append_assoc]
    show settle closeList (readItems reader
      ⟨laidOut lead trail (prettyItems (depth + 1) (values.map tree)) ++ ']' :: rest,
        here.after '['⟩) = _
    rw [hread]
    rfl

/-- A choice is taken back if the name that is written is its name. -/
theorem rereads_variant {variants : List (String × α)} {name : α → String}
    (h : ∀ value, findNamed? (name value) variants = some value) :
    Rereads (readVariant variants) fun value => .text (name value) where
  skips := by
    intro c
    rw [readVariant, readVariant, skipSpace_skipSpace]
  reads := by
    intro value depth
    have hitem := readsItem_textLiteral "variant identifier" (name value)
    refine ⟨hitem.begins, ?_⟩
    intro rest here hrest
    obtain ⟨p, hread⟩ := hitem.reads rest here hrest
    refine ⟨p, ?_⟩
    show readVariantName variants ⟨textLiteral (name value) ++ rest, here⟩ = _
    simp only [readVariantName, hread, bind, Except.bind, h]
    rfl

/-! ## Records -/

/-- **The member that is written of a field replaces its default**, unless the field was given
    before. -/
theorem Shape.takesMember {β : Type} {s : Shape (Filled β) β} {name : String} {put : β → α → β}
    {known : Filled β} {value : α} {record : β} {depth : Nat}
    (hfield : s.fields.find? (fun f => f.name == name) = some (.into name reader put))
    (hreader : Rereads reader tree) (hnew : known.given.contains name = false)
    (hput : put known.record value = record) :
    TakesMember s.readMember (textLiteral name ++ ':' :: ' ' :: prettyChars depth (tree value))
      known ⟨record, name :: known.given⟩ := by
  subst hput
  have htext : textLiteral name ++ ':' :: ' ' :: prettyChars depth (tree value) =
      '"' :: (name.toList.flatMap escapedChar ++ '"' :: ':' :: ' ' ::
        prettyChars depth (tree value)) := by
    rw [textLiteral, List.cons_append, List.cons_append, List.append_assoc]
    rfl
  have hgiven : (Field.into name reader put).given known = false := hnew
  rw [htext]
  refine takesMember_of_pieces (fun c _ => readsChar_escapedChar c) ?_
  intro rest here hrest
  obtain ⟨p, hread⟩ := (hreader.reads value depth).reads rest ((here.after ':').after ' ') hrest
  -- the blank behind the colon is skipped by the reader of the value
  have hblank : reader ⟨' ' :: (prettyChars depth (tree value) ++ rest), here.after ':'⟩ =
      .ok (value, ⟨rest, p⟩) := by
    rw [← hreader.skips, ← hread, ← hreader.skips ⟨prettyChars depth (tree value) ++ rest, _⟩]
    rfl
  refine ⟨p, ?_⟩
  simp only [Shape.readMember, hfield, hgiven, Bool.false_eq_true, if_false]
  show ((reader ⟨' ' :: (prettyChars depth (tree value) ++ rest), here.after ':'⟩).bind
    fun read => .ok (⟨put known.record read.1, name :: known.given⟩, read.2) :
      Except Failure (Filled β × Cursor)) = _
  rw [hblank]
  rfl

/-- **Members that make up a record are read as it.** -/
theorem Shape.readsItem_object {σ : Type} {s : Shape σ α} {members : List (String × Tree)}
    {depth : Nat} {known : σ} {value : α}
    (h : TakesMembers s.readMember (prettyMembers (depth + 1) members) s.start known)
    (hmake : s.make known = .ok value) :
    ReadsItem s.read (prettyChars depth (.object members)) value := by
  obtain ⟨lead, trail, hlines⟩ :=
    bracketLines_eq '\x7b' '\x7d' depth (prettyMembers (depth + 1) members)
  rw [prettyChars, hlines]
  refine ⟨⟨'\x7b', _, rfl, by decide, by decide⟩, ?_⟩
  intro rest here _
  obtain ⟨p, hread⟩ := readMembers_laidOut h lead trail rest (here.after '\x7b')
  refine ⟨p.after '\x7d', ?_⟩
  rw [List.cons_append, List.append_assoc]
  show settle closeObject (s.readAsObject
    ⟨laidOut lead trail (prettyMembers (depth + 1) members) ++ '\x7d' :: rest,
      here.after '\x7b'⟩) = _
  have hobject : s.readAsObject ⟨laidOut lead trail (prettyMembers (depth + 1) members) ++
      '\x7d' :: rest, here.after '\x7b'⟩ = .ok (value, ⟨'\x7d' :: rest, p⟩) := by
    simp only [Shape.readAsObject, hread, bind, Except.bind, Shape.finish, hmake]
  rw [hobject]
  rfl

/-- **What is written of a tree is read to its end.** -/
theorem readAll_pretty {t : Tree} {value : α} (h : ReadsItem reader (prettyChars 0 t) value) :
    readAll reader t.pretty = .ok value := by
  obtain ⟨p, hread⟩ := h.reads [] ⟨1, 0⟩ endsNumber_nil
  rw [List.append_nil] at hread
  rw [readAll, Cursor.start, Tree.pretty, String.toList_ofList, hread]
  rfl

end

end CourseFeed.Json
