import CourseFeed.Proofs.QuotedTexts

/-!
# Displayed values as tokens

What is shown of a value is a token for it.  A value that JSON can write is shown as JSON, with the
escapes of quoted text and without blanks; a pattern is shown between slashes, of which only the
outer ones are taken off again.

* **`Value.Plain`** — the values that are shown as JSON, by how deep their lists and maps nest.
* **`Value.Plain.reads`** — what is shown of one is read back wherever a value is read, by
  induction on the value.
* **`Value.Plain.isToken`** — so it is a token for the value, as for a list of integers
  (**`isToken_intListText`**); **`Pattern.isToken_display`**: and so is what is shown of a pattern.
* **`displayed_values_reread`** — the value that is read back is the same and is shown alike.
-/

namespace CourseFeed

open CourseFeed.Json CourseFeed.Text CourseFeed.Decimal

/-- A value of integers of 64 bits and plain texts, with lists and maps at most so deep.  The names
    of a map are in order. -/
inductive Value.Plain : Nat → Value → Prop
  | null {depth : Nat} : Plain depth .null
  | bool {depth : Nat} (value : Bool) : Plain depth (.bool value)
  | int {depth : Nat} {n : Int} (low : -(Nat.pow 2 63 : Nat) ≤ n) (high : n ≤ maxWord) :
      Plain depth (.ofInt n)
  | text {depth : Nat} {value : String} (plain : IsPlainText value) : Plain depth (.text value)
  | list {depth : Nat} {items : List Value} (items_plain : ∀ item ∈ items, Plain depth item) :
      Plain (depth + 1) (.list items)
  | map {depth : Nat} {members : List (String × Value)}
      (sorted : (members.map Prod.fst).Pairwise (· < ·))
      (names_plain : ∀ member ∈ members, IsPlainText member.1)
      (values_plain : ∀ member ∈ members, Plain depth member.2) :
      Plain (depth + 1) (.map members)

namespace Value

/-! ## What is shown -/

theorem displayItems_eq_map (items : List Value) : displayItems items = items.map display := by
  induction items with
  | nil => rfl
  | cons item rest ih => rw [displayItems, ih, List.map_cons]

theorem displayMembers_eq_map (members : List (String × Value)) :
    displayMembers members = members.map fun m => quoted m.1 ++ ":" ++ m.2.display := by
  induction members with
  | nil => rfl
  | cons member rest ih => rw [displayMembers, ih, List.map_cons]

theorem toList_display_list (items : List Value) :
    (Value.list items).display.toList =
      '[' :: ([','].intercalate (items.map fun item => item.display.toList) ++ [']']) := by
  rw [display, displayItems_eq_map, String.toList_append, String.toList_append,
    String.toList_intercalate, List.map_map]
  rfl

/-- The text of a member. -/
def memberText (member : String × Value) : List Char :=
  (quoted member.1).toList ++ ':' :: member.2.display.toList

theorem toList_display_map (members : List (String × Value)) :
    (Value.map members).display.toList =
      '\x7b' :: ([','].intercalate (members.map memberText) ++ ['\x7d']) := by
  have htext : ∀ m : String × Value,
      (quoted m.1 ++ ":" ++ m.2.display).toList = memberText m := by
    intro m
    rw [String.toList_append, String.toList_append, List.append_assoc]
    rfl
  rw [display, displayMembers_eq_map, String.toList_append, String.toList_append,
    String.toList_intercalate, List.map_map]
  simp only [Function.comp_def, htext]
  rfl

/-! ## Reading it back -/

/-- What is shown of a value is read as a JSON value that is this value. -/
def Reads (depth : Nat) (v : Value) : Prop :=
  ∃ tree, ReadsItem (readTree (depth + 1)) v.display.toList tree ∧ ofTree tree = v

theorem exists_items {depth : Nat} {items : List Value} (h : ∀ item ∈ items, item.Reads depth) :
    ∃ entries : List (List Char × Tree),
      entries.map Prod.fst = items.map (fun item => item.display.toList) ∧
      (∀ e ∈ entries, ReadsItem (readTree (depth + 1)) e.1 e.2) ∧
      ofTrees (entries.map Prod.snd) = items := by
  induction items with
  | nil => exact ⟨[], rfl, fun _ he => absurd he List.not_mem_nil, rfl⟩
  | cons item rest ih =>
      obtain ⟨tree, hread, htree⟩ := h item List.mem_cons_self
      obtain ⟨entries, htexts, hreads, htrees⟩ :=
        ih fun item' hitem => h item' (List.mem_cons_of_mem item hitem)
      refine ⟨(item.display.toList, tree) :: entries, ?_, ?_, ?_⟩
      · rw [List.map_cons, List.map_cons, htexts]
      · exact List.forall_mem_cons.mpr ⟨hread, hreads⟩
      · rw [List.map_cons, ofTrees, htree, htrees]

theorem exists_members {depth : Nat} {members : List (String × Value)}
    (hnames : ∀ member ∈ members, IsPlainText member.1)
    (h : ∀ member ∈ members, member.2.Reads depth) :
    ∃ entries : List (List Char × String × Tree),
      entries.map Prod.fst = members.map memberText ∧
      (∀ e ∈ entries, ReadsMember (readTree (depth + 1)) e.1 e.2) ∧
      (entries.map Prod.snd).map Prod.fst = members.map Prod.fst ∧
      ofMembers (entries.map Prod.snd) = members := by
  induction members with
  | nil => exact ⟨[], rfl, fun _ he => absurd he List.not_mem_nil, rfl, rfl⟩
  | cons member rest ih =>
      obtain ⟨tree, hread, htree⟩ := h member List.mem_cons_self
      obtain ⟨entries, htexts, hreads, hfirst, hmembers⟩ :=
        ih (fun m hm => hnames m (List.mem_cons_of_mem member hm))
          fun m hm => h m (List.mem_cons_of_mem member hm)
      refine ⟨(memberText member, member.1, tree) :: entries, ?_, ?_, ?_, ?_⟩
      · rw [List.map_cons, List.map_cons, htexts]
      · exact List.forall_mem_cons.mpr
          ⟨⟨hnames member List.mem_cons_self, _, rfl, hread⟩, hreads⟩
      · rw [List.map_cons, List.map_cons, List.map_cons, hfirst]
      · rw [List.map_cons, ofMembers, htree, hmembers]

/-- A text that is closed by its last character is read as an item if it is read before any rest. -/
theorem readsItem_enclosed {depth : Nat} {first last : Char} {middle : List Char} {tree : Tree}
    (hfirst : isSpace first = false ∧ first ≠ ']')
    (h : ∀ rest here, ∃ p, readTree (depth + 1) ⟨first :: (middle ++ last :: rest), here⟩ =
      .ok (tree, ⟨rest, p⟩)) :
    ReadsItem (readTree (depth + 1)) (first :: (middle ++ [last])) tree where
  begins := ⟨first, _, rfl, hfirst⟩
  reads := by
    intro rest here _
    rw [List.cons_append, List.append_assoc]
    exact h rest here

/-- **What is shown of a plain value is read back**, wherever a value may nest so deep. -/
theorem Plain.reads {depth : Nat} {v : Value} (h : v.Plain depth) : v.Reads depth := by
  induction h with
  | null =>
      exact ⟨.null, ⟨⟨'n', _, rfl, by decide⟩, fun rest here _ => ⟨_, rfl⟩⟩, rfl⟩
  | bool value =>
      refine ⟨.bool value, ?_, rfl⟩
      cases value with
      | true => exact ⟨⟨'t', _, rfl, by decide⟩, fun rest here _ => ⟨_, rfl⟩⟩
      | false => exact ⟨⟨'f', _, rfl, by decide⟩, fun rest here _ => ⟨_, rfl⟩⟩
  | int low high =>
      refine ⟨.number (.int _), ?_, rfl⟩
      rw [Value.ofInt, display, Number.text, String.toList_ofList]
      exact readsItem_intText low high _
  | text plain => exact ⟨.text _, readsItem_quoted plain _, rfl⟩
  -- items and members nest less deep, and are read with one level less
  | list items_plain ih =>
      obtain ⟨entries, htexts, hreads, htrees⟩ := exists_items ih
      refine ⟨.list (entries.map Prod.snd), ?_, ?_⟩
      · rw [toList_display_list, ← htexts]
        exact readsItem_enclosed (by decide) fun rest here => readTree_list hreads rest here
      · rw [ofTree, htrees]
  | map sorted names_plain values_plain ih =>
      obtain ⟨entries, htexts, hreads, hfirst, hmembers⟩ := exists_members names_plain ih
      refine ⟨.object (entries.map Prod.snd), ?_, ?_⟩
      · rw [toList_display_map, ← htexts]
        refine readsItem_enclosed (by decide) fun rest here => ?_
        exact readTree_object hreads (hfirst ▸ sorted) rest here
      · rw [ofTree, hmembers]

/-! ## Tokens -/

/-- A text between two characters that are no blanks has no blanks at its ends. -/
theorem trimmed_enclosed {first last : Char} (hfirst : isBlank first = false)
    (hlast : isBlank last = false) (middle : List Char) :
    Trimmed (first :: (middle ++ [last])) := by
  refine ⟨beginsOff_cons hfirst, ?_⟩
  rw [← List.cons_append, List.reverse_append]
  exact beginsOff_cons hlast

/-- What is shown of a plain value has no blanks at its ends and does not begin as a pattern. -/
theorem Plain.begins {depth : Nat} {v : Value} (h : v.Plain depth) :
    Trimmed v.display.toList ∧ ∃ c rest, v.display.toList = c :: rest ∧ c ≠ '/' := by
  have henclosed {text : List Char} (first : Char) (middle : List Char) (last : Char)
      (hblank : isBlank first = false ∧ isBlank last = false ∧ first ≠ '/')
      (htext : text = first :: (middle ++ [last])) :
      Trimmed text ∧ ∃ c rest, text = c :: rest ∧ c ≠ '/' := by
    subst htext
    exact ⟨trimmed_enclosed hblank.1 hblank.2.1 middle, first, _, rfl, hblank.2.2⟩
  cases h with
  | null => exact henclosed 'n' "ul".toList 'l' (by decide) rfl
  | bool value =>
      cases value with
      | true => exact henclosed 't' "ru".toList 'e' (by decide) rfl
      | false => exact henclosed 'f' "als".toList 'e' (by decide) rfl
  | @int _ n low high =>
      rw [Value.ofInt, display, Number.text, String.toList_ofList]
      obtain ⟨c, rest, htext, hbegin⟩ := intText_begins n
      refine ⟨(isToken_intText low high).trimmed, c, rest, htext, ?_⟩
      rintro rfl
      exact absurd (of_begins hbegin).1 (by decide)
  | text plain => exact henclosed '"' _ '"' (by decide) (toList_quoted _)
  | list _ => exact henclosed '[' _ ']' (by decide) (toList_display_list _)
  | map _ _ _ => exact henclosed '\x7b' _ '\x7d' (by decide) (toList_display_map _)

/-- **What is shown of a plain value is a token for it**, as deep as JSON is read. -/
theorem Plain.isToken {v : Value} (h : v.Plain 127) : IsToken v.display.toList v := by
  obtain ⟨htrim, hbegins⟩ := h.begins
  obtain ⟨tree, hread, htree⟩ := h.reads
  obtain ⟨p, hwhole⟩ := hread.reads [] ⟨1, 0⟩ endsNumber_nil
  rw [List.append_nil] at hwhole
  rw [← htree] at htrim hbegins hwhole ⊢
  exact isToken_of_readTree htrim hbegins hwhole

end Value

/-- **The text of a list of integers of 64 bits is a token for the list.** -/
theorem isToken_intListText {ns : List Int}
    (h : ∀ n ∈ ns, -(Nat.pow 2 63 : Nat) ≤ n ∧ n ≤ maxWord) :
    IsToken (intListText ns) (.list (ns.map .ofInt)) := by
  have hplain : (Value.list (ns.map .ofInt)).Plain 127 := by
    refine .list ?_
    intro item hitem
    obtain ⟨n, hn, rfl⟩ := List.mem_map.mp hitem
    exact .int (h n hn).1 (h n hn).2
  have htexts : (ns.map Value.ofInt).map (fun item => item.display.toList) = ns.map intText := by
    rw [List.map_map]
    refine List.map_congr_left ?_
    intro n _
    exact String.toList_ofList
  have htoken := hplain.isToken
  rw [Value.toList_display_list, htexts] at htoken
  exact htoken

/-! ## Equality -/

namespace Value

mutual

/-- Every value is the same as itself. -/
theorem same_self : ∀ v : Value, v.same v = true
  | .null => rfl
  | .bool _ | .text _ | .pattern _ => beq_self_eq_true _
  | .number _ => beq_self_eq_true _
  | .list items => sameItems_self items
  | .map members => sameMembers_self members

theorem sameItems_self : ∀ items : List Value, sameItems items items = true
  | [] => rfl
  | item :: rest => (Bool.and_eq_true _ _).mpr ⟨same_self item, sameItems_self rest⟩

theorem sameMembers_self : ∀ members : List (String × Value), sameMembers members members = true
  | [] => rfl
  | (name, value) :: rest => by
      rw [sameMembers, beq_self_eq_true, same_self value, sameMembers_self rest]
      rfl

end

end Value

/-! ## Patterns -/

theorem Pattern.source_of_compile {source : String} {p : Pattern}
    (h : Pattern.compile source = .ok p) : p.source = source := by
  rw [Pattern.compile] at h
  split at h
  · rw [← Except.ok.inj h]
  · exact nomatch h

/-- A pattern is what its source is compiled to. -/
theorem Pattern.compile_source (p : Pattern) : Pattern.compile p.source = .ok p := by
  rw [Pattern.compile]
  split
  · exact congrArg Except.ok (Pattern.eq_of_source_eq rfl)
  · next error herror => exact nomatch p.means.symm.trans herror

/-- Of a text between slashes only these are taken off, whatever the text is. -/
theorem Value.patternSource_append (source : List Char) :
    Value.patternSource (source ++ ['/']) = String.ofList source := by
  rw [Value.patternSource, List.getLast?_concat, if_pos rfl, List.dropLast_concat]

/-- **What is shown of a pattern is a token for it.** -/
theorem Pattern.isToken_display (p : Pattern) :
    IsToken (Value.pattern p).display.toList (.pattern p) := by
  have htext : (Value.pattern p).display.toList = '/' :: (p.source.toList ++ ['/']) := by
    rw [Value.display, String.toList_append, String.toList_append]
    rfl
  have htrim : Trimmed ('/' :: (p.source.toList ++ ['/'])) :=
    Value.trimmed_enclosed (by decide) (by decide) _
  rw [htext]
  refine isToken_of_parseTrimmed htrim (List.cons_ne_nil _ _) ?_
  have hsource : Pattern.compile (Value.patternSource (p.source.toList ++ ['/'])) = .ok p := by
    rw [Value.patternSource_append, String.ofList_toList, Pattern.compile_source]
  rw [Value.parseTrimmed, String.toList_ofList]
  simp only [hsource]

/-- **What is shown of a value is a token for it.**  Where a value is made of nulls, truth values,
    integers of 64 bits, plain texts, and lists and maps nested at most 127 deep, what is shown of
    it is read as a value that is the same and is shown alike; and what is shown of the pattern with
    a source, whatever the source is, is read as this pattern. -/
theorem displayed_values_reread :
    (∀ v : Value, v.Plain 127 → ∃ w, Value.parse v.display = .ok (some w) ∧
      w.same v = true ∧ w.display = v.display) ∧
    ∀ source p, Pattern.compile source = .ok p → p.source = source ∧
      Value.parse (Value.pattern p).display = .ok (some (.pattern p)) := by
  constructor
  · intro v h
    have hvalue := h.isToken.value
    rw [String.ofList_toList] at hvalue
    exact ⟨v, hvalue, v.same_self, rfl⟩
  · intro source p h
    have hvalue := p.isToken_display.value
    rw [String.ofList_toList] at hvalue
    exact ⟨Pattern.source_of_compile h, hvalue⟩

/-- A map with a tab in a name and with the least integer, quotes and the end of a line in a list;
    and a pattern with slashes and blanks at its ends. -/
theorem displayed_values_reread_nested :
    let v : Value := .map [("a\t", .list [.ofInt (-9223372036854775808), .text "\"\n", .null]),
      ("b", .bool true)]
    (∃ w, Value.parse v.display = .ok (some w) ∧ w.same v = true ∧ w.display = v.display) ∧
      ∃ p, Pattern.compile " /a/ " = .ok p ∧ p.source = " /a/ " ∧
        Value.parse (Value.pattern p).display = .ok (some (.pattern p)) := by
  intro v
  obtain ⟨hvalues, hpatterns⟩ := displayed_values_reread
  have hplain : v.Plain 127 := by
    refine .map (by decide) (by decide) ?_
    refine List.forall_mem_cons.mpr ⟨.list ?_, List.forall_mem_singleton.mpr (.bool true)⟩
    refine List.forall_mem_cons.mpr ⟨.int (by decide) (by decide), ?_⟩
    exact List.forall_mem_cons.mpr ⟨.text (by decide), List.forall_mem_singleton.mpr .null⟩
  refine ⟨hvalues v hplain, ?_⟩
  have hvalid : (Pattern.compile " /a/ ").isOk = true := by decide +kernel
  obtain ⟨p, hp⟩ := exists_eq_ok_of_isOk hvalid
  exact ⟨p, hp, hpatterns _ p hp⟩

end CourseFeed
