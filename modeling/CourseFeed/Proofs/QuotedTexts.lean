import CourseFeed.Proofs.IntegerTexts

/-!
# Reading quoted texts and objects

Quoting escapes what JSON escapes too, and the two agree on the characters of ASCII that are
printed or stand for a tab or the end of a line.  So a text of these is read back from its quotes,
and so are the names of an object, which are read in the order in which they stand.

* **`isPlainChar`** — the characters on which both agree, and **`readsChar_quotedChar`**: what
  stands for one of them is read as it.
* **`readTextBody_quoted`** — a quoted text is read back.
* **`foldl_insertNamed`** — values that come in the order of their names stay as they come.
* **`readTree_object`** — members that are each read (`ReadsMember`), between braces and with
  commas between them, are read as the object of these members.
-/

namespace CourseFeed.Json

open CourseFeed.Text

/-! ## Quoted texts -/

/-- The printed characters of ASCII, the tab and the ends of lines. -/
def isPlainChar (c : Char) : Bool :=
  (0x20 ≤ c.toNat && c.toNat < 0x7F) || c = '\t' || c = '\n' || c = '\r'

/-- A text of such characters. -/
def IsPlainText (text : String) : Prop := ∀ c ∈ text.toList, isPlainChar c = true

instance (text : String) : Decidable (IsPlainText text) :=
  List.decidableBAll (fun c => isPlainChar c = true) text.toList

/-- A plain character has an escape of one letter, or stands for itself. -/
theorem quotedChar_cases {c : Char} (h : isPlainChar c = true) :
    (∃ letter, quotedChar c = ['\\', letter] ∧ simpleEscape? letter = some c ∧ letter ≠ 'u') ∨
      quotedChar c = [c] ∧ 0x20 ≤ c.toNat ∧ c ≠ '"' ∧ c ≠ '\\' := by
  by_cases hquote : c = '"'
  · exact .inl ⟨'"', by subst hquote; rfl, by subst hquote; rfl, by decide⟩
  by_cases hslash : c = '\\'
  · exact .inl ⟨'\\', by subst hslash; rfl, by subst hslash; rfl, by decide⟩
  by_cases hfeed : c = '\n'
  · exact .inl ⟨'n', by subst hfeed; rfl, by subst hfeed; rfl, by decide⟩
  by_cases hreturn : c = '\r'
  · exact .inl ⟨'r', by subst hreturn; rfl, by subst hreturn; rfl, by decide⟩
  by_cases htab : c = '\t'
  · exact .inl ⟨'t', by subst htab; rfl, by subst htab; rfl, by decide⟩
  have hprinted : 0x20 ≤ c.toNat ∧ c.toNat < 0x7F := by
    simpa [isPlainChar, hfeed, hreturn, htab] using h
  have hshown : isHidden c = false := by
    rw [isHidden, if_pos (by omega)]
    simp
    omega
  refine .inr ⟨?_, hprinted.1, hquote, hslash⟩
  rw [quotedChar, if_neg hquote, if_neg hslash, if_neg hfeed, if_neg hreturn, if_neg htab,
    if_neg (by omega), hshown, if_neg (by decide)]

/-- **What stands for a plain character is read as it.** -/
theorem readsChar_quotedChar {c : Char} (h : isPlainChar c = true) :
    ReadsChar (quotedChar c) c := by
  rcases quotedChar_cases h with ⟨letter, hpiece, hescape, hletter⟩ | ⟨hpiece, hlow, hquote, hslash⟩
  · rw [hpiece]
    exact .letter hescape hletter
  · rw [hpiece]
    exact .shown hlow hquote hslash

theorem toList_quoted (text : String) :
    (quoted text).toList = '"' :: (text.toList.flatMap quotedChar ++ ['"']) := by
  rw [quoted, String.toList_ofList]
  rfl

/-- **A quoted text of plain characters is read back**, up to its closing quote. -/
theorem readTextBody_quoted {text : String} (h : IsPlainText text) (rest : List Char)
    (here : Position) :
    ∃ p, readTextBody ⟨text.toList.flatMap quotedChar ++ '"' :: rest, here⟩ =
      .ok (text, ⟨rest, p⟩) :=
  readTextBody_pieces (fun c hc => readsChar_quotedChar (h c hc)) rest here

theorem readsItem_quoted {text : String} (h : IsPlainText text) (depth : Nat) :
    ReadsItem (readTree (depth + 1)) (quoted text).toList (.text text) where
  begins := ⟨'"', _, toList_quoted text, by decide, by decide⟩
  reads := by
    intro rest here _
    obtain ⟨p, hread⟩ := readTextBody_quoted h rest (here.after '"')
    refine ⟨p, ?_⟩
    rw [toList_quoted, List.cons_append, List.append_assoc]
    show ((readTextBody ⟨text.toList.flatMap quotedChar ++ '"' :: rest, here.after '"'⟩).bind
      fun read => .ok (.text read.1, read.2) : Except Failure (Tree × Cursor)) = _
    rw [hread]
    rfl

/-! ## Objects -/

/-- Values whose names are in order stay as they come. -/
theorem insertNamed_of_lt {α : Type} {known : List (String × α)} {name : String}
    (h : ∀ m ∈ known, m.1 < name) (value : α) :
    insertNamed name value known = known ++ [(name, value)] := by
  induction known with
  | nil => rfl
  | cons m rest ih =>
      have hless := h m List.mem_cons_self
      have hne : name ≠ m.1 := by
        intro heq
        exact String.lt_irrefl _ (heq ▸ hless)
      have hrest := ih fun m' hm' => h m' (List.mem_cons_of_mem m hm')
      rw [insertNamed, if_neg (String.lt_asymm hless), if_neg hne, hrest, List.cons_append]

theorem foldl_insertNamed {α : Type} {known members : List (String × α)}
    (h : ((known ++ members).map Prod.fst).Pairwise (· < ·)) :
    members.foldl (fun known m => insertNamed m.1 m.2 known) known = known ++ members := by
  induction members generalizing known with
  | nil => exact (List.append_nil known).symm
  | cons m rest ih =>
      have hbefore : ∀ m' ∈ known, m'.1 < m.1 := by
        rw [List.map_append, List.pairwise_append] at h
        intro m' hm'
        exact h.2.2 _ (List.mem_map_of_mem hm') _ List.mem_cons_self
      have happend : known ++ m :: rest = known ++ [m] ++ rest := List.append_cons known m rest
      rw [List.foldl_cons, insertNamed_of_lt hbefore, happend, ih (happend ▸ h)]

/-- A text is read as a member: its name stands between quotes, and a value behind a colon. -/
structure ReadsMember {α : Type} (item : Reader α) (text : List Char) (member : String × α) :
    Prop where
  plain : IsPlainText member.1
  value : ∃ valueText, text = (quoted member.1).toList ++ ':' :: valueText ∧
    ReadsItem item valueText member.2

/-- How the reader of objects takes a member from its colon on. -/
def takeMember {α : Type} (item : Reader α) (known : List (String × α)) (name : String) :
    Reader (List (String × α)) := fun c => do
  let (value, c) ← item (← readColon c)
  return (insertNamed name value known, c)

/-- A member that is read is put among those that are known. -/
theorem ReadsMember.takes {α : Type} {item : Reader α} {text : List Char} {member : String × α}
    (h : ReadsMember item text member) (known : List (String × α)) :
    TakesMember (takeMember item) text known (insertNamed member.1 member.2 known) := by
  obtain ⟨valueText, hshape, hitem⟩ := h.value
  have htext : text = '"' :: (member.1.toList.flatMap quotedChar ++ '"' :: ':' :: valueText) := by
    rw [hshape, toList_quoted, List.cons_append, List.append_assoc]
    rfl
  rw [htext]
  refine takesMember_of_pieces (fun c hc => readsChar_quotedChar (h.plain c hc)) ?_
  intro rest here hrest
  obtain ⟨p, hvalue⟩ := hitem.reads rest (here.after ':') hrest
  refine ⟨p, ?_⟩
  show (item ⟨valueText ++ rest, here.after ':'⟩).bind (fun read =>
    .ok (insertNamed member.1 read.1 known, read.2)) = _
  rw [hvalue]
  rfl

/-- Members that are read are put among those that are known, one after another. -/
theorem takesMembers_of_reads {α : Type} {item : Reader α}
    {entries : List (List Char × String × α)} (h : ∀ e ∈ entries, ReadsMember item e.1 e.2)
    (known : List (String × α)) :
    TakesMembers (takeMember item) (entries.map Prod.fst) known
      ((entries.map Prod.snd).foldl (fun known m => insertNamed m.1 m.2 known) known) := by
  induction entries generalizing known with
  | nil => exact .nil known
  | cons e more ih =>
      exact .cons ((h e List.mem_cons_self).takes known)
        (ih (fun e' he' => h e' (List.mem_cons_of_mem e he')) (insertNamed e.2.1 e.2.2 known))

/-- **Members that are read, with their names in order, are read as the object of these**, between
    braces and with commas between them. -/
theorem readTree_object {depth : Nat} {entries : List (List Char × String × Tree)}
    (h : ∀ e ∈ entries, ReadsMember (readTree (depth + 1)) e.1 e.2)
    (hsorted : ((entries.map Prod.snd).map Prod.fst).Pairwise (· < ·)) (rest : List Char)
    (here : Position) :
    ∃ p, readTree (depth + 2)
        ⟨'\x7b' :: ([','].intercalate (entries.map Prod.fst) ++ '\x7d' :: rest), here⟩ =
      .ok (.object (entries.map Prod.snd), ⟨rest, p⟩) := by
  obtain ⟨q, hread⟩ :=
    readMembers_laidOut (takesMembers_of_reads h []) .none .none rest (here.after '\x7b')
  have hfold : (entries.map Prod.snd).foldl (fun known m => insertNamed m.1 m.2 known) [] =
      entries.map Prod.snd := foldl_insertNamed hsorted
  rw [hfold, laidOut_none] at hread
  refine ⟨q.after '\x7d', ?_⟩
  show ((settle closeObject (readMembers (takeMember (readTree (depth + 1))) []
    ⟨[','].intercalate (entries.map Prod.fst) ++ '\x7d' :: rest, here.after '\x7b'⟩)).bind
      fun read => .ok (.object read.1, read.2) : Except Failure (Tree × Cursor)) = _
  rw [hread]
  rfl

end CourseFeed.Json
