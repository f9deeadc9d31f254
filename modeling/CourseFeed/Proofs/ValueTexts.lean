import CourseFeed.Filter.Criterion

/-!
# How the text of a value begins

A filter is cut into its parts before its value is read, so what a value may begin with decides
where the cuts can fall.

* **`BeginsOff`** — a text does not begin with a character of a kind.  What is cut off the front of
  a text by a kind of character is found again when such a text is put behind it
  (**`takeWhile_append_off`**, **`dropWhile_append_off`**).
* **`Trimmed`** — a text has no blanks at its ends (**`trimmed_trimBlanks`**,
  **`Trimmed.trimBlanks_eq`**).
* **`head_of_parse`** — the text of a value is one of three words or begins with one of fifteen
  characters, none of which is a blank, a sign of an operator or part of a name.
-/

namespace CourseFeed.Text

/-! ## Cutting a text where a kind of character ends -/

/-- A text does not begin with a character of a kind. -/
def BeginsOff (kind : Char → Bool) (text : List Char) : Prop :=
  ∀ c rest, text = c :: rest → kind c = false

section

variable {kind : Char → Bool} {front text : List Char}

theorem beginsOff_cons {c : Char} (h : kind c = false) : BeginsOff kind (c :: text) := by
  intro d rest hd
  rw [← (List.cons.inj hd).1]
  exact h

theorem BeginsOff.append (h : BeginsOff kind front) (hne : front ≠ []) (text : List Char) :
    BeginsOff kind (front ++ text) := by
  cases front with
  | nil => exact absurd rfl hne
  | cons c rest => exact beginsOff_cons (h c rest rfl)

theorem beginsOff_dropWhile (kind : Char → Bool) (text : List Char) :
    BeginsOff kind (text.dropWhile kind) := by
  intro c rest h
  have hnot := List.head?_dropWhile_not kind text
  rw [h] at hnot
  exact hnot

theorem BeginsOff.dropWhile_eq (h : BeginsOff kind text) : text.dropWhile kind = text := by
  cases text with
  | nil => rfl
  | cons c rest => rw [List.dropWhile_cons_of_neg (by rw [h c rest rfl]; decide)]

theorem BeginsOff.takeWhile_eq (h : BeginsOff kind text) : text.takeWhile kind = [] := by
  cases text with
  | nil => rfl
  | cons c rest => rw [List.takeWhile_cons_of_neg (by rw [h c rest rfl]; decide)]

theorem takeWhile_append_off (hfront : ∀ c ∈ front, kind c = true) (h : BeginsOff kind text) :
    (front ++ text).takeWhile kind = front := by
  rw [List.takeWhile_append_of_pos hfront, h.takeWhile_eq, List.append_nil]

theorem dropWhile_append_off (hfront : ∀ c ∈ front, kind c = true) (h : BeginsOff kind text) :
    (front ++ text).dropWhile kind = text := by
  rw [List.dropWhile_append_of_pos hfront, h.dropWhile_eq]

/-- Where nothing is left when a kind of character is dropped, there was nothing else. -/
theorem forall_of_dropWhile_eq_nil (h : text.dropWhile kind = []) : ∀ c ∈ text, kind c = true := by
  have hall := List.all_takeWhile (l := text) (p := kind)
  have hwhole := List.takeWhile_append_dropWhile (l := text) (p := kind)
  rw [h, List.append_nil] at hwhole
  rw [hwhole] at hall
  exact List.all_eq_true.mp hall

/-- Two ways to cut a text where a kind of character ends are the same. -/
theorem append_off_inj {front' text' : List Char} (hfront : ∀ c ∈ front, kind c = true)
    (hfront' : ∀ c ∈ front', kind c = true) (h : BeginsOff kind text)
    (h' : BeginsOff kind text') (heq : front ++ text = front' ++ text') :
    front = front' ∧ text = text' := by
  constructor
  · rw [← takeWhile_append_off hfront h, heq, takeWhile_append_off hfront' h']
  · rw [← dropWhile_append_off hfront h, heq, dropWhile_append_off hfront' h']

end

/-! ## Blanks at the ends -/

/-- A text without blanks at its ends. -/
structure Trimmed (text : List Char) : Prop where
  start : BeginsOff isBlank text
  stop : BeginsOff isBlank text.reverse

/-- What a text ends with, its back ends with. -/
theorem beginsOff_reverse_of_append {kind : Char → Bool} {front back : List Char}
    (h : BeginsOff kind (front ++ back).reverse) : BeginsOff kind back.reverse := by
  intro c rest hc
  refine h c (rest ++ front.reverse) ?_
  rw [List.reverse_append, hc, List.cons_append]

/-- What a text that is not empty ends with, the text with more in front ends with. -/
theorem beginsOff_reverse_append {kind : Char → Bool} {back : List Char}
    (h : BeginsOff kind back.reverse) (hne : back ≠ []) (front : List Char) :
    BeginsOff kind (front ++ back).reverse := by
  rw [List.reverse_append]
  exact h.append (fun hnil => hne (List.reverse_eq_nil_iff.mp hnil)) _

theorem dropBlanks_append (text : List Char) :
    text.takeWhile isBlank ++ dropBlanks text = text :=
  List.takeWhile_append_dropWhile

theorem mem_takeWhile_blank {text : List Char} {c : Char} (h : c ∈ text.takeWhile isBlank) :
    isBlank c = true :=
  List.all_eq_true.mp List.all_takeWhile c h

/-- A text that does not end with a blank is trimmed once its leading blanks are dropped. -/
theorem trimmed_dropBlanks {text : List Char} (h : BeginsOff isBlank text.reverse) :
    Trimmed (dropBlanks text) := by
  refine ⟨beginsOff_dropWhile isBlank text, ?_⟩
  rw [← dropBlanks_append text] at h
  exact beginsOff_reverse_of_append h

theorem Trimmed.trimBlanks_eq {text : List Char} (h : Trimmed text) : trimBlanks text = text := by
  rw [trimBlanks, dropBlanks, h.start.dropWhile_eq, dropBlanksEnd, dropBlanks,
    h.stop.dropWhile_eq, List.reverse_reverse]

theorem trimmed_trimBlanks (text : List Char) : Trimmed (trimBlanks text) := by
  have hback : Trimmed (dropBlanks (dropBlanks text).reverse) := by
    refine trimmed_dropBlanks ?_
    rw [List.reverse_reverse]
    exact beginsOff_dropWhile isBlank text
  refine ⟨hback.stop, ?_⟩
  rw [trimBlanks, dropBlanksEnd, List.reverse_reverse]
  exact hback.start

/-- A text that does not begin with a blank is not trimmed away, whatever stands before it. -/
theorem trimBlanks_append_ne_nil {gap text : List Char} (hgap : ∀ c ∈ gap, isBlank c = true)
    (h : BeginsOff isBlank text) (hne : text ≠ []) : trimBlanks (gap ++ text) ≠ [] := by
  intro hnil
  rw [trimBlanks, dropBlanks, dropWhile_append_off hgap h, dropBlanksEnd,
    List.reverse_eq_nil_iff, dropBlanks] at hnil
  cases text with
  | nil => exact hne rfl
  | cons c rest =>
      have hblank := forall_of_dropWhile_eq_nil hnil c (List.mem_reverse.mpr List.mem_cons_self)
      rw [h c rest rfl] at hblank
      exact nomatch hblank

/-- Where a text does not end with a blank, only the blanks at its start are trimmed. -/
theorem trimBlanks_of_stop {text : List Char} (h : BeginsOff isBlank text.reverse) :
    trimBlanks text = dropBlanks text := by
  have hstop := (trimmed_dropBlanks h).stop
  rw [trimBlanks, dropBlanksEnd, dropBlanks, hstop.dropWhile_eq, List.reverse_reverse]

end CourseFeed.Text

namespace CourseFeed.Json

/-! ## What a reader of words and spaces leaves -/

theorem rest_skipSpaceFrom (here : Position) (text : List Char) :
    (skipSpaceFrom here text).rest = text.dropWhile isSpace := by
  induction text generalizing here with
  | nil => rfl
  | cons c rest ih =>
      by_cases h : isSpace c = true
      · rw [skipSpaceFrom, if_pos h, ih, List.dropWhile_cons_of_pos h]
      · rw [skipSpaceFrom, if_neg h, List.dropWhile_cons_of_neg h]

/-- A word that was read stood at the front. -/
theorem rest_of_readWord {word : List Char} {c c' : Cursor} (h : readWord word c = .ok c') :
    c.rest = word ++ c'.rest := by
  induction word generalizing c with
  | nil =>
      rw [Except.ok.inj h]
      rfl
  | cons letter word ih =>
      obtain ⟨rest, here⟩ := c
      cases rest with
      | nil => exact nomatch h
      | cons ch rest =>
          simp only [readWord, Cursor.peek?, List.head?_cons, Cursor.next] at h
          by_cases hch : ch = letter
          · rw [if_pos hch] at h
            show ch :: rest = letter :: word ++ c'.rest
            rw [hch, show rest = word ++ c'.rest from ih h, List.cons_append]
          · rw [if_neg hch] at h
            exact nomatch h

end CourseFeed.Json

namespace CourseFeed

open CourseFeed.Text

/-! ## The first character of a value -/

/-- The words that are values. -/
def valueWords : List (List Char) := ["null".toList, "true".toList, "false".toList]

/-- The characters that a value other than a word may begin with. -/
def valueStarts : List Char :=
  ['/', '"', '[', '{', '-', '0', '1', '2', '3', '4', '5', '6', '7', '8', '9']

theorem mem_valueStarts_of_digit {c : Char} (h : (Json.digit? c).isSome = true) :
    c ∈ valueStarts := by
  have hrange : '0' ≤ c ∧ c ≤ '9' := by
    by_cases hc : '0' ≤ c ∧ c ≤ '9'
    · exact hc
    · rw [Json.digit?, if_neg hc] at h
      exact nomatch h
  have hlow : 48 ≤ c.toNat := hrange.1
  have hhigh : c.toNat ≤ 57 := hrange.2
  have hcodes : c.toNat ∈ [48, 49, 50, 51, 52, 53, 54, 55, 56, 57] := by
    simp only [List.mem_cons, List.not_mem_nil, or_false]
    omega
  have hall : ∀ n ∈ [48, 49, 50, 51, 52, 53, 54, 55, 56, 57], Char.ofNat n ∈ valueStarts := by
    decide
  rw [← Char.ofNat_toNat c]
  exact hall _ hcodes

/-- A blank of JSON is a blank. -/
theorem isBlank_of_isSpace {c : Char} (h : Json.isSpace c = true) : isBlank c = true := by
  simp only [Json.isSpace, Bool.or_eq_true, decide_eq_true_eq] at h
  rcases h with ((rfl | rfl) | rfl) | rfl <;> decide

/-- What a JSON reader skips at the end of a trimmed text is nothing. -/
theorem eq_nil_of_skipSpace {front : List Char} {c : Json.Cursor}
    (ht : Trimmed (front ++ c.rest)) (h : c.skipSpace.rest = []) : c.rest = [] := by
  rw [Json.Cursor.skipSpace, Json.rest_skipSpaceFrom] at h
  have hspaces := forall_of_dropWhile_eq_nil h
  have hstop := beginsOff_reverse_of_append ht.stop
  cases hrev : c.rest.reverse with
  | nil => exact List.reverse_eq_nil_iff.mp hrev
  | cons ch rest =>
      have hmem : ch ∈ c.rest := by
        rw [← List.mem_reverse, hrev]
        exact List.mem_cons_self
      have hblank := isBlank_of_isSpace (hspaces ch hmem)
      rw [hstop ch rest hrev] at hblank
      exact nomatch hblank

/-- Nothing is skipped where no space stands. -/
theorem skipSpaceFrom_of_off {text : List Char} (here : Json.Position)
    (h : BeginsOff Json.isSpace text) : Json.skipSpaceFrom here text = ⟨text, here⟩ := by
  cases text with
  | nil => rfl
  | cons c rest => rw [Json.skipSpaceFrom, h c rest rfl, if_neg (by decide)]

theorem readWord_of_bind {word : List Char} {c c' : Json.Cursor} {value tree : Json.Tree}
    (h : (do return (value, ← Json.readWord word c) : Except Json.Failure _) = .ok (tree, c')) :
    c.rest = word ++ c'.rest := by
  cases hword : Json.readWord word c with
  | error failure =>
      rw [hword] at h
      exact nomatch h
  | ok c'' =>
      rw [hword] at h
      rw [← (Prod.mk.inj (Except.ok.inj h)).2]
      exact Json.rest_of_readWord hword

/-- What a JSON value was read from is a word, or begins as values begin. -/
theorem head_of_readTree {depth : Nat} {text : List Char} {here : Json.Position}
    {tree : Json.Tree} {c' : Json.Cursor} (hstart : BeginsOff Json.isSpace text)
    (h : Json.readTree (depth + 1) ⟨text, here⟩ = .ok (tree, c')) :
    (∃ word ∈ valueWords, text = word ++ c'.rest) ∨
      ∃ c rest, text = c :: rest ∧ c ∈ valueStarts := by
  rw [Json.readTree, Json.Cursor.skipSpace, skipSpaceFrom_of_off here hstart] at h
  cases text with
  | nil => exact nomatch h
  | cons c rest =>
      simp only [Json.Cursor.peek?, List.head?_cons, Json.Cursor.next] at h
      have hword : ∀ first letters, first :: letters ∈ valueWords → c = first →
          rest = letters ++ c'.rest → ∃ word ∈ valueWords, c :: rest = word ++ c'.rest := by
        intro first letters hmem hc hrest
        refine ⟨first :: letters, hmem, ?_⟩
        rw [hc, hrest, List.cons_append]
      have hbegin : c ∈ valueStarts → ∃ d rest', c :: rest = d :: rest' ∧ d ∈ valueStarts :=
        fun hc => ⟨c, rest, rfl, hc⟩
      -- the first character decides what is read, as in the reader
      split at h
      · next heq => exact nomatch heq
      · next heq =>
          exact Or.inl (hword 'n' _ (by decide) (Option.some.inj heq) (readWord_of_bind h))
      · next heq =>
          exact Or.inl (hword 't' _ (by decide) (Option.some.inj heq) (readWord_of_bind h))
      · next heq =>
          exact Or.inl (hword 'f' _ (by decide) (Option.some.inj heq) (readWord_of_bind h))
      · next heq => exact Or.inr (hbegin (by rw [Option.some.inj heq]; decide))
      · next heq => exact Or.inr (hbegin (by rw [Option.some.inj heq]; decide))
      · next heq => exact Or.inr (hbegin (by rw [Option.some.inj heq]; decide))
      · next ch _ _ _ _ _ _ heq =>
          have hc : c = ch := Option.some.inj heq
          by_cases hnumber : ch = '-' ∨ (Json.digit? ch).isSome = true
          · rcases hnumber with hminus | hdigit
            · exact Or.inr (hbegin (by rw [hc, hminus]; decide))
            · exact Or.inr (hbegin (hc ▸ mem_valueStarts_of_digit hdigit))
          · rw [if_neg hnumber] at h
            exact nomatch h

/-- A JSON text without blanks at its ends is a word or begins as values begin. -/
theorem head_of_parseTree {text : List Char} {tree : Json.Tree} (ht : Trimmed text)
    (h : Json.Tree.parse (String.ofList text) = .ok tree) :
    text ∈ valueWords ∨ ∃ c rest, text = c :: rest ∧ c ∈ valueStarts := by
  have hstart : BeginsOff Json.isSpace text := by
    intro c rest hc
    cases hspace : Json.isSpace c with
    | false => rfl
    | true =>
        have hblank := ht.start c rest hc
        rw [isBlank_of_isSpace hspace] at hblank
        exact nomatch hblank
  rw [Json.Tree.parse, Json.readAll, Json.Cursor.start, String.toList_ofList] at h
  cases hread : Json.readTree Json.nestingLimit ⟨text, ⟨1, 0⟩⟩ with
  | error failure =>
      rw [hread] at h
      cases failure with
      | placed e => exact nomatch h
      | pending problem c => exact nomatch h
  | ok result =>
      obtain ⟨tree', c'⟩ := result
      rw [hread] at h
      by_cases hend : c'.skipSpace.rest.isEmpty = true
      · rcases head_of_readTree hstart hread with ⟨word, hword, htext⟩ | hhead
        -- the word ends the text, as nothing but spaces may follow it
        · have hnil : c'.rest = [] :=
            eq_nil_of_skipSpace (htext ▸ ht) (List.isEmpty_iff.mp hend)
          rw [hnil, List.append_nil] at htext
          exact Or.inl (htext ▸ hword)
        · exact Or.inr hhead
      · simp only [if_neg hend] at h
        exact nomatch h

/-- **The text of a value is a word or begins as values begin.** -/
theorem head_of_parse {text : List Char} {v : Value} (ht : Trimmed text)
    (h : Value.parse (String.ofList text) = .ok (some v)) :
    text ∈ valueWords ∨ ∃ c rest, text = c :: rest ∧ c ∈ valueStarts := by
  have htrim : trim (String.ofList text) = String.ofList text := by
    rw [trim, String.toList_ofList, ht.trimBlanks_eq]
  rw [Value.parse, htrim] at h
  by_cases hempty : (String.ofList text).isEmpty = true
  · rw [if_pos hempty] at h
    exact nomatch h
  · rw [if_neg hempty, Value.parseTrimmed, String.toList_ofList] at h
    split at h
    · next body =>
        exact Or.inr ⟨'/', body, rfl, List.mem_cons_self⟩
    · cases htree : Json.Tree.parse (String.ofList text) with
      | error e =>
          rw [htree] at h
          exact nomatch h
      | ok tree => exact head_of_parseTree ht htree

end CourseFeed
