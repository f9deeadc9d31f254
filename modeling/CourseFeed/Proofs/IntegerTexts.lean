import CourseFeed.Proofs.BracketedJson
import CourseFeed.Proofs.FilterScan

/-!
# Reading the texts of integers

The digits of a natural number are read back as this number while it fits a word of 64 bits, and
what follows them decides whether an integer is read at all.

* **`readUnsigned_natText`** — the digits of a word, where no point, exponent or further digit
  follows.
* **`readTree_intText`** — the text of an integer between the least signed and the largest unsigned
  word, wherever a value is read.
* **`readTree_list`** — items that are each read as a value, between brackets and with commas
  between them, are read as the list of these values.
* **`isToken_intText`** — so the text of an integer is a token for it.
-/

namespace CourseFeed.Json

open CourseFeed.Text CourseFeed.Decimal

/-! ## Digits -/

theorem digit?_of_isDigit {c : Char} (h : c.isDigit = true) : digit? c = some (c.toNat - 48) := by
  obtain ⟨hlow, hhigh⟩ := (Bool.and_eq_true _ _).mp h
  exact if_pos ⟨of_decide_eq_true hlow, of_decide_eq_true hhigh⟩

/-- Digits are read up to what is none. -/
theorem digitsFrom_append (here : Position) {front rest : List Char}
    (hfront : ∀ c ∈ front, c.isDigit = true)
    (hrest : BeginsOff (fun c => (digit? c).isSome) rest) :
    ∃ p, digitsFrom here (front ++ rest) = (front.map fun c => c.toNat - 48, ⟨rest, p⟩) := by
  induction front generalizing here with
  | nil =>
      cases rest with
      | nil => exact ⟨here, rfl⟩
      | cons c tail =>
          have hnone : digit? c = none :=
            Option.not_isSome_iff_eq_none.mp (by simp [hrest c tail rfl])
          refine ⟨here, ?_⟩
          rw [List.nil_append, digitsFrom, hnone]
          rfl
  | cons c tail ih =>
      obtain ⟨p, hp⟩ := ih (here.after c) fun d hd => hfront d (List.mem_cons_of_mem c hd)
      refine ⟨p, ?_⟩
      rw [List.cons_append, digitsFrom, digit?_of_isDigit (hfront c List.mem_cons_self), hp]
      rfl

/-- Digits behind a number make it no smaller. -/
theorem le_ofDigitChars (front : List Char) (n : Nat) : n ≤ Nat.ofDigitChars 10 front n := by
  induction front generalizing n with
  | nil => exact Nat.le_of_eq Nat.ofDigitChars_nil.symm
  | cons c tail ih =>
      rw [Nat.ofDigitChars_cons]
      exact Nat.le_trans (by omega) (ih _)

/-- Digits are appended as long as the number made of all of them is within the limit. -/
theorem appendWithin_digits {limit n : Nat} {front : List Char}
    (h : Nat.ofDigitChars 10 front n ≤ limit) :
    appendWithin limit n (front.map fun c => c.toNat - 48) =
      (Nat.ofDigitChars 10 front n, []) := by
  induction front generalizing n with
  | nil => rw [List.map_nil, appendWithin, Nat.ofDigitChars_nil]
  | cons c tail ih =>
      rw [Nat.ofDigitChars_cons, Nat.mul_comm] at h ⊢
      rw [List.map_cons, appendWithin]
      have hle : n * 10 + (c.toNat - 48) ≤ limit := Nat.le_trans (le_ofDigitChars tail _) h
      rw [if_pos hle]
      exact ih h

theorem isDigit_of_mem_natText {n : Nat} {c : Char} (h : c ∈ natText n) : c.isDigit = true :=
  Nat.isDigit_of_mem_toDigits (by decide) (by decide) h

/-- Only zero begins with a zero. -/
theorem natText_eq_cons {n : Nat} (h : n ≠ 0) :
    ∃ c rest, natText n = c :: rest ∧ c ≠ '0' := by
  induction n using Nat.strongRecOn with
  | ind n ih =>
      rw [natText, Nat.toDigits_eq_if (by decide)]
      by_cases hless : n < 10
      · rw [if_pos hless]
        have hall : ∀ d < 10, d ≠ 0 → Nat.digitChar d ≠ '0' := by decide
        exact ⟨_, [], rfl, hall n hless h⟩
      · rw [if_neg hless]
        obtain ⟨c, rest, hc, hzero⟩ := ih (n / 10) (by omega) (by omega)
        rw [natText] at hc
        exact ⟨c, rest ++ [Nat.digitChar (n % 10)], by rw [hc]; rfl, hzero⟩

theorem natText_begins (n : Nat) : ∃ c rest, natText n = c :: rest ∧ c.isDigit = true := by
  cases htext : natText n with
  | nil => exact absurd htext Nat.toDigits_ne_nil
  | cons c rest =>
      have hmem : c ∈ natText n := by rw [htext]; exact List.mem_cons_self
      exact ⟨c, rest, rfl, isDigit_of_mem_natText hmem⟩

/-- The text of an integer begins with a digit, or with a sign before one. -/
theorem intText_begins (n : Int) :
    ∃ c rest, intText n = c :: rest ∧ (c = '-' ∨ c.isDigit = true) := by
  cases n with
  | ofNat n =>
      obtain ⟨c, rest, htext, hdigit⟩ := natText_begins n
      exact ⟨c, rest, htext, Or.inr hdigit⟩
  | negSucc n => exact ⟨'-', natText (n + 1), rfl, Or.inl rfl⟩

/-- Such a character begins neither a word nor a text, a list, an object or a blank. -/
theorem of_begins {c : Char} (h : c = '-' ∨ c.isDigit = true) :
    c ∉ ['n', 't', 'f', '"', '[', ']', '\x7b', '/', ' ', '\n', '\t', '\r'] ∧
      0x20 < c.toNat ∧ c.toNat < 0x85 := by
  rcases h with rfl | hdigit
  · decide
  · obtain ⟨hlow, hhigh⟩ := (Bool.and_eq_true _ _).mp hdigit
    have hlow : 0x30 ≤ c.toNat := of_decide_eq_true hlow
    have hhigh : c.toNat ≤ 0x39 := of_decide_eq_true hhigh
    refine ⟨?_, by omega, by omega⟩
    intro hmem
    have hcode : c.toNat ∈ [110, 116, 102, 34, 91, 93, 123, 47, 32, 10, 9, 13] :=
      List.mem_map_of_mem (f := Char.toNat) hmem
    simp only [List.mem_cons, List.not_mem_nil, or_false] at hcode
    omega

/-! ## Numbers -/

theorem EndsNumber.off_digit {rest : List Char} (h : EndsNumber rest) :
    BeginsOff (fun c => (digit? c).isSome) rest := by
  intro c tail hc
  have hkind := h c tail hc
  simp only [Bool.or_eq_false_iff] at hkind
  exact hkind.1.1.1

/-- Where the text of a number ends, its whole digits make an integer. -/
theorem readAfterWhole_of_ends {rest : List Char} (h : EndsNumber rest) (negative : Bool)
    (significand : Nat) (p : Position) :
    readAfterWhole negative significand 0 ⟨rest, p⟩ =
      .ok (integerOf negative significand, ⟨rest, p⟩) := by
  have hpeek : ∀ c ∈ ['.', 'e', 'E'], (Cursor.mk rest p).peek? ≠ some c := by
    intro c hc hhead
    cases rest with
    | nil => exact nomatch hhead
    | cons d tail =>
        obtain rfl := Option.some.inj hhead
        have hkind := h d tail rfl
        simp only [Bool.or_eq_false_iff, decide_eq_false_iff_not] at hkind
        simp only [List.mem_cons, List.not_mem_nil, or_false] at hc
        rcases hc with hc | hc | hc
        · exact hkind.1.1.2 hc
        · exact hkind.1.2 hc
        · exact hkind.2 hc
  rw [readAfterWhole, if_neg (hpeek '.' (by decide)),
    if_neg (not_or.mpr ⟨hpeek 'e' (by decide), hpeek 'E' (by decide)⟩), if_pos rfl]

/-- **The digits of a word are read as this word.** -/
theorem readUnsigned_natText (negative : Bool) {n : Nat} (hn : n ≤ maxWord) {rest : List Char}
    (h : EndsNumber rest) (here : Position) :
    ∃ p, readUnsigned negative ⟨natText n ++ rest, here⟩ =
      .ok (integerOf negative n, ⟨rest, p⟩) := by
  by_cases hzero : n = 0
  · subst hzero
    have hnone : ((Cursor.mk rest (here.after '0')).peek?.bind digit?).isSome = false := by
      cases rest with
      | nil => rfl
      | cons c tail => exact h.off_digit c tail rfl
    refine ⟨here.after '0', ?_⟩
    show (if ((Cursor.mk rest (here.after '0')).peek?.bind digit?).isSome then _ else _) = _
    rw [hnone, if_neg (by decide)]
    exact readAfterWhole_of_ends h negative 0 _
  · obtain ⟨c, tail, htext, hc⟩ := natText_eq_cons hzero
    obtain ⟨p, hread⟩ := digitsFrom_append here
      (fun d hd => isDigit_of_mem_natText (n := n) hd) h.off_digit
    have hvalue : Nat.ofDigitChars 10 (natText n) 0 = n := Nat.ofDigitChars_ten_toDigits
    have hwithin := appendWithin_digits (n := 0) (Nat.le_trans (Nat.le_of_eq hvalue) hn)
    have hfirst : digit? c = some (c.toNat - 48) :=
      digit?_of_isDigit (isDigit_of_mem_natText (n := n) (by rw [htext]; exact List.mem_cons_self))
    rw [hvalue] at hwithin
    refine ⟨p, ?_⟩
    rw [htext, List.cons_append] at hread ⊢
    rw [htext] at hwithin
    have hunsigned : readUnsigned negative ⟨c :: (tail ++ rest), here⟩ =
        readAfterWhole negative n 0 ⟨rest, p⟩ := by
      simp only [readUnsigned, readDigits, hfirst, hread, hwithin, Option.isNone_some,
        Bool.false_eq_true, if_false, List.length_nil]
    rw [hunsigned]
    exact readAfterWhole_of_ends h negative n p

/-- **The text of an integer of 64 bits, signed or not, is read as this integer.** -/
theorem readNumber_intText {n : Int} (hlow : -(Nat.pow 2 63 : Nat) ≤ n) (hhigh : n ≤ maxWord)
    {rest : List Char} (h : EndsNumber rest) (here : Position) :
    ∃ p, readNumber ⟨intText n ++ rest, here⟩ = .ok (.int n, ⟨rest, p⟩) := by
  cases n with
  | ofNat n =>
      have hminus : (Cursor.mk (natText n ++ rest) here).peek? ≠ some '-' := by
        obtain ⟨c, tail, htext, hdigit⟩ := natText_begins n
        intro hhead
        rw [htext] at hhead
        obtain rfl := Option.some.inj hhead
        exact nomatch hdigit
      obtain ⟨p, hread⟩ := readUnsigned_natText false (n := n) (Int.ofNat_le.mp hhigh) h here
      refine ⟨p, ?_⟩
      rw [readNumber, intText, if_neg hminus, hread]
      rfl
  | negSucc n =>
      have hsize : n + 1 ≤ Nat.pow 2 63 := by omega
      have hword : Nat.pow 2 63 ≤ maxWord := by decide
      obtain ⟨p, hread⟩ :=
        readUnsigned_natText true (n := n + 1) (Nat.le_trans hsize hword) h (here.after '-')
      refine ⟨p, ?_⟩
      refine Eq.trans hread ?_
      rw [integerOf, if_neg (by decide), if_pos ⟨Nat.succ_pos n, hsize⟩]
      rfl

/-- The text of such an integer is read as a value. -/
theorem readTree_intText {n : Int} (hlow : -(Nat.pow 2 63 : Nat) ≤ n) (hhigh : n ≤ maxWord)
    {rest : List Char} (h : EndsNumber rest) (depth : Nat) (here : Position) :
    ∃ p, readTree (depth + 1) ⟨intText n ++ rest, here⟩ =
      .ok (.number (.int n), ⟨rest, p⟩) := by
  obtain ⟨p, hread⟩ := readNumber_intText hlow hhigh h here
  obtain ⟨c, tail, htext, hbegin⟩ := intText_begins n
  obtain ⟨hnone, -, -⟩ := of_begins hbegin
  simp only [List.mem_cons, List.not_mem_nil, or_false, not_or] at hnone
  obtain ⟨hn, ht, hf, hquote, hbracket, -, hbrace, -, hspace, hfeed, htab, hreturn⟩ := hnone
  have hoff : isSpace c = false := by simp [isSpace, hspace, hfeed, htab, hreturn]
  have hnumber : c = '-' ∨ (digit? c).isSome = true := by
    refine hbegin.imp_right ?_
    intro hdigit
    rw [digit?_of_isDigit hdigit]
    rfl
  refine ⟨p, ?_⟩
  rw [htext, List.cons_append] at hread ⊢
  rw [readTree, Cursor.skipSpace, skipSpaceFrom_of_off here (beginsOff_cons hoff)]
  simp only [Cursor.peek?, List.head?_cons]
  rw [if_pos hnumber, hread]
  rfl

/-! ## Lists -/

/-- **Items that are read as values are read as the list of these**, between brackets and with
    commas between them. -/
theorem readTree_list {depth : Nat} {entries : List (List Char × Tree)}
    (h : ∀ e ∈ entries, ReadsItem (readTree (depth + 1)) e.1 e.2) (rest : List Char)
    (here : Position) :
    ∃ p, readTree (depth + 2)
        ⟨'[' :: ([','].intercalate (entries.map Prod.fst) ++ ']' :: rest), here⟩ =
      .ok (.list (entries.map Prod.snd), ⟨rest, p⟩) := by
  obtain ⟨q, hread⟩ := readItems_laidOut h .none .none rest (here.after '[')
  rw [laidOut_none] at hread
  refine ⟨q.after ']', ?_⟩
  show ((settle closeList (readItems (readTree (depth + 1))
    ⟨[','].intercalate (entries.map Prod.fst) ++ ']' :: rest, here.after '['⟩)).bind
      fun read => .ok (.list read.1, read.2) : Except Failure (Tree × Cursor)) = _
  rw [hread]
  rfl

theorem readsItem_intText {n : Int} (hlow : -(Nat.pow 2 63 : Nat) ≤ n) (hhigh : n ≤ maxWord)
    (depth : Nat) : ReadsItem (readTree (depth + 1)) (intText n) (.number (.int n)) where
  begins := by
    obtain ⟨c, tail, htext, hbegin⟩ := intText_begins n
    obtain ⟨hnone, -, -⟩ := of_begins hbegin
    simp only [List.mem_cons, List.not_mem_nil, or_false, not_or] at hnone
    obtain ⟨-, -, -, -, -, hclose, -, -, hspace, hfeed, htab, hreturn⟩ := hnone
    exact ⟨c, tail, htext, by simp [isSpace, hspace, hfeed, htab, hreturn], hclose⟩
  reads := fun _ here h => readTree_intText hlow hhigh h depth here

end CourseFeed.Json

namespace CourseFeed

open CourseFeed.Text CourseFeed.Decimal

/-! ## Tokens -/

/-- A text without blanks at its ends is a token for the value that it holds. -/
theorem isToken_of_parseTrimmed {text : List Char} {v : Value} (htrim : Trimmed text)
    (hne : text ≠ []) (h : Value.parseTrimmed (String.ofList text) = .ok v) : IsToken text v := by
  have htrimmed : trim (String.ofList text) = String.ofList text := by
    rw [trim, String.toList_ofList, htrim.trimBlanks_eq]
  have hnonempty : ¬ (String.ofList text).isEmpty = true := by
    rw [String.isEmpty_iff, ← String.toList_eq_nil_iff, String.toList_ofList]
    exact hne
  refine .of_trimmed htrim ?_
  rw [Value.parse, htrimmed, if_neg hnonempty, h]
  rfl

/-- A text without blanks at its ends that is read as a JSON value to its end is a token. -/
theorem isToken_of_readTree {text : List Char} {tree : Json.Tree} {p : Json.Position}
    (htrim : Trimmed text) (hbegins : ∃ c rest, text = c :: rest ∧ c ≠ '/')
    (hread : Json.readTree Json.nestingLimit ⟨text, ⟨1, 0⟩⟩ = .ok (tree, ⟨[], p⟩)) :
    IsToken text (.ofTree tree) := by
  obtain ⟨c, rest, rfl, hslash⟩ := hbegins
  refine isToken_of_parseTrimmed htrim (List.cons_ne_nil c rest) ?_
  have htree : Json.Tree.parse (String.ofList (c :: rest)) = .ok tree := by
    rw [Json.Tree.parse, Json.readAll, Json.Cursor.start, String.toList_ofList, hread]
    rfl
  rw [Value.parseTrimmed, htree, String.toList_ofList]
  split
  · next heq => exact absurd (List.cons.inj heq).1 hslash
  · rfl

theorem mem_intText {n : Int} {c : Char} (h : c ∈ intText n) : c = '-' ∨ c.isDigit = true := by
  cases n with
  | ofNat n => exact Or.inr (Json.isDigit_of_mem_natText h)
  | negSucc n => exact (List.mem_cons.mp h).imp_right Json.isDigit_of_mem_natText

/-- **The text of an integer of 64 bits, signed or not, is a token for it.** -/
theorem isToken_intText {n : Int} (hlow : -(Nat.pow 2 63 : Nat) ≤ n) (hhigh : n ≤ Json.maxWord) :
    IsToken (intText n) (.ofInt n) := by
  have hnone : ∀ c ∈ intText n, isBlank c = false := by
    intro c hc
    obtain ⟨-, hlow, hhigh⟩ := Json.of_begins (mem_intText hc)
    exact isBlank_eq_false hlow hhigh
  have htrim : Trimmed (intText n) := by
    constructor
    · intro c rest htext
      exact hnone c (by rw [htext]; exact List.mem_cons_self)
    · intro c rest htext
      exact hnone c (by rw [← List.mem_reverse, htext]; exact List.mem_cons_self)
  obtain ⟨c, rest, htext, hbegin⟩ := Json.intText_begins n
  obtain ⟨p, hread⟩ := Json.readTree_intText hlow hhigh Json.endsNumber_nil 127 ⟨1, 0⟩
  rw [List.append_nil] at hread
  refine isToken_of_readTree htrim ⟨c, rest, htext, ?_⟩ hread
  rintro rfl
  exact absurd (Json.of_begins hbegin).1 (by decide)

/-- The text of a list of integers. -/
def intListText (ns : List Int) : List Char := '[' :: ([','].intercalate (ns.map intText) ++ [']'])

end CourseFeed
