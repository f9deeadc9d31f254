import CourseFeed.Proofs.Outcomes
import CourseFeed.Proofs.ValueTexts

/-!
# What is found at the front of a filter

Reading a filter looks for a name, a sign, a word or a value at the front of what is left.  Each of
these is found just where it was written, because what may follow it begins otherwise.

What filters are made of is said here with the characters themselves, apart from the tables and
tests that the reader goes by; that these find the same is what the first lemmas say.

* **`IsName`**, **`IsGap`** and **`IsToken`** — the texts of names, the gaps between the parts of a
  filter, and the texts of values.  **`isName_cons_iff`**, **`isBlank_iff`** and
  **`IsToken.trimmed`** — the reader's tests tell them.
* **`IsSign`** and **`IsWord`** — the operators as they are written.  **`isSign_iff`** and
  **`isWord_iff`** — the reader's tables have all of them, and no others.
* **`splitName_append`** and **`splitName_cases`** — a name is found where it ends.
* **`IsSign.sign?_append`** and **`of_sign?`** — so is a sign, unless another follows.
* **`wordOperator?_append`** and **`of_wordOperator?`** — so is a word, if a gap follows.
* **`exists_gaps`** and **`trimBlanks_gaps`** — a text is a middle without blanks at its ends
  between two gaps; **`trimBlanks_front`** — a front without such blanks stays in front of it.
* **`IsToken.off_sign`** and **`IsToken.wordOperator?_eq`** — no value is taken for a sign or a
  word.
-/

namespace CourseFeed

open CourseFeed.Text

/-! ## What filters are made of -/

/-- A character that begins names: a letter of ASCII or an underscore. -/
def BeginsName (c : Char) : Prop := 'A' ≤ c ∧ c ≤ 'Z' ∨ 'a' ≤ c ∧ c ≤ 'z' ∨ c = '_'

/-- A name: one of these characters, and behind it any number of them and of digits. -/
def IsName : List Char → Prop
  | [] => False
  | c :: rest => BeginsName c ∧ ∀ d ∈ rest, BeginsName d ∨ '0' ≤ d ∧ d ≤ '9'

/-- The codes of the blanks. -/
def blankCodes : List Nat :=
  [0x9, 0xA, 0xB, 0xC, 0xD, 0x20, 0x85, 0xA0, 0x1680, 0x2000, 0x2001, 0x2002, 0x2003, 0x2004,
    0x2005, 0x2006, 0x2007, 0x2008, 0x2009, 0x200A, 0x2028, 0x2029, 0x202F, 0x205F, 0x3000]

/-- A gap: any number of blanks. -/
def IsGap (text : List Char) : Prop := ∀ c ∈ text, c.toNat ∈ blankCodes

instance (text : List Char) : Decidable (IsGap text) :=
  List.decidableBAll (fun c : Char => c.toNat ∈ blankCodes) text

/-- The text of a value, with no blanks at its ends. -/
structure IsToken (text : List Char) (v : Value) : Prop where
  head : ∀ c, text.head? = some c → c.toNat ∉ blankCodes
  last : ∀ c, text.getLast? = some c → c.toNat ∉ blankCodes
  value : Value.parse (String.ofList text) = .ok (some v)

/-- The signs, and the operators that they stand for. -/
inductive IsSign : String → Operator → Prop
  | lt : IsSign "<" .lt
  | le : IsSign "<=" .le
  | eq : IsSign "==" .eq
  | ne : IsSign "!=" .ne
  | ge : IsSign ">=" .ge
  | gt : IsSign ">" .gt
  | tilde : IsSign "~" .tilde
  | equalTilde : IsSign "=~" .equalTilde
  | notTilde : IsSign "!~" .notTilde

/-- The words, and the operators that they stand for. -/
inductive IsWord : String → Operator → Prop
  | isIn : IsWord "in" .isIn
  | keyIn : IsWord "keyin" .keyIn
  | valueIn : IsWord "valuein" .valueIn

/-! ## What the reader goes by -/

section

variable {c : Char} {text : List Char} {v : Value} {op : Operator}

theorem isNameStart_iff : isNameStart c = true ↔ BeginsName c := by
  have hupper : c.isUpper = true ↔ 'A' ≤ c ∧ c ≤ 'Z' := decide_eq_true_iff
  have hlower : c.isLower = true ↔ 'a' ≤ c ∧ c ≤ 'z' :=
    Bool.and_eq_true_iff.trans (and_congr decide_eq_true_iff decide_eq_true_iff)
  have halpha : c.isAlpha = true ↔ c.isUpper = true ∨ c.isLower = true := Bool.or_eq_true_iff
  rw [isNameStart, Bool.or_eq_true, halpha, hupper, hlower, decide_eq_true_iff, or_assoc]
  exact Iff.rfl

theorem isNameChar_iff : isNameChar c = true ↔ BeginsName c ∨ '0' ≤ c ∧ c ≤ '9' := by
  have hdigit : c.isDigit = true ↔ '0' ≤ c ∧ c ≤ '9' :=
    Bool.and_eq_true_iff.trans (and_congr decide_eq_true_iff decide_eq_true_iff)
  have halphanum : c.isAlphanum = true ↔ c.isAlpha = true ∨ c.isDigit = true :=
    Bool.or_eq_true_iff
  rw [← isNameStart_iff, isNameChar, isNameStart, Bool.or_eq_true, Bool.or_eq_true, halphanum,
    hdigit, or_right_comm]

/-- A name is what the reader takes for one. -/
theorem isName_cons_iff :
    IsName (c :: text) ↔ isNameStart c = true ∧ ∀ d ∈ text, isNameChar d = true := by
  simp only [isNameStart_iff, isNameChar_iff]
  exact Iff.rfl

/-- The blanks are the characters that the reader takes for blanks. -/
theorem isBlank_iff : isBlank c = true ↔ c.toNat ∈ blankCodes := by
  have hnone : CharSet.coversCode c.toNat [] = false := rfl
  simp only [isBlank, CharSet.contains, blanks, CharSet.coversCode_cons_iff, hnone, blankCodes,
    Bool.false_eq_true, List.mem_cons, List.not_mem_nil, or_false]
  omega

theorem isGap_iff : IsGap text ↔ ∀ c ∈ text, isBlank c = true := by
  simp only [isBlank_iff]
  exact Iff.rfl

theorem IsGap.blank (h : IsGap text) (hc : c ∈ text) : isBlank c = true :=
  isBlank_iff.mpr (h c hc)

/-- The reader's table of signs has the signs. -/
theorem isSign_iff {sign : String} : IsSign sign op ↔ op ∈ Operator.signs ∧ op.symbol = sign := by
  constructor
  · intro h
    cases h <;> exact ⟨by decide, rfl⟩
  · simp only [Operator.signs, List.mem_cons, List.not_mem_nil, or_false]
    rintro ⟨hop, rfl⟩
    rcases hop with rfl | rfl | rfl | rfl | rfl | rfl | rfl | rfl | rfl <;> constructor

/-- The reader's table of words has the words. -/
theorem isWord_iff {word : String} : IsWord word op ↔ op ∈ Operator.words ∧ op.symbol = word := by
  constructor
  · intro h
    cases h <;> exact ⟨by decide, rfl⟩
  · simp only [Operator.words, List.mem_cons, List.not_mem_nil, or_false]
    rintro ⟨hop, rfl⟩
    rcases hop with rfl | rfl | rfl <;> constructor

theorem IsToken.trimmed (h : IsToken text v) : Trimmed text := by
  constructor
  · intro c rest htext
    exact Bool.eq_false_iff.mpr fun hc => h.head c (htext ▸ rfl) (isBlank_iff.mp hc)
  · intro c rest hrev
    refine Bool.eq_false_iff.mpr fun hc => h.last c ?_ (isBlank_iff.mp hc)
    rw [← List.head?_reverse, hrev]
    rfl

theorem IsToken.of_trimmed (ht : Trimmed text)
    (hv : Value.parse (String.ofList text) = .ok (some v)) : IsToken text v := by
  have hfree : ∀ {text : List Char}, BeginsOff isBlank text → ∀ c, text.head? = some c →
      c.toNat ∉ blankCodes := by
    intro text hoff c hc hmem
    obtain ⟨rest, htext⟩ := List.head?_eq_some_iff.mp hc
    exact Bool.eq_false_iff.mp (hoff c rest htext) (isBlank_iff.mpr hmem)
  refine ⟨hfree ht.start, ?_, hv⟩
  intro c hc
  exact hfree ht.stop c (List.head?_reverse.trans hc)

end

/-! ## The text of a value is no sign, no word of an operator and no name -/

/-- Whether the sign of an operator begins with a character. -/
def isSignStart (c : Char) : Bool := c ∈ ['<', '=', '>', '!', '~']

section

variable {text : List Char} {v : Value}

/-- A value begins with the first letter of a word or as other values do. -/
theorem IsToken.begins (h : IsToken text v) :
    ∃ c rest, text = c :: rest ∧ c ∈ 'n' :: 't' :: 'f' :: valueStarts := by
  rcases head_of_parse h.trimmed h.value with hword | ⟨c, rest, htext, hc⟩
  · simp only [valueWords, List.mem_cons, List.not_mem_nil, or_false] at hword
    rcases hword with rfl | rfl | rfl
    · exact ⟨'n', _, rfl, by decide⟩
    · exact ⟨'t', _, rfl, by decide⟩
    · exact ⟨'f', _, rfl, by decide⟩
  · refine ⟨c, rest, htext, ?_⟩
    exact List.mem_cons_of_mem _ (List.mem_cons_of_mem _ (List.mem_cons_of_mem _ hc))

theorem IsToken.ne_nil (h : IsToken text v) : text ≠ [] := by
  obtain ⟨c, rest, htext, -⟩ := h.begins
  rw [htext]
  exact List.cons_ne_nil c rest

/-- No value begins with a character of a kind of which no such first character is. -/
theorem IsToken.beginsOff (h : IsToken text v) {kind : Char → Bool}
    (hkind : ('n' :: 't' :: 'f' :: valueStarts).any kind = false) : BeginsOff kind text := by
  obtain ⟨c, rest, rfl, hc⟩ := h.begins
  exact beginsOff_cons (Bool.eq_false_iff.mpr (List.any_eq_false.mp hkind c hc))

theorem IsToken.off_sign (h : IsToken text v) : BeginsOff isSignStart text :=
  h.beginsOff (by decide)

/-- A name is found at the front of a value only where it is all of it, and then it is none of the
    words of operators. -/
theorem IsToken.splitName_eq (h : IsToken text v) :
    splitName text = ([], text) ∨ text ∈ valueWords ∧ splitName text = (text, []) := by
  rcases head_of_parse h.trimmed h.value with hword | ⟨c, rest, rfl, hc⟩
  · have hall : ∀ word ∈ valueWords, splitName word = (word, []) := by decide
    exact Or.inr ⟨hword, hall text hword⟩
  · have hnone : valueStarts.any isNameStart = false := by decide
    refine Or.inl ?_
    rw [splitName, if_neg (List.any_eq_false.mp hnone c hc)]

theorem IsToken.wordOperator?_eq (h : IsToken text v) :
    ExpressionParts.wordOperator? text = none := by
  rcases h.splitName_eq with hsplit | ⟨hword, hsplit⟩
  · simp only [ExpressionParts.wordOperator?, hsplit]
    rfl
  -- a value that is a name is `null`, `true` or `false`, and none of these is an operator
  · have hall : ∀ word ∈ valueWords, Operator.word? word = none := by decide
    simp only [ExpressionParts.wordOperator?, hsplit, hall text hword]
    rfl

end

/-! ## Operators at the front of a text -/

theorem Operator.sign?_eq_none {text : List Char} (h : BeginsOff isSignStart text) :
    Operator.sign? text = none := by
  cases text with
  | nil => rfl
  | cons c rest =>
      have hc := h c rest rfl
      simp only [isSignStart, List.mem_cons, List.not_mem_nil, or_false, decide_eq_false_iff_not,
        not_or] at hc
      obtain ⟨hlt, heq, hgt, hbang, htilde⟩ := hc
      simp [Operator.sign?, Operator.signs, Operator.symbol, Ne.symm hlt, Ne.symm heq,
        Ne.symm hgt, Ne.symm hbang, Ne.symm htilde]

namespace IsSign

variable {sign : String} {op : Operator}

theorem ne_nil (h : IsSign sign op) : sign.toList ≠ [] := by
  cases h <;> decide

theorem off_blank (h : IsSign sign op) (text : List Char) :
    BeginsOff isBlank (sign.toList ++ text) := by
  cases h <;> exact beginsOff_cons (by decide)

theorem off_name (h : IsSign sign op) (text : List Char) :
    BeginsOff isNameChar (sign.toList ++ text) := by
  cases h <;> exact beginsOff_cons (by decide)

/-- An operator is written as one sign only. -/
theorem unique {sign' : String} (h : IsSign sign op) (h' : IsSign sign' op) : sign = sign' :=
  (isSign_iff.mp h).2.symm.trans (isSign_iff.mp h').2

/-- A sign is found where no second sign follows it. -/
theorem sign?_append (hsign : IsSign sign op) {text : List Char} (h : BeginsOff isSignStart text) :
    Operator.sign? (sign.toList ++ text) = some (op, text) := by
  cases text with
  | nil => cases hsign <;> decide
  | cons c rest =>
      have hc := h c rest rfl
      simp only [isSignStart, List.mem_cons, List.not_mem_nil, or_false, decide_eq_false_iff_not,
        not_or] at hc
      -- the signs are tried in turn; only a `=` behind one could make it another
      obtain ⟨-, heq, -, -, -⟩ := hc
      cases hsign <;> (simp [Operator.sign?, Operator.signs, Operator.symbol, Ne.symm heq]; rfl)

end IsSign

namespace IsWord

variable {word : String} {op : Operator}

theorem ne_nil (h : IsWord word op) : word.toList ≠ [] := by
  cases h <;> decide

theorem off_blank (h : IsWord word op) (text : List Char) :
    BeginsOff isBlank (word.toList ++ text) := by
  cases h <;> exact beginsOff_cons (by decide)

theorem off_sign (h : IsWord word op) (text : List Char) :
    BeginsOff isSignStart (word.toList ++ text) := by
  cases h <;> exact beginsOff_cons (by decide)

/-- An operator is written as one word only. -/
theorem unique {word' : String} (h : IsWord word op) (h' : IsWord word' op) : word = word' :=
  (isWord_iff.mp h).2.symm.trans (isWord_iff.mp h').2

/-- A word is a name. -/
theorem isName (h : IsWord word op) : IsName word.toList := by
  cases h <;> exact isName_cons_iff.mpr ⟨by decide, List.all_eq_true.mp (by decide)⟩

end IsWord

theorem of_sign? {op : Operator} {text tail : List Char}
    (h : Operator.sign? text = some (op, tail)) :
    ∃ sign, IsSign sign op ∧ text = sign.toList ++ tail := by
  obtain ⟨op', hmem, hfound⟩ := List.exists_of_findSome?_eq_some h
  by_cases hfront : op'.symbol.toList.isPrefixOf text = true
  · rw [if_pos hfront] at hfound
    obtain ⟨rfl, rfl⟩ := Prod.mk.inj (Option.some.inj hfound)
    refine ⟨_, isSign_iff.mpr ⟨hmem, rfl⟩, ?_⟩
    obtain ⟨rest, rfl⟩ := List.isPrefixOf_iff_prefix.mp hfront
    rw [← String.length_toList, List.drop_left]
  · rw [if_neg hfront] at hfound
    exact nomatch hfound

/-! ## Names at the front of a text -/

section

variable {name text : List Char}

theorem isNameChar_of_isNameStart {c : Char} (h : isNameStart c = true) : isNameChar c = true :=
  isNameChar_iff.mpr (.inl (isNameStart_iff.mp h))

/-- A name is found where it ends. -/
theorem splitName_append (hname : IsName name) (h : BeginsOff isNameChar text) :
    splitName (name ++ text) = (name, text) := by
  cases name with
  | nil => exact False.elim hname
  | cons c rest =>
      obtain ⟨hc, hrest⟩ := isName_cons_iff.mp hname
      rw [List.cons_append, splitName, if_pos hc, takeWhile_append_off hrest h,
        dropWhile_append_off hrest h]

/-- Either no name is found, or one that ends where it was found to end. -/
theorem splitName_cases (text : List Char) :
    splitName text = ([], text) ∨
      ∃ name after, IsName name ∧ BeginsOff isNameChar after ∧ text = name ++ after := by
  cases text with
  | nil => exact Or.inl rfl
  | cons c rest =>
      by_cases hc : isNameStart c = true
      · refine Or.inr ⟨c :: rest.takeWhile isNameChar, rest.dropWhile isNameChar,
          isName_cons_iff.mpr ⟨hc, ?_⟩, beginsOff_dropWhile isNameChar rest, ?_⟩
        · exact List.all_eq_true.mp List.all_takeWhile
        · rw [List.cons_append, List.takeWhile_append_dropWhile]
      · rw [splitName, if_neg hc]
        exact Or.inl rfl

theorem IsName.ne_nil (h : IsName name) : name ≠ [] := by
  cases name with
  | nil => exact False.elim h
  | cons c rest => exact List.cons_ne_nil c rest

end

/-! ## Gaps -/

theorem isGap_takeWhile (text : List Char) : IsGap (text.takeWhile isBlank) :=
  isGap_iff.mpr fun _ hc => mem_takeWhile_blank hc

/-- What begins off the characters of a kind still does so behind a gap, if blanks are not of the
    kind. -/
theorem IsGap.beginsOff_append {gap text : List Char} {kind : Char → Bool} (h : IsGap gap)
    (hkind : ∀ {c}, isBlank c = true → kind c = false) (htext : BeginsOff kind text) :
    BeginsOff kind (gap ++ text) := by
  cases gap with
  | nil => exact htext
  | cons c rest => exact beginsOff_cons (hkind (h.blank List.mem_cons_self))

/-- Between the space and the first control beyond ASCII there is no blank. -/
theorem isBlank_eq_false {c : Char} (hlow : 0x20 < c.toNat) (hhigh : c.toNat < 0x85) :
    isBlank c = false := by
  refine Bool.eq_false_iff.mpr fun hblank => ?_
  have hcode := isBlank_iff.mp hblank
  simp only [blankCodes, List.mem_cons, List.not_mem_nil, or_false] at hcode
  omega

/-- The characters of names lie between the digits and the small letters. -/
theorem toNat_of_isNameChar {c : Char} (h : isNameChar c = true) :
    0x30 ≤ c.toNat ∧ c.toNat ≤ 0x7A := by
  rcases isNameChar_iff.mp h with (⟨hlow, hhigh⟩ | ⟨hlow, hhigh⟩ | rfl) | ⟨hlow, hhigh⟩
  · have hupper : 0x41 ≤ c.toNat ∧ c.toNat ≤ 0x5A := ⟨hlow, hhigh⟩
    omega
  · have hlower : 0x61 ≤ c.toNat ∧ c.toNat ≤ 0x7A := ⟨hlow, hhigh⟩
    omega
  · decide
  · have hdigit : 0x30 ≤ c.toNat ∧ c.toNat ≤ 0x39 := ⟨hlow, hhigh⟩
    omega

theorem isNameChar_of_isBlank {c : Char} (h : isBlank c = true) : isNameChar c = false := by
  cases hname : isNameChar c with
  | false => rfl
  | true =>
      obtain ⟨hlow, hhigh⟩ := toNat_of_isNameChar hname
      rw [isBlank_eq_false (by omega) (by omega)] at h
      exact nomatch h

/-- A name does not go on behind a gap that is not empty. -/
theorem IsGap.off_name {gap text : List Char} (h : IsGap gap) (hne : gap ≠ []) :
    BeginsOff isNameChar (gap ++ text) := by
  cases gap with
  | nil => exact absurd rfl hne
  | cons c rest => exact beginsOff_cons (isNameChar_of_isBlank (h.blank List.mem_cons_self))

/-- A text is its middle without blanks at the ends, between two gaps. -/
theorem exists_gaps (text : List Char) :
    ∃ lead trail, IsGap lead ∧ IsGap trail ∧ text = lead ++ (trimBlanks text ++ trail) := by
  have hback : dropBlanks text =
      trimBlanks text ++ ((dropBlanks text).reverse.takeWhile isBlank).reverse := by
    rw [trimBlanks, dropBlanksEnd, ← List.reverse_append, dropBlanks_append, List.reverse_reverse]
  refine ⟨text.takeWhile isBlank, ((dropBlanks text).reverse.takeWhile isBlank).reverse,
    isGap_takeWhile text, ?_, ?_⟩
  · exact isGap_iff.mpr fun c hc => mem_takeWhile_blank (List.mem_reverse.mp hc)
  · rw [← hback, dropBlanks_append]

/-- What stands between two gaps and has no blanks at its ends is what is left without these. -/
theorem trimBlanks_gaps {lead text trail : List Char} (hlead : IsGap lead) (htrail : IsGap trail)
    (h : Trimmed text) : trimBlanks (lead ++ (text ++ trail)) = text := by
  rw [trimBlanks, dropBlanks, List.dropWhile_append_of_pos fun _ => hlead.blank]
  cases text with
  | nil =>
      have hoff : BeginsOff isBlank [] := by
        intro c rest hnil
        cases hnil
      have hnone : (trail ++ []).dropWhile isBlank = [] :=
        dropWhile_append_off (isGap_iff.mp htrail) hoff
      rw [List.append_nil] at hnone
      rw [List.nil_append, hnone]
      rfl
  | cons c rest =>
      have hstart : BeginsOff isBlank (c :: rest ++ trail) :=
        h.start.append (List.cons_ne_nil c rest) trail
      have hback : ∀ d ∈ trail.reverse, isBlank d = true :=
        fun d hd => htrail.blank (List.mem_reverse.mp hd)
      rw [hstart.dropWhile_eq, dropBlanksEnd, dropBlanks, List.reverse_append,
        dropWhile_append_off hback h.stop, List.reverse_reverse]

/-- Gaps around a text change nothing of what it is without blanks at its ends. -/
theorem trimBlanks_append_gaps {lead trail : List Char} (hlead : IsGap lead)
    (htrail : IsGap trail) (text : List Char) :
    trimBlanks (lead ++ (text ++ trail)) = trimBlanks text := by
  obtain ⟨lead', trail', hlead', htrail', htext⟩ := exists_gaps text
  have hregroup : lead ++ (text ++ trail) =
      (lead ++ lead') ++ (trimBlanks text ++ (trail' ++ trail)) := by
    rw [congrArg (· ++ trail) htext]
    simp only [List.append_assoc]
  rw [hregroup]
  exact trimBlanks_gaps (List.forall_mem_append.mpr ⟨hlead, hlead'⟩)
    (List.forall_mem_append.mpr ⟨htrail', htrail⟩) (trimmed_trimBlanks text)

theorem isGap_nil : IsGap [] := fun _ hc => absurd hc List.not_mem_nil

theorem trimBlanks_gap {lead : List Char} (hlead : IsGap lead) (text : List Char) :
    trimBlanks (lead ++ text) = trimBlanks text := by
  have hgaps := trimBlanks_append_gaps hlead isGap_nil text
  rwa [List.append_nil] at hgaps

/-- A text whose front and back have no blanks at their ends has none. -/
theorem Text.Trimmed.append {front back : List Char} (hfront : Trimmed front) (hne : front ≠ [])
    (hback : Trimmed back) (hne' : back ≠ []) (mid : List Char) :
    Trimmed (front ++ (mid ++ back)) := by
  refine ⟨hfront.start.append hne _, ?_⟩
  rw [← List.append_assoc]
  exact beginsOff_reverse_append hback.stop hne' _

/-- Behind a front without blanks at its ends, what is left of a text stands behind a gap. -/
theorem trimBlanks_front {front : List Char} (h : Trimmed front) (hne : front ≠ [])
    (text : List Char) :
    ∃ gap, IsGap gap ∧ trimBlanks (front ++ text) = front ++ (gap ++ trimBlanks text) := by
  obtain ⟨lead, trail, hlead, htrail, htext⟩ := exists_gaps text
  by_cases hnil : trimBlanks text = []
  · refine ⟨[], isGap_nil, ?_⟩
    rw [hnil, List.nil_append] at htext
    rw [hnil, htext, List.append_nil, List.append_nil]
    exact trimBlanks_gaps isGap_nil (List.forall_mem_append.mpr ⟨hlead, htrail⟩) h
  · refine ⟨lead, hlead, ?_⟩
    have hregroup : front ++ text = [] ++ ((front ++ (lead ++ trimBlanks text)) ++ trail) := by
      rw [congrArg (front ++ ·) htext]
      simp only [List.append_assoc, List.nil_append]
    rw [hregroup]
    exact trimBlanks_gaps isGap_nil htrail (h.append hne (trimmed_trimBlanks text) hnil lead)

theorem isSignStart_of_isBlank {c : Char} (h : isBlank c = true) : isSignStart c = false := by
  cases hsign : isSignStart c with
  | false => rfl
  | true =>
      have hnone : ['<', '=', '>', '!', '~'].any isBlank = false := by decide
      exact absurd h (List.any_eq_false.mp hnone c (of_decide_eq_true hsign))

namespace ExpressionParts

variable {expression : String} {op : Operator} {text tail : List Char} {v : Value}

/-- The value behind an operator is found behind a gap. -/
theorem operatorValue_append {gap token : List Char} (hgap : IsGap gap) (h : IsToken token v) :
    operatorValue expression op (gap ++ token) = .ok (String.ofList token) := by
  have htrim : trimBlanks (gap ++ token) = token := by
    rw [trimBlanks_of_stop (beginsOff_reverse_append h.trimmed.stop h.ne_nil gap)]
    exact dropWhile_append_off (isGap_iff.mp hgap) h.trimmed.start
  simp only [operatorValue, htrim, List.isEmpty_eq_false_iff.mpr h.ne_nil]
  rfl

/-- What is found behind an operator stands there behind a gap. -/
theorem of_operatorValue {value : String} (hstop : BeginsOff isBlank tail.reverse)
    (h : operatorValue expression op tail = .ok value) :
    ∃ gap token, IsGap gap ∧ Trimmed token ∧ tail = gap ++ token ∧
      value = String.ofList token := by
  refine ⟨tail.takeWhile isBlank, dropBlanks tail, isGap_takeWhile tail, trimmed_dropBlanks hstop,
    (dropBlanks_append tail).symm, ?_⟩
  rw [operatorValue, trimBlanks_of_stop hstop] at h
  by_cases hempty : (dropBlanks tail).isEmpty = true
  · simp only [if_pos hempty] at h
    exact nomatch h
  · simp only [if_neg hempty] at h
    exact (Except.ok.inj h).symm

/-- A word is found where a blank follows it. -/
theorem wordOperator?_append {word : String} (hword : IsWord word op)
    (h : BeginsOff isNameChar text) (hblank : startsBlank text = true) :
    wordOperator? (word.toList ++ text) = some (op, text) := by
  have hfound : Operator.word? word.toList = some op := by
    cases hword <;> decide
  simp only [wordOperator?, splitName_append hword.isName h, hfound, hblank, Bool.or_true, if_true,
    Option.bind_some]

theorem of_wordOperator? (h : wordOperator? text = some (op, tail)) :
    ∃ word, IsWord word op ∧ text = word.toList ++ tail ∧
      (tail = [] ∨ startsBlank tail = true) := by
  rcases splitName_cases text with hnone | ⟨name, after, hname, hafter, rfl⟩
  · simp only [wordOperator?, hnone] at h
    exact nomatch h
  · simp only [wordOperator?, splitName_append hname hafter] at h
    obtain ⟨op', hword, hfound⟩ := Option.bind_eq_some_iff.mp h
    by_cases hend : (after.isEmpty || startsBlank after) = true
    · rw [if_pos hend] at hfound
      obtain ⟨rfl, rfl⟩ := Prod.mk.inj (Option.some.inj hfound)
      have hsymbol := List.find?_some hword
      refine ⟨_, isWord_iff.mpr ⟨List.mem_of_find?_eq_some hword, rfl⟩, ?_, ?_⟩
      · rw [of_decide_eq_true hsymbol]
      · rw [Bool.or_eq_true, List.isEmpty_iff] at hend
        exact hend
    · rw [if_neg hend] at hfound
      exact nomatch hfound

end ExpressionParts

end CourseFeed
