import CourseFeed.Proofs.FilterScan

/-!
# The grammar of filters

A filter is read by cutting it up from the front.  This file says which sentences there are, and
that the reader accepts these and no others, each in one way.

* **`Phrase`** and **`Sentence`** — the sentences, as their parts and the gaps between them;
  **`Phrase.Formed`** and **`Sentence.Valid`** say which parts go together.
* **`Operator.Asks`**, **`Value.Asks`** and **`Comparison.Suits`** — what is asked of a value, with
  an operator and without one, and of which values it can be asked.
* **`Reading`** and **`Reading.Of`** — an expression as a sentence between two gaps.
* **`split_text`** — the cuts fall where a phrase has its gaps.
* **`exists_phrase`** — where cutting leaves the text of a value, the parts are those of a phrase.
* **`Phrase.eq_of_text_eq`** — a text is a phrase in one way at most.
* **`Criterion.parse_eq_ok_iff`** — what is accepted, and what it means.
-/

namespace CourseFeed

open CourseFeed.Text

/-! ## Sentences -/

/-- What may stand behind a `!`: a value alone, or a name and a value with a sign, a word or
    nothing between them. -/
inductive Phrase where
  | alone (token : List Char)
  | signed (name gap : List Char) (sign : String) (op : Operator) (gap' token : List Char)
  | worded (name gap : List Char) (word : String) (op : Operator) (gap' token : List Char)
  | plain (name gap token : List Char)
  deriving Repr, DecidableEq

namespace Phrase

/-- The text of a phrase. -/
def text : Phrase → List Char
  | alone token => token
  | signed name gap written _ gap' token | worded name gap written _ gap' token =>
    name ++ (gap ++ (written.toList ++ (gap' ++ token)))
  | plain name gap token => name ++ (gap ++ token)

/-- The name in a phrase. -/
def name? : Phrase → Option (List Char)
  | alone _ => none
  | signed name _ _ _ _ _ | worded name _ _ _ _ _ | plain name _ _ => some name

/-- The operator in a phrase. -/
def operator? : Phrase → Option Operator
  | signed _ _ _ op _ _ | worded _ _ _ op _ _ => some op
  | alone _ | plain _ _ _ => none

/-- The text of the value in a phrase. -/
def token : Phrase → List Char
  | alone token | signed _ _ _ _ _ token | worded _ _ _ _ _ token | plain _ _ token => token

/-- The parts of a phrase without its gaps. -/
def parts (p : Phrase) : ExpressionParts :=
  ⟨p.name?.map String.ofList, p.operator?, String.ofList p.token⟩

/-- What the parts of a phrase must be.  A sign or a word is what its operator is written as.
    Around a word, and where there is no operator, the gaps are not empty. -/
def Formed (v : Value) : Phrase → Prop
  | alone token => IsToken token v
  | signed name gap sign op gap' token =>
    IsName name ∧ IsGap gap ∧ IsSign sign op ∧ IsGap gap' ∧ IsToken token v
  | worded name gap word op gap' token =>
    IsName name ∧ (IsGap gap ∧ gap ≠ []) ∧ IsWord word op ∧ (IsGap gap' ∧ gap' ≠ []) ∧
      IsToken token v
  | plain name gap token => IsName name ∧ (IsGap gap ∧ gap ≠ []) ∧ IsToken token v

end Phrase

/-- What operators ask.  The value is asked about the field, so the sides of an order change
    places. -/
inductive Operator.Asks : Operator → Comparison → Prop
  | lt : Operator.Asks .lt .greaterThan
  | le : Operator.Asks .le .greaterOrEqual
  | eq : Operator.Asks .eq .equals
  | ne : Operator.Asks .ne .notEquals
  | ge : Operator.Asks .ge .lessOrEqual
  | gt : Operator.Asks .gt .lessThan
  | tilde : Operator.Asks .tilde .isMatch
  | equalTilde : Operator.Asks .equalTilde .isMatch
  | notTilde : Operator.Asks .notTilde .isMatch
  | isIn : Operator.Asks .isIn .contains
  | keyIn : Operator.Asks .keyIn .hasKey
  | valueIn : Operator.Asks .valueIn .hasValue

/-- What values ask without an operator. -/
inductive Value.Asks : Value → Comparison → Prop
  | null : Value.Asks .null .equals
  | bool (b : Bool) : Value.Asks (.bool b) .equals
  | number (n : Json.Number) : Value.Asks (.number n) .equals
  | text (a : String) : Value.Asks (.text a) .equals
  | list (items : List Value) : Value.Asks (.list items) .contains
  | map (members : List (String × Value)) : Value.Asks (.map members) .contains
  | pattern (p : Pattern) : Value.Asks (.pattern p) .isMatch

/-- Which values can be asked what. -/
inductive Comparison.Suits : Comparison → Value → Prop
  | equals (v : Value) : Comparison.Suits .equals v
  | notEquals (v : Value) : Comparison.Suits .notEquals v
  | number (n : Json.Number) {c : Comparison}
      (h : c ∈ [.greaterThan, .greaterOrEqual, .lessThan, .lessOrEqual]) :
      Comparison.Suits c (.number n)
  | text (a : String) {c : Comparison}
      (h : c ∈ [.greaterThan, .greaterOrEqual, .lessThan, .lessOrEqual, .contains]) :
      Comparison.Suits c (.text a)
  | list (items : List Value) : Comparison.Suits .contains (.list items)
  | map (members : List (String × Value)) {c : Comparison}
      (h : c ∈ [.contains, .hasKey, .hasValue]) : Comparison.Suits c (.map members)
  | pattern (p : Pattern) : Comparison.Suits .isMatch (.pattern p)

/-- A filter: a phrase, and before it perhaps a `!` with a gap behind it. -/
structure Sentence where
  bang? : Option (List Char)
  phrase : Phrase
  deriving Repr, DecidableEq

namespace Sentence

/-- The text of a sentence. -/
def text (s : Sentence) : List Char :=
  s.bang?.elim s.phrase.text fun gap => '!' :: (gap ++ s.phrase.text)

/-- A sentence is formed rightly, its extractor is in a table, and what its operator asks, or its
    value without one, can be asked of its value. -/
structure Valid (table : Extractors ε) (v : Value) (asked : Comparison) (s : Sentence) : Prop where
  gap : ∀ gap, s.bang? = some gap → IsGap gap
  formed : s.phrase.Formed v
  named : ∀ name, s.phrase.name? = some name → String.ofList name ∈ table.names
  unnamed : s.phrase.name? = none → ∃ name, table.default? = some name ∧ name ∈ table.names
  asks : ∀ op, s.phrase.operator? = some op → op.Asks asked ∧ asked.Suits v
  asksAlone : s.phrase.operator? = none → v.Asks asked

/-- What a sentence means by what it asks of a value. -/
def criterion (v : Value) (asked : Comparison) (s : Sentence) : Criterion where
  source := String.ofList s.text
  value := v
  comparison := asked
  operator := s.phrase.operator?
  extractor := s.phrase.name?.map String.ofList
  negate := xor s.bang?.isSome (s.phrase.operator? = some .notTilde)

end Sentence

/-- How an expression is read: as a sentence that asks something of a value, between two gaps. -/
structure Reading where
  lead : List Char
  sentence : Sentence
  value : Value
  asked : Comparison
  trail : List Char

/-- That an expression is read in a way: its text is made so, and the sentence is valid. -/
structure Reading.Of (table : Extractors ε) (expression : String) (r : Reading) : Prop where
  lead : IsGap r.lead
  trail : IsGap r.trail
  text : expression.toList = r.lead ++ (r.sentence.text ++ r.trail)
  valid : r.sentence.Valid table r.value r.asked

/-! ## Cutting a phrase up -/

namespace ExpressionParts

variable {expression : String} {op : Operator} {text tail : List Char} {v : Value}

theorem startsBlank_append {gap : List Char} (hgap : IsGap gap) (hne : gap ≠ []) :
    startsBlank (gap ++ text) = true := by
  cases gap with
  | nil => exact absurd rfl hne
  | cons c rest => exact hgap.blank List.mem_cons_self

theorem startsBlank_of_off (h : BeginsOff isBlank text) : startsBlank text = false := by
  cases text with
  | nil => rfl
  | cons c rest => exact h c rest rfl

/-- Cutting behind a name and a gap: a sign, else a word, else nothing. -/
theorem split_named {name gap rest : List Char} (hname : IsName name) (hgap : IsGap gap)
    (hrest : BeginsOff isBlank rest) (hne : rest ≠ []) (hoff : BeginsOff isNameChar (gap ++ rest)) :
    split expression (name ++ (gap ++ rest)) =
      match Operator.sign? rest with
      | some (op, tail) => do
        return ⟨some (String.ofList name), some op, ← operatorValue expression op tail⟩
      | none =>
        if gap = [] then
          .error (.malformed expression (.operatorExpectedAfter (String.ofList name)))
        else
          match wordOperator? rest with
          | some (op, tail) => do
            return ⟨some (String.ofList name), some op, ← operatorValue expression op tail⟩
          | none => .ok ⟨some (String.ofList name), none, String.ofList rest⟩ := by
  have hguard : (name.isEmpty || (trimBlanks (gap ++ rest)).isEmpty) = false := by
    rw [List.isEmpty_eq_false_iff.mpr hname.ne_nil,
      List.isEmpty_eq_false_iff.mpr (trimBlanks_append_ne_nil (isGap_iff.mp hgap) hrest hne)]
    rfl
  have hdrop : dropBlanks (gap ++ rest) = rest :=
    dropWhile_append_off (isGap_iff.mp hgap) hrest
  simp only [split, splitName_append hname hoff, hguard, hdrop, Bool.false_eq_true, if_false]
  cases Operator.sign? rest with
  | some found => rfl
  | none =>
      by_cases hnil : gap = []
      · have hstart : startsBlank (gap ++ rest) = false := by
          rw [hnil]
          exact startsBlank_of_off hrest
        rw [if_pos hnil, hstart, if_pos (by decide)]
      · have hspaced : ¬ ¬ startsBlank (gap ++ rest) = true := by
          rw [startsBlank_append hgap hnil]
          decide
        exact (if_neg hspaced).trans (if_neg hnil).symm

/-- A text in which no name is found, or only a name, is not cut. -/
theorem split_alone (expression : String)
    (h : splitName text = ([], text) ∨ splitName text = (text, [])) :
    split expression text = .ok ⟨none, none, String.ofList text⟩ := by
  rcases h with h | h
  · simp only [split, h]
    rfl
  · have hblank : (trimBlanks []).isEmpty = true := rfl
    simp only [split, h, hblank, Bool.or_true, if_true]

/-- **The cuts fall where a phrase has its gaps.** -/
theorem split_text (expression : String) {p : Phrase} (h : p.Formed v) :
    split expression p.text = .ok p.parts := by
  cases p with
  | alone token =>
      have htoken : IsToken token v := h
      exact split_alone expression (htoken.splitName_eq.imp_right And.right)
  | signed name gap sign op gap' token =>
      obtain ⟨hname, hgap, hsign, hgap', htoken⟩ := h
      have hfound : Operator.sign? (sign.toList ++ (gap' ++ token)) = some (op, gap' ++ token) :=
        hsign.sign?_append (hgap'.beginsOff_append isSignStart_of_isBlank htoken.off_sign)
      have hoff := hgap.beginsOff_append isNameChar_of_isBlank (hsign.off_name (gap' ++ token))
      rw [Phrase.text, split_named hname hgap (hsign.off_blank _)
        (List.append_ne_nil_of_left_ne_nil hsign.ne_nil _) hoff, hfound]
      simp only [operatorValue_append hgap' htoken]
      rfl
  | worded name gap word op gap' token =>
      obtain ⟨hname, ⟨hgap, hne⟩, hword, ⟨hgap', hne'⟩, htoken⟩ := h
      rw [Phrase.text, split_named hname hgap (hword.off_blank _)
        (List.append_ne_nil_of_left_ne_nil hword.ne_nil _) (hgap.off_name hne),
        Operator.sign?_eq_none (hword.off_sign _)]
      simp only [if_neg hne, operatorValue_append hgap' htoken,
        wordOperator?_append hword (hgap'.off_name hne') (startsBlank_append hgap' hne')]
      rfl
  | plain name gap token =>
      obtain ⟨hname, ⟨hgap, hne⟩, htoken⟩ := h
      rw [Phrase.text, split_named hname hgap htoken.trimmed.start htoken.ne_nil,
        Operator.sign?_eq_none htoken.off_sign]
      · simp only [if_neg hne, htoken.wordOperator?_eq]
        rfl
      · exact hgap.off_name hne

/-- **Where cutting leaves the text of a value, the parts are those of a phrase.** -/
theorem exists_phrase {parts : ExpressionParts} (ht : Trimmed text)
    (h : split expression text = .ok parts)
    (hv : Value.parse parts.value = .ok (some v)) :
    ∃ p : Phrase, p.Formed v ∧ p.text = text ∧ p.parts = parts := by
  rcases splitName_cases text with hnone | ⟨name, after, hname, hafter, rfl⟩
  · rw [split_alone expression (Or.inl hnone)] at h
    obtain rfl := Except.ok.inj h
    exact ⟨.alone text, .of_trimmed ht hv, rfl, rfl⟩
  · have hstop := beginsOff_reverse_of_append ht.stop
    have hrest := trimmed_dropBlanks hstop
    have hgap := isGap_takeWhile after
    rw [← dropBlanks_append after] at ht h hafter hstop ⊢
    generalize after.takeWhile isBlank = gap at *
    generalize dropBlanks after = rest at *
    by_cases hnil : rest = []
    · -- a gap at the end of a trimmed text is empty
      have hgapnil : gap = [] := by
        rw [hnil, List.append_nil] at hstop
        cases hrev : gap.reverse with
        | nil => exact List.reverse_eq_nil_iff.mp hrev
        | cons c back =>
            have hblank := hgap.blank (List.mem_reverse.mp (hrev ▸ List.mem_cons_self))
            rw [hstop c back hrev] at hblank
            exact nomatch hblank
      subst hnil hgapnil
      have hsplit : splitName name = (name, []) := by
        have hwhole := splitName_append hname hafter
        rwa [List.append_nil, List.append_nil] at hwhole
      rw [List.append_nil, List.append_nil] at ht h ⊢
      rw [split_alone expression (Or.inr hsplit)] at h
      obtain rfl := Except.ok.inj h
      exact ⟨.alone name, .of_trimmed ht hv, rfl, rfl⟩
    · rw [split_named hname hgap hrest.start hnil hafter] at h
      cases hsign : Operator.sign? rest with
      | some found =>
          obtain ⟨op, tail⟩ := found
          obtain ⟨sign, hop, rfl⟩ := of_sign? hsign
          rw [hsign] at h
          obtain ⟨value, hvalue, hparts⟩ := bind_eq_ok_iff.mp h
          obtain rfl := Except.ok.inj hparts
          obtain ⟨gap', token, hgap', htoken, rfl, rfl⟩ :=
            of_operatorValue (beginsOff_reverse_of_append hrest.stop) hvalue
          exact ⟨.signed name gap sign op gap' token,
            ⟨hname, hgap, hop, hgap', .of_trimmed htoken hv⟩, rfl, rfl⟩
      | none =>
          rw [hsign] at h
          by_cases hgapnil : gap = []
          -- without a sign, what is glued to the name is refused
          · simp only [if_pos hgapnil] at h
            exact nomatch h
          · simp only [if_neg hgapnil] at h
            cases hword : wordOperator? rest with
            | none =>
                rw [hword] at h
                obtain rfl := Except.ok.inj h
                exact ⟨.plain name gap rest, ⟨hname, ⟨hgap, hgapnil⟩, .of_trimmed hrest hv⟩,
                  rfl, rfl⟩
            | some found =>
                obtain ⟨op, tail⟩ := found
                obtain ⟨word, hop, rfl, hend⟩ := of_wordOperator? hword
                rw [hword] at h
                obtain ⟨value, hvalue, hparts⟩ := bind_eq_ok_iff.mp h
                obtain rfl := Except.ok.inj hparts
                obtain ⟨gap', token, hgap', htoken, rfl, rfl⟩ :=
                  of_operatorValue (beginsOff_reverse_of_append hrest.stop) hvalue
                have hvalid : IsToken token v := .of_trimmed htoken hv
                refine ⟨.worded name gap word op gap' token,
                  ⟨hname, ⟨hgap, hgapnil⟩, hop, ⟨hgap', ?_⟩, hvalid⟩, rfl, rfl⟩
                -- a value glued to the word would have to begin with a blank
                rintro rfl
                rcases hend with hend | hend
                · exact hvalid.ne_nil hend
                · rw [List.nil_append, startsBlank_of_off htoken.start] at hend
                  exact nomatch hend

end ExpressionParts

/-! ## One way to read a text -/

namespace Phrase

variable {p q : Phrase} {v w : Value}

theorem Formed.isToken (h : p.Formed v) : IsToken p.token v := by
  cases p with
  | alone token => exact h
  | signed name gap sign op gap' token => exact h.2.2.2.2
  | worded name gap word op gap' token => exact h.2.2.2.2
  | plain name gap token => exact h.2.2

/-- A phrase ends with the text of its value. -/
theorem exists_front (p : Phrase) : ∃ front, p.text = front ++ p.token := by
  cases p with
  | alone token => exact ⟨[], rfl⟩
  | signed name gap written op gap' token | worded name gap written op gap' token =>
      refine ⟨name ++ (gap ++ (written.toList ++ gap')), ?_⟩
      simp only [Phrase.text, Phrase.token, List.append_assoc]
  | plain name gap token =>
      refine ⟨name ++ gap, ?_⟩
      simp only [Phrase.text, Phrase.token, List.append_assoc]

/-- Behind one name, one operator and before one value, the gaps are where the text has them. -/
theorem gaps_eq {gap₁ gap₂ gap₁' gap₂' written token : List Char}
    (hoff : ∀ text, BeginsOff isBlank (written ++ text)) (h₁ : IsGap gap₁) (h₂ : IsGap gap₂)
    (heq : gap₁ ++ (written ++ (gap₁' ++ token)) = gap₂ ++ (written ++ (gap₂' ++ token))) :
    gap₁ = gap₂ ∧ gap₁' = gap₂' := by
  obtain ⟨hgap, hrest⟩ := append_off_inj (isGap_iff.mp h₁) (isGap_iff.mp h₂) (hoff _) (hoff _) heq
  exact ⟨hgap, List.append_cancel_right (List.append_cancel_left hrest)⟩

/-- **A text is a phrase in one way at most.** -/
theorem eq_of_text_eq (hp : p.Formed v) (hq : q.Formed w) (h : p.text = q.text) :
    p = q ∧ v = w := by
  have hparts : p.parts = q.parts := by
    have hcut := ExpressionParts.split_text "" hp
    rw [h, ExpressionParts.split_text "" hq] at hcut
    exact (Except.ok.inj hcut).symm
  obtain ⟨hname, hop, htoken⟩ : p.name? = q.name? ∧ p.operator? = q.operator? ∧
      p.token = q.token := by
    injection hparts with hname hop htoken
    exact ⟨Option.map_injective (fun _ _ => String.ofList_injective) hname, hop,
      String.ofList_injective htoken⟩
  have hvalue : v = w := by
    have hv := hp.isToken.value
    rw [htoken, hq.isToken.value] at hv
    exact (Option.some.inj (Except.ok.inj hv)).symm
  -- the parts are the same, so the phrases are of one form, and only the gaps can differ
  have hdisjoint {sign word : String} {op : Operator} : IsSign sign op → ¬ IsWord word op := by
    rintro (_ | _ | _ | _ | _ | _ | _ | _ | _) hword <;> cases hword
  refine ⟨?_, hvalue⟩
  cases p with
  | alone token =>
      cases q with
      | alone token' => exact congrArg _ htoken
      | signed _ _ _ _ _ _ => exact nomatch hname
      | worded _ _ _ _ _ _ => exact nomatch hname
      | plain _ _ _ => exact nomatch hname
  | signed name gap sign op gap' token =>
      cases q with
      | alone _ => exact nomatch hname
      | plain _ _ _ => exact nomatch hop
      | worded _ _ _ op₂ _ _ =>
          rw [← Option.some.inj hop] at hq
          exact absurd hq.2.2.1 (hdisjoint hp.2.2.1)
      | signed name₂ gap₂ sign₂ op₂ gap₂' token₂ =>
          obtain rfl := Option.some.inj hname
          obtain rfl := Option.some.inj hop
          obtain rfl : token = token₂ := htoken
          obtain rfl := hp.2.2.1.unique hq.2.2.1
          obtain ⟨rfl, rfl⟩ :=
            gaps_eq hp.2.2.1.off_blank hp.2.1 hq.2.1 (List.append_cancel_left h)
          rfl
  | worded name gap word op gap' token =>
      cases q with
      | alone _ => exact nomatch hname
      | plain _ _ _ => exact nomatch hop
      | signed _ _ _ op₂ _ _ =>
          rw [Option.some.inj hop] at hp
          exact absurd hp.2.2.1 (hdisjoint hq.2.2.1)
      | worded name₂ gap₂ word₂ op₂ gap₂' token₂ =>
          obtain rfl := Option.some.inj hname
          obtain rfl := Option.some.inj hop
          obtain rfl : token = token₂ := htoken
          obtain rfl := hp.2.2.1.unique hq.2.2.1
          obtain ⟨rfl, rfl⟩ :=
            gaps_eq hp.2.2.1.off_blank hp.2.1.1 hq.2.1.1 (List.append_cancel_left h)
          rfl
  | plain name gap token =>
      cases q with
      | alone _ => exact nomatch hname
      | signed _ _ _ _ _ _ => exact nomatch hop
      | worded _ _ _ _ _ _ => exact nomatch hop
      | plain name₂ gap₂ token₂ =>
          obtain rfl := Option.some.inj hname
          obtain rfl : token = token₂ := htoken
          obtain rfl : gap = gap₂ := List.append_cancel_right (List.append_cancel_left h)
          rfl

/-- A phrase begins with neither a blank nor a `!`. -/
theorem Formed.begins (h : p.Formed v) :
    ∃ c rest, p.text = c :: rest ∧ isBlank c = false ∧ c ≠ '!' := by
  have htoken : ∀ token, IsToken token v →
      ∃ c rest, token = c :: rest ∧ isBlank c = false ∧ c ≠ '!' := by
    intro token htoken
    obtain ⟨c, rest, heq, hc⟩ := htoken.begins
    refine ⟨c, rest, heq, htoken.trimmed.start c rest heq, ?_⟩
    rintro rfl
    exact absurd hc (by decide)
  have hname : ∀ name rest, IsName name →
      ∃ c rest', name ++ rest = c :: rest' ∧ isBlank c = false ∧ c ≠ '!' := by
    intro name rest hname
    cases name with
    | nil => exact False.elim hname
    | cons c name =>
        obtain ⟨hlow, hhigh⟩ := toNat_of_isNameChar
          (isNameChar_of_isNameStart (isName_cons_iff.mp hname).1)
        refine ⟨c, name ++ rest, rfl, isBlank_eq_false (by omega) (by omega), ?_⟩
        rintro rfl
        exact absurd hlow (by decide)
  cases p with
  | alone token => exact htoken token h
  | signed name gap sign op gap' token => exact hname name _ h.1
  | worded name gap word op gap' token => exact hname name _ h.1
  | plain name gap token => exact hname name _ h.1

end Phrase

/-! ## The bang -/

theorem Sentence.text_ne_nil (s : Sentence) {v : Value} (h : s.phrase.Formed v) : s.text ≠ [] := by
  obtain ⟨bang?, phrase⟩ := s
  cases bang? with
  | none =>
      obtain ⟨c, rest, htext, -⟩ := h.begins
      show phrase.text ≠ []
      rw [show phrase.text = c :: rest from htext]
      exact List.cons_ne_nil c rest
  | some gap => exact List.cons_ne_nil '!' _

/-- A sentence has no blanks at its ends. -/
theorem Sentence.trimmed_text {s : Sentence} {v : Value} (h : s.phrase.Formed v) :
    Trimmed s.text := by
  obtain ⟨bang?, phrase⟩ := s
  have hstop : ∀ front, BeginsOff isBlank (front ++ phrase.text).reverse := by
    intro front
    obtain ⟨front', htext⟩ := phrase.exists_front
    rw [htext, ← List.append_assoc]
    exact beginsOff_reverse_append h.isToken.trimmed.stop h.isToken.ne_nil _
  cases bang? with
  | none =>
      obtain ⟨c, rest, htext, hblank, -⟩ := h.begins
      refine ⟨?_, hstop []⟩
      show BeginsOff isBlank phrase.text
      rw [show phrase.text = c :: rest from htext]
      exact beginsOff_cons hblank
  | some gap =>
      refine ⟨beginsOff_cons (by decide), ?_⟩
      show BeginsOff isBlank ('!' :: gap ++ phrase.text).reverse
      exact hstop _

/-- What stands behind a `!` and its gap is found there. -/
theorem splitNegation_text {table : Extractors ε} {s : Sentence} {v : Value}
    {asked : Comparison} (h : s.Valid table v asked) :
    Criterion.splitNegation s.text = (s.bang?.isSome, s.phrase.text) := by
  obtain ⟨bang?, phrase⟩ := s
  obtain ⟨c, rest, htext, hblank, hbang⟩ := h.formed.begins
  have htext' : phrase.text = c :: rest := htext
  cases bang? with
  | none =>
      show Criterion.splitNegation phrase.text = (false, phrase.text)
      rw [htext', Criterion.splitNegation]
      intro tail heq
      exact hbang (List.cons.inj heq).1
  | some gap =>
      show (true, dropBlanks (gap ++ phrase.text)) = (true, phrase.text)
      rw [dropBlanks, dropWhile_append_off (isGap_iff.mp (h.gap gap rfl))]
      rw [htext']
      exact beginsOff_cons hblank

/-- A trimmed text is a `!` with a gap behind it and a trimmed text, or a trimmed text without. -/
theorem splitNegation_cases {text : List Char} (h : Trimmed text) :
    ∃ bang? : Option (List Char), ∃ rest,
      Criterion.splitNegation text = (bang?.isSome, rest) ∧ Trimmed rest ∧
      (∀ gap, bang? = some gap → IsGap gap) ∧
      text = bang?.elim rest fun gap => '!' :: (gap ++ rest) := by
  by_cases hbang : ∃ tail, text = '!' :: tail
  · obtain ⟨tail, rfl⟩ := hbang
    have hwhole : BeginsOff isBlank (['!'] ++ tail).reverse := h.stop
    have hstop := beginsOff_reverse_of_append hwhole
    refine ⟨some (tail.takeWhile isBlank), dropBlanks tail, rfl, trimmed_dropBlanks hstop, ?_, ?_⟩
    · rintro gap hgap
      rw [← Option.some.inj hgap]
      exact isGap_takeWhile tail
    · exact congrArg _ (dropBlanks_append tail).symm
  · refine ⟨none, text, ?_, h, ?_, rfl⟩
    · rw [Criterion.splitNegation]
      · rfl
      · intro tail htext
        exact hbang ⟨tail, htext⟩
    · intro gap hgap
      exact nomatch hgap

/-! ## What is accepted -/

/-- Under a name a value is found if some value has that name. -/
theorem findNamed?_isSome_iff {α : Type} {name : String} {values : List (String × α)} :
    (findNamed? name values).isSome = true ↔ name ∈ values.map Prod.fst := by
  induction values with
  | nil => simp [findNamed?]
  | cons entry rest ih =>
      obtain ⟨other, value⟩ := entry
      rw [findNamed?, List.map_cons, List.mem_cons, ← ih]
      by_cases h : name = other
      · simp [h]
      · simp [h]

/-- A name, or no name, is resolved where it, or the default, is in the table. -/
theorem resolve_eq_ok_iff (table : Extractors ε) (name : Option String) :
    (∃ found, table.resolve name = .ok found) ↔ table.isEmpty = false ∧
      ∃ known, name.or table.default? = some known ∧ known ∈ table.names := by
  rw [Extractors.resolve]
  cases hempty : table.isEmpty with
  | true => simp
  | false =>
      cases hknown : name.or table.default? with
      | none => simp
      | some known =>
          have hmem : (findNamed? known table.entries).isSome = true ↔ known ∈ table.names :=
            findNamed?_isSome_iff
          cases hfind : findNamed? known table.entries with
          | none => simp [← hmem, hfind]
          | some extract => simp [← hmem, hfind]

theorem Extractors.isEmpty_eq_false_iff {ε : Type} {table : Extractors ε} :
    table.isEmpty = false ↔ table.entries ≠ [] := List.isEmpty_eq_false_iff

theorem Extractors.isEmpty_of_known {ε : Type} {table : Extractors ε} {name : String}
    (h : name ∈ table.names) : table.isEmpty = false := by
  refine isEmpty_eq_false_iff.mpr fun hnil => ?_
  rw [names, hnil] at h
  exact absurd h List.not_mem_nil

theorem Operator.asks_iff {op : Operator} {asked : Comparison} :
    op.Asks asked ↔ asked = op.comparison := by
  constructor
  · intro h
    cases h <;> rfl
  · rintro rfl
    cases op <;> constructor

theorem Value.asks_iff {v : Value} {asked : Comparison} :
    v.Asks asked ↔ asked = .ofValue v := by
  constructor
  · intro h
    cases h <;> rfl
  · rintro rfl
    cases v <;> constructor

theorem Comparison.suits_iff {asked : Comparison} {v : Value} :
    asked.Suits v ↔ asked.supports v = true := by
  constructor
  · intro h
    cases h with
    | equals v | notEquals v | list items | pattern p => rfl
    | number n h =>
        simp only [List.mem_cons, List.not_mem_nil, or_false] at h
        rcases h with rfl | rfl | rfl | rfl <;> rfl
    | text a h =>
        simp only [List.mem_cons, List.not_mem_nil, or_false] at h
        rcases h with rfl | rfl | rfl | rfl | rfl <;> rfl
    | map members h =>
        simp only [List.mem_cons, List.not_mem_nil, or_false] at h
        rcases h with rfl | rfl | rfl <;> rfl
  · intro h
    cases asked with
    | equals => exact .equals v
    | notEquals => exact .notEquals v
    | greaterThan | greaterOrEqual | lessThan | lessOrEqual =>
        cases v with
        | number n => exact .number n (by decide)
        | text a => exact .text a (by decide)
        | null | bool b | list items | map members | pattern p => cases h
    | isMatch =>
        cases v with
        | pattern p => exact .pattern p
        | null | bool b | number n | text a | list items | map members => cases h
    | contains =>
        cases v with
        | text a => exact .text a (by decide)
        | list items => exact .list items
        | map members => exact .map members (by decide)
        | null | bool b | number n | pattern p => cases h
    | hasKey | hasValue =>
        cases v with
        | map members => exact .map members (by decide)
        | null | bool b | number n | text a | list items | pattern p => cases h

/-- The comparison that a value stands for makes sense for it. -/
theorem supports_ofValue (v : Value) : (Comparison.ofValue v).supports v = true := by
  cases v <;> rfl

/-- A valid sentence asks what is asked by its operator, or by its value without one. -/
theorem Sentence.Valid.asked_eq {table : Extractors ε} {s : Sentence} {v : Value}
    {asked : Comparison} (h : s.Valid table v asked) :
    asked = s.phrase.operator?.elim (.ofValue v) Operator.comparison ∧
      asked.supports v = true := by
  cases hop : s.phrase.operator? with
  | none =>
      have hasked := Value.asks_iff.mp (h.asksAlone hop)
      exact ⟨hasked, hasked ▸ supports_ofValue v⟩
  | some op =>
      obtain ⟨hasks, hsuits⟩ := h.asks op hop
      exact ⟨Operator.asks_iff.mp hasks, Comparison.suits_iff.mp hsuits⟩

/-- A sentence whose phrase is formed rightly is valid where its extractor is resolved and its
    comparison goes with its value. -/
theorem valid_iff_resolved {table : Extractors ε} {s : Sentence} {v : Value} {asked : Comparison}
    (hgap : ∀ gap, s.bang? = some gap → IsGap gap) (hformed : s.phrase.Formed v)
    (htable : table.isEmpty = false) :
    s.Valid table v asked ↔ (∃ found, table.resolve s.phrase.parts.extractor = .ok found) ∧
      asked = s.phrase.operator?.elim (.ofValue v) Operator.comparison ∧
      asked.supports v = true := by
  have hresolved := resolve_eq_ok_iff table s.phrase.parts.extractor
  rw [hresolved, htable]
  constructor
  · intro h
    refine ⟨⟨rfl, ?_⟩, h.asked_eq⟩
    cases hname : s.phrase.name? with
    | none =>
        obtain ⟨known, hdefault, hknown⟩ := h.unnamed hname
        refine ⟨known, ?_, hknown⟩
        rw [Phrase.parts, hname]
        exact hdefault
    | some name =>
        refine ⟨String.ofList name, ?_, h.named name hname⟩
        rw [Phrase.parts, hname]
        rfl
  · rintro ⟨⟨-, known, hknown, hmem⟩, hasked, hsupported⟩
    refine ⟨hgap, hformed, ?_, ?_, ?_, ?_⟩
    · intro name hname
      rw [Phrase.parts, hname] at hknown
      rw [Option.some.inj hknown]
      exact hmem
    · intro hname
      rw [Phrase.parts, hname] at hknown
      exact ⟨known, hknown, hmem⟩
    · intro op hop
      rw [hop] at hasked
      exact ⟨Operator.asks_iff.mpr hasked, Comparison.suits_iff.mpr hsupported⟩
    · intro hop
      rw [hop] at hasked
      exact Value.asks_iff.mpr hasked

theorem readValue_eq_ok_iff {expression token : String} {v : Value} :
    Criterion.readValue expression token = .ok v ↔ Value.parse token = .ok (some v) := by
  rw [Criterion.readValue]
  cases Value.parse token with
  | error e => exact ⟨(fun h => nomatch h), fun h => nomatch h⟩
  | ok value? =>
      cases value? with
      | none => exact ⟨(fun h => nomatch h), fun h => nomatch h⟩
      | some value =>
          refine ⟨fun h => ?_, fun h => ?_⟩
          · rw [Except.ok.inj h]
          · rw [Option.some.inj (Except.ok.inj h)]

/-- What an expression is found to be: cut up, its value read, its extractor resolved and its
    comparison checked. -/
theorem Criterion.parse_eq_ok_iff_parts {expression : String} {table : Extractors ε}
    {c : Criterion} :
    Criterion.parse expression table = .ok c ↔
      trimBlanks expression.toList ≠ [] ∧ table.isEmpty = false ∧
      ∃ parts value,
        ExpressionParts.split (trim expression)
          (Criterion.splitNegation (trimBlanks expression.toList)).2 = .ok parts ∧
        Value.parse parts.value = .ok (some value) ∧
        (∃ found, table.resolve parts.extractor = .ok found) ∧
        (parts.operator.elim (.ofValue value) Operator.comparison).supports value = true ∧
        c = {
          source := trim expression
          value := value
          comparison := parts.operator.elim (.ofValue value) Operator.comparison
          operator := parts.operator
          extractor := parts.extractor
          negate := (Criterion.splitNegation (trimBlanks expression.toList)).1 !=
            parts.operator.any Operator.negates } := by
  have hsource : (trim expression).isEmpty = true ↔ trimBlanks expression.toList = [] := by
    rw [String.isEmpty_iff, trim, ← String.toList_eq_nil_iff, String.toList_ofList]
  have hlist : (trim expression).toList = trimBlanks expression.toList := by
    rw [trim, String.toList_ofList]
  rw [Criterion.parse]
  by_cases hnil : trimBlanks expression.toList = []
  · rw [if_pos (hsource.mpr hnil)]
    constructor
    · intro h
      cases h
    · intro h
      exact absurd hnil h.1
  · rw [if_neg (fun h => hnil (hsource.mp h)), hlist]
    cases htable : table.isEmpty with
    | true =>
        constructor
        · intro h
          cases h
        · rintro ⟨-, h, -⟩
          cases h
    | false =>
        rw [if_neg Bool.false_ne_true]
        simp only [bind_eq_ok_iff, readValue_eq_ok_iff]
        constructor
        · rintro ⟨parts, hsplit, value, hvalue, found, hfound, hresult⟩
          by_cases hsupports : (parts.operator.elim (.ofValue value)
              Operator.comparison).supports value = true
          · rw [if_pos hsupports] at hresult
            exact ⟨hnil, trivial, parts, value, hsplit, hvalue, ⟨found, hfound⟩, hsupports,
              (Except.ok.inj hresult).symm⟩
          · rw [if_neg hsupports] at hresult
            cases hresult
        · rintro ⟨-, -, parts, value, hsplit, hvalue, ⟨found, hfound⟩, hsupports, rfl⟩
          exact ⟨parts, hsplit, value, hvalue, found, hfound, if_pos hsupports⟩

theorem any_negates (op? : Option Operator) :
    op?.any Operator.negates = decide (op? = some .notTilde) := by
  cases op? with
  | none => rfl
  | some op => cases op <;> rfl

/-- A sentence that is not empty is cut up into the parts of its phrase, and the criterion made of
    these is the one it means. -/
theorem criterion_eq {table : Extractors ε} {s : Sentence} {v : Value} {asked : Comparison}
    (h : s.Valid table v asked) {expression : String}
    (htext : s.text = trimBlanks expression.toList) :
    s.criterion v asked = {
      source := trim expression
      value := v
      comparison := s.phrase.operator?.elim (.ofValue v) Operator.comparison
      operator := s.phrase.operator?
      extractor := s.phrase.name?.map String.ofList
      negate := (Criterion.splitNegation (trimBlanks expression.toList)).1 !=
        s.phrase.operator?.any Operator.negates } := by
  rw [← htext, splitNegation_text h, any_negates, trim, ← htext, ← h.asked_eq.1]
  rfl

/-- A valid sentence is accepted and has its meaning. -/
theorem Criterion.parse_text {table : Extractors ε} {s : Sentence} {v : Value}
    {asked : Comparison} (h : s.Valid table v asked) (htable : table.isEmpty = false) :
    Criterion.parse (String.ofList s.text) table = .ok (s.criterion v asked) := by
  have htrim : trimBlanks (String.ofList s.text).toList = s.text := by
    rw [String.toList_ofList, (Sentence.trimmed_text h.formed).trimBlanks_eq]
  obtain ⟨hfound, hasked, hsupports⟩ := (valid_iff_resolved h.gap h.formed htable).mp h
  rw [hasked] at hsupports
  rw [Criterion.parse_eq_ok_iff_parts]
  refine ⟨?_, htable, s.phrase.parts, v, ?_, h.formed.isToken.value, hfound, hsupports,
    criterion_eq h htrim.symm⟩
  · rw [htrim]
    exact s.text_ne_nil h.formed
  · rw [htrim, splitNegation_text h]
    exact ExpressionParts.split_text _ h.formed

/-- A sentence between two gaps is what is left without these. -/
theorem Reading.Of.trimBlanks_eq {table : Extractors ε} {expression : String} {r : Reading}
    (h : r.Of table expression) : trimBlanks expression.toList = r.sentence.text := by
  rw [h.text]
  exact trimBlanks_gaps h.lead h.trail (Sentence.trimmed_text h.valid.formed)

/-- What is left without the gaps around a text that is no gap shows where these are. -/
theorem gaps_around_eq {lead lead' text trail trail' : List Char} (hlead : IsGap lead)
    (hlead' : IsGap lead') (ht : Trimmed text) (hne : text ≠ [])
    (h : lead ++ (text ++ trail) = lead' ++ (text ++ trail')) : lead = lead' ∧ trail = trail' := by
  have hoff := ht.start.append hne
  obtain ⟨hgap, hrest⟩ :=
    append_off_inj (isGap_iff.mp hlead) (isGap_iff.mp hlead') (hoff _) (hoff _) h
  exact ⟨hgap, List.append_cancel_left hrest⟩

/-- A text is a sentence in one way at most. -/
theorem Sentence.eq_of_text_eq {table : Extractors ε} {s s' : Sentence} {v v' : Value}
    {asked asked' : Comparison} (h : s.Valid table v asked) (h' : s'.Valid table v' asked')
    (htext : s.text = s'.text) : s = s' ∧ v = v' := by
  -- both sentences are cut in the same places, so only the gaps behind a `!` are left
  have hneg := splitNegation_text h
  rw [htext, splitNegation_text h'] at hneg
  obtain ⟨hbang, hphrase⟩ := Prod.mk.inj hneg
  obtain ⟨hp, hvalue⟩ := Phrase.eq_of_text_eq h.formed h'.formed hphrase.symm
  refine ⟨?_, hvalue⟩
  obtain ⟨bang?, p⟩ := s
  obtain ⟨bang?', p'⟩ := s'
  obtain rfl : p = p' := hp
  cases bang? with
  | none =>
      cases bang?' with
      | none => rfl
      | some gap' => exact nomatch hbang
  | some gap =>
      cases bang?' with
      | none => exact nomatch hbang
      | some gap' =>
          have hgaps : gap ++ p.text = gap' ++ p.text := (List.cons.inj htext).2
          rw [List.append_cancel_right hgaps]

/-- **What is accepted, and what it means.**  An expression is accepted just if there are
    extractors and it is a valid sentence between two gaps; the criterion is the one that the
    sentence means.  It is read so in one way at most. -/
theorem Criterion.parse_eq_ok_iff (expression : String) (table : Extractors ε) :
    (∀ c, Criterion.parse expression table = .ok c ↔
      table.entries ≠ [] ∧ ∃ r : Reading, r.Of table expression ∧
        c = r.sentence.criterion r.value r.asked) ∧
    ∀ r r' : Reading, r.Of table expression → r'.Of table expression → r = r' := by
  constructor
  · intro c
    rw [Criterion.parse_eq_ok_iff_parts, Extractors.isEmpty_eq_false_iff]
    constructor
    · rintro ⟨-, htable, parts, v, hsplit, hv, hfound, hsupports, rfl⟩
      obtain ⟨lead, trail, hlead, htrail, hgaps⟩ := exists_gaps expression.toList
      obtain ⟨bang?, rest, hneg, hrest, hgap, htext⟩ :=
        splitNegation_cases (trimmed_trimBlanks expression.toList)
      rw [hneg] at hsplit
      obtain ⟨p, hformed, rfl, rfl⟩ := ExpressionParts.exists_phrase hrest hsplit hv
      have hvalid : (Sentence.mk bang? p).Valid table v
          (p.operator?.elim (.ofValue v) Operator.comparison) :=
        (valid_iff_resolved hgap hformed (Extractors.isEmpty_eq_false_iff.mpr htable)).mpr
          ⟨hfound, rfl, hsupports⟩
      rw [htext] at hgaps
      exact ⟨htable, ⟨lead, ⟨bang?, p⟩, v, _, trail⟩, ⟨hlead, htrail, hgaps, hvalid⟩,
        (criterion_eq hvalid htext.symm).symm⟩
    · rintro ⟨htable, r, hr, rfl⟩
      have htext := hr.trimBlanks_eq
      obtain ⟨hfound, hasked, hsupports⟩ := (valid_iff_resolved hr.valid.gap hr.valid.formed
        (Extractors.isEmpty_eq_false_iff.mpr htable)).mp hr.valid
      rw [hasked] at hsupports
      refine ⟨?_, htable, r.sentence.phrase.parts, r.value, ?_, hr.valid.formed.isToken.value,
        hfound, hsupports, criterion_eq hr.valid htext.symm⟩
      · rw [htext]
        exact r.sentence.text_ne_nil hr.valid.formed
      · rw [htext, splitNegation_text hr.valid]
        exact ExpressionParts.split_text _ hr.valid.formed
  -- the sentence is what is left without the gaps, and then these are the same too
  · rintro ⟨lead, s, v, asked, trail⟩ ⟨lead', s', v', asked', trail'⟩ h h'
    have htext : s.text = s'.text := h.trimBlanks_eq.symm.trans h'.trimBlanks_eq
    obtain ⟨rfl, rfl⟩ := Sentence.eq_of_text_eq h.valid h'.valid htext
    obtain rfl : asked = asked' := h.valid.asked_eq.1.trans h'.valid.asked_eq.1.symm
    obtain ⟨rfl, rfl⟩ := gaps_around_eq h.lead h'.lead (Sentence.trimmed_text h.valid.formed)
      (s.text_ne_nil h.valid.formed) (h.text.symm.trans h'.text)
    rfl

end CourseFeed
