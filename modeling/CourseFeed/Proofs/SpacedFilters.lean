import CourseFeed.Filter.Selection
import CourseFeed.Proofs.FilterGrammar

/-!
# Filters by a sign

A filter by a sign is written as a name, the sign and a text, with gaps of any length at five
places.  The gaps and the blanks at the ends of the text say nothing: what is read is the name, the
sign, and the value of the text.

* **`Spacing`** — the gaps, and **`Spacing.filter`** — the filter written with them.
* **`Spacing.trimBlanks_filter`** — what is left of it without the blanks at its ends.
* **`Spacing.parse_filter_iff`** — when it is accepted, and as which criterion;
  **`Spacing.compile_filter_iff`** — and as which filter.
* **`Operator.Finds`** — a sign is found in front of a text; **`IsSign.finds_of_parse`**: in front
  of every text that holds a value.
-/

namespace CourseFeed

open CourseFeed.Text

/-- A name has no blanks at its ends. -/
theorem IsName.trimmed {name : List Char} (h : IsName name) : Trimmed name := by
  have hnone : ∀ c ∈ name, isBlank c = false := by
    intro c hc
    cases hblank : isBlank c with
    | false => rfl
    | true =>
        have hoff := isNameChar_of_isBlank hblank
        cases name with
        | nil => exact absurd hc List.not_mem_nil
        | cons d rest =>
            rcases List.mem_cons.mp hc with rfl | hc
            · exact nomatch (isNameChar_of_isNameStart (isName_cons_iff.mp h).1).symm.trans hoff
            · exact nomatch ((isName_cons_iff.mp h).2 c hc).symm.trans hoff
  constructor
  · rintro c rest rfl
    exact hnone c List.mem_cons_self
  · intro c rest hrev
    exact hnone c (List.mem_reverse.mp (hrev ▸ List.mem_cons_self))

/-- No sign has a blank at its ends. -/
theorem IsSign.trimmed {sign : String} {op : Operator} (h : IsSign sign op) :
    Trimmed sign.toList := by
  have hnone : ∀ c ∈ sign.toList, isBlank c = false := by
    have hall : sign.toList.any isBlank = false := by
      cases h <;> decide
    intro c hc
    exact Bool.eq_false_iff.mpr (List.any_eq_false.mp hall c hc)
  constructor
  · intro c rest htext
    exact hnone c (htext ▸ List.mem_cons_self)
  · intro c rest hrev
    exact hnone c (List.mem_reverse.mp (hrev ▸ List.mem_cons_self))

/-- The text without blanks at its ends holds what the text holds. -/
theorem Value.parse_trimBlanks (text : List Char) :
    Value.parse (String.ofList (trimBlanks text)) = Value.parse (String.ofList text) := by
  rw [Value.parse, Value.parse, trim, trim, String.toList_ofList, String.toList_ofList,
    (trimmed_trimBlanks text).trimBlanks_eq]

/-- A blank text holds no value. -/
theorem Value.parse_of_blank {text : List Char} (h : trimBlanks text = []) :
    Value.parse (String.ofList text) = .ok none := by
  rw [← Value.parse_trimBlanks, h]
  rfl

/-- The sign of an operator is found in front of a text, whatever gap is between them. -/
structure Operator.Finds (op : Operator) (sign : String) (text : List Char) : Prop where
  isSign : IsSign sign op
  sign? : ∀ gap, IsGap gap → Operator.sign? (sign.toList ++ (gap ++ trimBlanks text)) =
    some (op, gap ++ trimBlanks text)

/-- Every sign is found in front of a text that holds a value. -/
theorem IsSign.finds_of_parse {sign : String} {op : Operator} (hsign : IsSign sign op)
    {text : List Char} {v : Value} (h : Value.parse (String.ofList text) = .ok (some v)) :
    op.Finds sign text := by
  have htoken : IsToken (trimBlanks text) v :=
    .of_trimmed (trimmed_trimBlanks text) ((Value.parse_trimBlanks text).trans h)
  refine ⟨hsign, ?_⟩
  intro gap hgap
  exact hsign.sign?_append (hgap.beginsOff_append isSignStart_of_isBlank htoken.off_sign)

/-- The gaps of a filter by a sign: before it, behind its `!`, around the sign, and at its end. -/
structure Spacing where
  lead : List Char
  afterBang : List Char
  beforeSign : List Char
  afterSign : List Char
  trail : List Char
  isGap : ∀ gap ∈ [lead, afterBang, beforeSign, afterSign, trail], IsGap gap

namespace Spacing

variable (s : Spacing)

theorem isGap_lead : IsGap s.lead := s.isGap _ (by simp)

theorem isGap_afterBang : IsGap s.afterBang := s.isGap _ (by simp)

theorem isGap_beforeSign : IsGap s.beforeSign := s.isGap _ (by simp)

theorem isGap_afterSign : IsGap s.afterSign := s.isGap _ (by simp)

theorem isGap_trail : IsGap s.trail := s.isGap _ (by simp)

/-- The `!` of a filter with the gap behind it, or nothing. -/
def bangText (bang : Bool) : List Char := if bang then '!' :: s.afterBang else []

/-- A filter up to its sign, without the gap before it. -/
def front (bang : Bool) (name : List Char) (sign : String) : List Char :=
  s.bangText bang ++ (name ++ (s.beforeSign ++ sign.toList))

/-- The filter that asks by a sign for a text. -/
def filter (bang : Bool) (name : List Char) (sign : String) (text : List Char) : String :=
  String.ofList (s.lead ++ (s.front bang name sign ++ (s.afterSign ++ text) ++ s.trail))

variable {s} {bang : Bool} {name text : List Char} {sign : String} {op : Operator}

theorem front_ne_nil (hname : IsName name) : s.front bang name sign ≠ [] :=
  List.append_ne_nil_of_right_ne_nil _ (List.append_ne_nil_of_left_ne_nil hname.ne_nil _)

theorem trimmed_front (hname : IsName name) (hsign : IsSign sign op) :
    Trimmed (s.front bang name sign) := by
  have hwhole : Trimmed (name ++ (s.beforeSign ++ sign.toList)) :=
    hname.trimmed.append hname.ne_nil hsign.trimmed hsign.ne_nil s.beforeSign
  cases bang with
  | false => exact hwhole
  | true =>
      have hbang : Trimmed ['!'] := ⟨beginsOff_cons (by decide), beginsOff_cons (by decide)⟩
      exact hbang.append (List.cons_ne_nil _ _) hwhole
        (List.append_ne_nil_of_left_ne_nil hname.ne_nil _) s.afterBang

/-- **Without the blanks at its ends, a filter is its front, a gap, and what its text is without the
    blanks at its ends.** -/
theorem trimBlanks_filter (hname : IsName name) (hsign : IsSign sign op) :
    ∃ gap, IsGap gap ∧ trimBlanks (s.filter bang name sign text).toList =
      s.front bang name sign ++ (gap ++ trimBlanks text) := by
  have hne : s.front bang name sign ≠ [] := front_ne_nil hname
  obtain ⟨gap, hgap, hfront⟩ :=
    trimBlanks_front (trimmed_front hname hsign) hne (s.afterSign ++ text)
  rw [trimBlanks_gap s.isGap_afterSign] at hfront
  refine ⟨gap, hgap, ?_⟩
  rw [filter, String.toList_ofList, trimBlanks_append_gaps s.isGap_lead s.isGap_trail]
  exact hfront

/-- What stands behind the `!` of a filter and its gap is found there. -/
theorem splitNegation_front (hname : IsName name) (rest : List Char) :
    Criterion.splitNegation (s.front bang name sign ++ rest) =
      (bang, name ++ (s.beforeSign ++ (sign.toList ++ rest))) := by
  have hregroup : s.front bang name sign ++ rest =
      s.bangText bang ++ (name ++ (s.beforeSign ++ (sign.toList ++ rest))) := by
    simp only [front, List.append_assoc]
  rw [hregroup]
  cases name with
  | nil => exact False.elim hname
  | cons c tail =>
      cases bang with
      | true =>
          have hoff : BeginsOff isBlank
              ((c :: tail) ++ (s.beforeSign ++ (sign.toList ++ rest))) :=
            beginsOff_cons (hname.trimmed.start c tail rfl)
          show (true, dropBlanks (s.afterBang ++ _)) = _
          rw [dropBlanks, dropWhile_append_off (isGap_iff.mp s.isGap_afterBang) hoff]
      | false =>
          have hbang : c ≠ '!' := by
            rintro rfl
            exact absurd (isName_cons_iff.mp hname).1 (by decide)
          rw [bangText, if_neg (by decide), List.nil_append, List.cons_append,
            Criterion.splitNegation]
          intro back heq
          exact hbang (List.cons.inj heq).1

/-- A filter is cut at its sign. -/
theorem split_front (expression : String) (hname : IsName name) (hsign : IsSign sign op)
    {rest : List Char} (hfound : Operator.sign? (sign.toList ++ rest) = some (op, rest))
    {parts : ExpressionParts} :
    ExpressionParts.split expression (name ++ (s.beforeSign ++ (sign.toList ++ rest))) =
        .ok parts ↔
      trimBlanks rest ≠ [] ∧
        parts = ⟨some (String.ofList name), some op, String.ofList (trimBlanks rest)⟩ := by
  have hoff : BeginsOff isNameChar (s.beforeSign ++ (sign.toList ++ rest)) :=
    s.isGap_beforeSign.beginsOff_append isNameChar_of_isBlank (hsign.off_name rest)
  rw [ExpressionParts.split_named hname s.isGap_beforeSign (hsign.off_blank rest)
    (List.append_ne_nil_of_left_ne_nil hsign.ne_nil rest) hoff, hfound]
  simp only [bind_eq_ok_iff, ExpressionParts.operatorValue]
  by_cases hnil : trimBlanks rest = []
  · simp [hnil]
  · simp only [List.isEmpty_eq_false_iff.mpr hnil, Bool.false_eq_true, if_false]
    constructor
    · rintro ⟨value, hvalue, hparts⟩
      obtain rfl := Except.ok.inj hvalue
      exact ⟨hnil, (Except.ok.inj hparts).symm⟩
    · rintro ⟨-, rfl⟩
      exact ⟨_, rfl, rfl⟩

/-- **When a filter by a sign is accepted, and as what.**  Its text has to hold a value that goes
    with the sign, and its name has to be in the table. -/
theorem parse_filter_iff {ε : Type} {table : Extractors ε} (hname : IsName name)
    (hsign : op.Finds sign text) {c : Criterion} :
    Criterion.parse (s.filter bang name sign text) table = .ok c ↔
      String.ofList name ∈ table.names ∧
      ∃ v, Value.parse (String.ofList text) = .ok (some v) ∧ op.comparison.supports v = true ∧
        c = {
          source := trim (s.filter bang name sign text)
          value := v
          comparison := op.comparison
          operator := some op
          extractor := some (String.ofList name)
          negate := bang != op.negates } := by
  obtain ⟨gap, hgap, htrim⟩ : ∃ gap, IsGap gap ∧
      trimBlanks (s.filter bang name sign text).toList =
        s.front bang name sign ++ (gap ++ trimBlanks text) := trimBlanks_filter hname hsign.isSign
  have hback : trimBlanks (gap ++ trimBlanks text) = trimBlanks text := by
    rw [trimBlanks_gap hgap, (trimmed_trimBlanks text).trimBlanks_eq]
  have hfront : s.front bang name sign ++ (gap ++ trimBlanks text) ≠ [] :=
    List.append_ne_nil_of_left_ne_nil (front_ne_nil hname) _
  have hresolve := resolve_eq_ok_iff table (some (String.ofList name))
  rw [Criterion.parse_eq_ok_iff_parts, htrim, splitNegation_front hname]
  constructor
  · rintro ⟨-, -, parts, v, hsplit, hv, hfound, hsupports, rfl⟩
    obtain ⟨-, rfl⟩ := (split_front _ hname hsign.isSign (hsign.sign? gap hgap)).mp hsplit
    obtain ⟨-, known, hknown, hmem⟩ := hresolve.mp hfound
    rw [hback, Value.parse_trimBlanks] at hv
    obtain rfl := Option.some.inj hknown
    exact ⟨hmem, v, hv, hsupports, rfl⟩
  · rintro ⟨hmem, v, hv, hsupports, rfl⟩
    have htable := Extractors.isEmpty_of_known hmem
    have hne : trimBlanks text ≠ [] := by
      intro hnil
      rw [Value.parse_of_blank hnil] at hv
      exact nomatch hv
    refine ⟨hfront, htable, ⟨some (String.ofList name), some op, String.ofList (trimBlanks text)⟩,
      v, ?_, ?_, ?_, hsupports, rfl⟩
    · refine (split_front _ hname hsign.isSign (hsign.sign? gap hgap)).mpr ?_
      rw [hback]
      exact ⟨hne, rfl⟩
    · rw [Value.parse_trimBlanks]
      exact hv
    · exact hresolve.mpr ⟨htable, _, rfl, hmem⟩

end Spacing

/-! ## Compiling -/

section

variable {ε : Type} {t : Extractors ε}

/-- A filter is a criterion that was read, with its extractor. -/
theorem Extractors.compile_eq_ok_iff {expression : String} {f : Filter ε} :
    t.compile expression = .ok f ↔ Criterion.parse expression t = .ok f.criterion ∧
      ∃ name, t.resolve f.criterion.extractor = .ok (name, f.extract) := by
  constructor
  · intro h
    obtain ⟨c, hparse, hbound⟩ := bind_eq_ok_iff.mp h
    obtain ⟨⟨name, extract⟩, hresolve, hfilter⟩ := bind_eq_ok_iff.mp hbound
    obtain rfl := Except.ok.inj hfilter
    exact ⟨hparse, name, hresolve⟩
  · rintro ⟨hparse, name, hresolve⟩
    exact bind_eq_ok_iff.mpr ⟨_, hparse, bind_eq_ok_iff.mpr ⟨_, hresolve, rfl⟩⟩

namespace Spacing

variable {s : Spacing} {bang : Bool} {name text : List Char} {sign : String} {op : Operator}

/-- **A filter by a sign, as it is compiled.** -/
theorem compile_filter_iff (hname : IsName name) (hsign : op.Finds sign text) {f : Filter ε} :
    t.compile (s.filter bang name sign text) = .ok f ↔
      ∃ v, Value.parse (String.ofList text) = .ok (some v) ∧ op.comparison.supports v = true ∧
        (∃ found, t.resolve (some (String.ofList name)) = .ok (found, f.extract)) ∧
        f.criterion = {
          source := trim (s.filter bang name sign text)
          value := v
          comparison := op.comparison
          operator := some op
          extractor := some (String.ofList name)
          negate := bang != op.negates } := by
  rw [Extractors.compile_eq_ok_iff, parse_filter_iff hname hsign]
  constructor
  · rintro ⟨⟨-, v, hv, hsupports, hc⟩, found, hresolve⟩
    rw [hc] at hresolve
    exact ⟨v, hv, hsupports, ⟨found, hresolve⟩, hc⟩
  · rintro ⟨v, hv, hsupports, ⟨found, hresolve⟩, hc⟩
    obtain ⟨-, known, hknown, hmem⟩ := (resolve_eq_ok_iff t _).mp ⟨_, hresolve⟩
    obtain rfl := Option.some.inj hknown
    refine ⟨⟨hmem, v, hv, hsupports, hc⟩, found, ?_⟩
    rw [hc]
    exact hresolve

theorem exists_compile_iff (hname : IsName name) (hsign : op.Finds sign text) :
    (∃ f, t.compile (s.filter bang name sign text) = .ok f) ↔
      ∃ v, Value.parse (String.ofList text) = .ok (some v) ∧ op.comparison.supports v = true ∧
        ∃ found, t.resolve (some (String.ofList name)) = .ok found := by
  constructor
  · rintro ⟨f, hf⟩
    obtain ⟨v, hv, hsupports, ⟨found, hfound⟩, -⟩ := (compile_filter_iff hname hsign).mp hf
    exact ⟨v, hv, hsupports, (found, f.extract), hfound⟩
  · rintro ⟨v, hv, hsupports, ⟨found, extract⟩, hfound⟩
    let c : Criterion := {
      source := trim (s.filter bang name sign text)
      value := v
      comparison := op.comparison
      operator := some op
      extractor := some (String.ofList name)
      negate := bang != op.negates }
    exact ⟨⟨c, extract⟩,
      (compile_filter_iff hname hsign).mpr ⟨v, hv, hsupports, ⟨found, hfound⟩, rfl⟩⟩

end Spacing

end

end CourseFeed
