import CourseFeed.Catalog.Selection
import CourseFeed.Proofs.SpacedFilters

/-!
# Negated filters

A filter is turned round in three ways: by a `!` before it, by the sign `!~`, and by the comparison
that `!=` asks for.  The `!` before a filter is taken off before anything else is read, so it
changes the answer and nothing besides.

* **`Criterion.parse_bang_iff`** — what an expression with a `!` before it is read as.
* **`Extractors.Related`** — two expressions mean filters together, and the answers of the one are
  those of the other, changed; **`Spacing.related`** — when filters by signs are.
* **`negation_composes`** — which filters are negations of which.
-/

namespace CourseFeed

open CourseFeed.Text

/-! ## A bang before an expression -/

namespace ExpressionParts

/-- Where the text of a value is found does not depend on the expression that is told of a fault. -/
theorem operatorValue_ok {expression : String} {op : Operator} {text : List Char} {value : String}
    (h : operatorValue expression op text = .ok value) (expression' : String) :
    operatorValue expression' op text = .ok value := by
  rw [operatorValue] at h ⊢
  by_cases hempty : (trimBlanks text).isEmpty = true
  · simp only [if_pos hempty] at h
    cases h
  · simp only [if_neg hempty] at h ⊢
    exact h

/-- Nor do the cuts. -/
theorem split_ok {expression : String} {text : List Char} {parts : ExpressionParts}
    (h : split expression text = .ok parts) (expression' : String) :
    split expression' text = .ok parts := by
  obtain ⟨name, after, hname⟩ : ∃ name after, splitName text = (name, after) := ⟨_, _, rfl⟩
  simp only [split, hname] at h ⊢
  by_cases halone : (name.isEmpty || (trimBlanks after).isEmpty) = true
  · rw [if_pos halone] at h ⊢
    exact h
  · rw [if_neg halone] at h ⊢
    cases hsign : Operator.sign? (dropBlanks after) with
    | some found =>
        rw [hsign] at h
        obtain ⟨value, hvalue, hparts⟩ := bind_eq_ok_iff.mp h
        exact bind_eq_ok_iff.mpr ⟨value, operatorValue_ok hvalue expression', hparts⟩
    | none =>
        rw [hsign] at h
        by_cases hglued : ¬ startsBlank after = true
        · simp only [if_pos hglued] at h
          cases h
        · simp only [if_neg hglued] at h ⊢
          cases hword : wordOperator? (dropBlanks after) with
          | none =>
              rw [hword] at h
              exact h
          | some found =>
              rw [hword] at h
              obtain ⟨value, hvalue, hparts⟩ := bind_eq_ok_iff.mp h
              exact bind_eq_ok_iff.mpr ⟨value, operatorValue_ok hvalue expression', hparts⟩

end ExpressionParts

/-- The expression behind a `!` is what it would be alone, without the blanks at its ends. -/
theorem splitNegation_bang (expression : String) :
    trimBlanks ("!" ++ expression).toList ≠ [] ∧
      Criterion.splitNegation (trimBlanks ("!" ++ expression).toList) =
        (true, trimBlanks expression.toList) := by
  have hbang : Trimmed ['!'] := ⟨beginsOff_cons (by decide), beginsOff_cons (by decide)⟩
  obtain ⟨gap, hgap, htrim⟩ := trimBlanks_front hbang (List.cons_ne_nil _ _) expression.toList
  have htext : ("!" ++ expression).toList = ['!'] ++ expression.toList := by
    rw [String.toList_append]
    rfl
  rw [htext, htrim]
  refine ⟨List.cons_ne_nil _ _, ?_⟩
  show (true, dropBlanks (gap ++ trimBlanks expression.toList)) = _
  rw [dropBlanks, dropWhile_append_off (isGap_iff.mp hgap)
    (trimmed_trimBlanks expression.toList).start]

/-- **A `!` before an expression that has none turns the answer round** and leaves all else. -/
theorem Criterion.parse_bang_iff {ε : Type} {table : Extractors ε} {expression : String}
    (h : ∀ rest, trimBlanks expression.toList ≠ '!' :: rest) {c : Criterion} :
    Criterion.parse ("!" ++ expression) table = .ok c ↔
      ∃ c', Criterion.parse expression table = .ok c' ∧
        c = { c' with source := trim ("!" ++ expression), negate := !c'.negate } := by
  obtain ⟨hnonempty, hneg⟩ := splitNegation_bang expression
  have hplain : Criterion.splitNegation (trimBlanks expression.toList) =
      (false, trimBlanks expression.toList) := by
    rw [Criterion.splitNegation]
    exact h
  have hturn : ∀ negates : Bool, (true != negates) = !(false != negates) := by decide
  simp only [Criterion.parse_eq_ok_iff_parts, hneg, hplain]
  constructor
  · rintro ⟨-, htable, parts, v, hsplit, hv, hfound, hsupports, rfl⟩
    have hne : trimBlanks expression.toList ≠ [] := by
      intro hnil
      rw [hnil] at hsplit
      obtain rfl := Except.ok.inj hsplit
      cases hv
    refine ⟨_, ⟨hne, htable, parts, v, ExpressionParts.split_ok hsplit _, hv, hfound, hsupports,
      rfl⟩, ?_⟩
    rw [← hturn]
  · rintro ⟨c', ⟨-, htable, parts, v, hsplit, hv, hfound, hsupports, rfl⟩, rfl⟩
    refine ⟨hnonempty, htable, parts, v, ExpressionParts.split_ok hsplit _, hv, hfound, hsupports,
      ?_⟩
    rw [← hturn]

/-! ## Related expressions -/

section

variable {ε : Type} {t : Extractors ε}

/-- Two expressions mean filters together or not at all, and the answers of the first are those of
    the second, changed. -/
def Extractors.Related (t : Extractors ε) (change : Bool → Bool) (x y : String) : Prop :=
  ((∃ f, t.compile x = .ok f) ↔ ∃ g, t.compile y = .ok g) ∧
    ∀ f g, t.compile x = .ok f → t.compile y = .ok g → ∀ e, f.accepts e = change (g.accepts e)

/-- A `!` before an expression leaves its extractor. -/
theorem compile_bang_iff {expression : String}
    (h : ∀ rest, trimBlanks expression.toList ≠ '!' :: rest) {f : Filter ε} :
    t.compile ("!" ++ expression) = .ok f ↔
      ∃ g, t.compile expression = .ok g ∧ f.extract = g.extract ∧
        f.criterion = { g.criterion with
          source := trim ("!" ++ expression), negate := !g.criterion.negate } := by
  simp only [Extractors.compile_eq_ok_iff, Criterion.parse_bang_iff h]
  constructor
  · rintro ⟨⟨c, hparse, hc⟩, name, hresolve⟩
    rw [hc] at hresolve
    exact ⟨⟨c, f.extract⟩, ⟨hparse, name, hresolve⟩, rfl, hc⟩
  · rintro ⟨g, ⟨hparse, name, hresolve⟩, hextract, hc⟩
    rw [hextract, hc]
    exact ⟨⟨g.criterion, hparse, rfl⟩, name, hresolve⟩

/-- **A `!` before an expression negates the filter that it means.** -/
theorem related_bang {expression : String}
    (h : ∀ rest, trimBlanks expression.toList ≠ '!' :: rest) :
    t.Related not ("!" ++ expression) expression := by
  constructor
  · constructor
    · rintro ⟨f, hf⟩
      obtain ⟨g, hg, -⟩ := (compile_bang_iff h).mp hf
      exact ⟨g, hg⟩
    · rintro ⟨g, hg⟩
      let turned : Filter ε := { g with criterion := { g.criterion with
        source := trim ("!" ++ expression), negate := !g.criterion.negate } }
      exact ⟨turned, (compile_bang_iff h).mpr ⟨g, hg, rfl, rfl⟩⟩
  · intro f g hf hg e
    obtain ⟨g', hg', hextract, hc⟩ := (compile_bang_iff h).mp hf
    obtain rfl := Except.ok.inj (hg.symm.trans hg')
    rw [Filter.accepts, Filter.accepts, hc, hextract]
    show (_ != !g.criterion.negate) = !(_ != g.criterion.negate)
    cases g.criterion.negate <;> simp

/-! ## Signs -/

/-- The signs that no further character makes another sign. -/
def Operator.closedSigns : List Operator := [.eq, .ne, .tilde, .equalTilde, .notTilde]

theorem IsSign.finds_closed {sign : String} {op : Operator} (hsign : IsSign sign op)
    (hop : op ∈ Operator.closedSigns) (text : List Char) : op.Finds sign text := by
  refine ⟨hsign, ?_⟩
  intro gap _
  obtain ⟨-, rfl⟩ := isSign_iff.mp hsign
  simp only [Operator.closedSigns, List.mem_cons, List.not_mem_nil, or_false] at hop
  rcases hop with rfl | rfl | rfl | rfl | rfl <;>
    (simp [Operator.sign?, Operator.signs, Operator.symbol]; try rfl)

/-- **Filters by signs that take the same values are related as their answers are**, however they
    are spaced. -/
theorem Spacing.related {s s' : Spacing} {bang bang' : Bool} {name text : List Char}
    {sign sign' : String} {op op' : Operator} {change : Bool → Bool} (hname : IsName name)
    (hsign : IsSign sign op) (hsign' : IsSign sign' op')
    (hop : op ∈ Operator.closedSigns) (hop' : op' ∈ Operator.closedSigns)
    (hsupports : ∀ v, op.comparison.supports v = op'.comparison.supports v)
    (hanswers : ∀ v field, (op.comparison.holds v field != (bang != op.negates)) =
      change (op'.comparison.holds v field != (bang' != op'.negates))) :
    t.Related change (s.filter bang name sign text) (s'.filter bang' name sign' text) := by
  have hfinds := hsign.finds_closed hop text
  have hfinds' := hsign'.finds_closed hop' text
  constructor
  · simp only [Spacing.exists_compile_iff hname hfinds, Spacing.exists_compile_iff hname hfinds',
      hsupports]
  · intro f g hf hg e
    obtain ⟨v, hv, -, ⟨found, hfound⟩, hc⟩ := (Spacing.compile_filter_iff hname hfinds).mp hf
    obtain ⟨v', hv', -, ⟨found', hfound'⟩, hc'⟩ :=
      (Spacing.compile_filter_iff hname hfinds').mp hg
    obtain rfl := Option.some.inj (Except.ok.inj (hv.symm.trans hv'))
    have hextract : f.extract = g.extract :=
      (Prod.mk.inj (Except.ok.inj (hfound.symm.trans hfound'))).2
    rw [Filter.accepts, Filter.accepts, hc, hc', hextract]
    exact hanswers v (g.extract e)

end

/-- **Negation composes.**  An expression that has no `!` in front and the one with a `!` before it
    are accepted together; they ask the same value the same of the same field, and the answers are
    opposite.  For every name, any gaps and any text of a value, the filters by `!~` and by `~` or
    `=~` are opposite, a `!` before `!~` takes the negation back, and the filters by `!=` and by
    `==` are opposite. -/
theorem negation_composes {ε : Type} (t : Extractors ε) :
    (∀ expression : String, (∀ rest, trimBlanks expression.toList ≠ '!' :: rest) →
      t.Related not ("!" ++ expression) expression ∧
      ∀ f g, t.compile ("!" ++ expression) = .ok f → t.compile expression = .ok g →
        f.criterion.value = g.criterion.value ∧ f.criterion.comparison = g.criterion.comparison ∧
        f.criterion.operator = g.criterion.operator ∧
        f.criterion.extractor = g.criterion.extractor ∧ f.extract = g.extract) ∧
    ∀ name, IsName name → ∀ (s r : Spacing) (text : List Char),
      t.Related not (s.filter false name "!~" text) (r.filter false name "~" text) ∧
      t.Related not (s.filter false name "!~" text) (r.filter false name "=~" text) ∧
      t.Related id (s.filter true name "!~" text) (r.filter false name "~" text) ∧
      t.Related not (s.filter false name "!=" text) (r.filter false name "==" text) := by
  constructor
  · intro expression h
    refine ⟨related_bang h, ?_⟩
    intro f g hf hg
    obtain ⟨g', hg', hextract, hc⟩ := (compile_bang_iff h).mp hf
    obtain rfl := Except.ok.inj (hg.symm.trans hg')
    rw [hc]
    exact ⟨rfl, rfl, rfl, rfl, hextract⟩
  · intro name hname s r text
    have hturned : ∀ answer : Bool,
        (answer != (false != true)) = !(answer != (false != false)) := by decide
    have hback : ∀ answer : Bool,
        (answer != (true != true)) = id (answer != (false != false)) := by decide
    have hunequal : ∀ answer : Bool,
        ((!answer) != (false != false)) = !(answer != (false != false)) := by decide
    refine ⟨?_, ?_, ?_, ?_⟩
    · exact Spacing.related hname .notTilde .tilde (by decide) (by decide) (fun v => rfl)
        fun v field => hturned (v.isMatch field)
    · exact Spacing.related hname .notTilde .equalTilde (by decide) (by decide) (fun v => rfl)
        fun v field => hturned (v.isMatch field)
    · exact Spacing.related hname .notTilde .tilde (by decide) (by decide) (fun v => rfl)
        fun v field => hback (v.isMatch field)
    · exact Spacing.related hname .ne .eq (by decide) (by decide) (fun v => rfl)
        fun v field => hunequal (v.same field)

/-- A filter on the code behind a blank, and filters by signs with tabs in their gaps. -/
theorem negation_composes_code_prefix :
    let t := Catalog.extractors
    let expression := " code ~ /^CS/"
    let name := "code".toList
    let text := "/^CS/ ".toList
    let s : Spacing := ⟨[' '], ['\t'], [' ', '\t'], [], ['\n'], by decide⟩
    let r : Spacing := ⟨[], [], [], [' '], [], by decide⟩
    (∃ f g, t.compile ("!" ++ expression) = .ok f ∧ t.compile expression = .ok g ∧
      ∀ e, f.accepts e = !g.accepts e) ∧
    (∃ f g, t.compile (s.filter false name "!~" text) = .ok f ∧
      t.compile (r.filter false name "=~" text) = .ok g ∧
      ∀ e, f.accepts e = !g.accepts e) ∧
    ∃ f g, t.compile (s.filter true name "!~" text) = .ok f ∧
      t.compile (r.filter false name "~" text) = .ok g ∧
      ∀ e, f.accepts e = g.accepts e := by
  intro t expression name text s r
  obtain ⟨hbangs, hsigns⟩ := negation_composes t
  have hplain : ∀ rest, trimBlanks expression.toList ≠ '!' :: rest := by
    intro rest heq
    have hstart : (trimBlanks expression.toList).head? = some 'c' := by decide +kernel
    rw [heq] at hstart
    exact absurd (Option.some.inj hstart) (by decide)
  have hname : IsName name :=
    isName_cons_iff.mpr ⟨by decide, List.all_eq_true.mp (by decide)⟩
  have hok : ∀ x ∈ [expression, r.filter false name "=~" text,
      r.filter false name "~" text], ∃ g, t.compile x = .ok g := by
    have hvalid : ([expression, r.filter false name "=~" text,
        r.filter false name "~" text].all fun x => (t.compile x).isOk) = true := by
      decide +kernel
    intro x hx
    exact exists_eq_ok_of_isOk (List.all_eq_true.mp hvalid x hx)
  obtain ⟨hbang, -⟩ := hbangs expression hplain
  obtain ⟨-, hequal, hback, -⟩ := hsigns name hname s r text
  refine ⟨?_, ?_, ?_⟩
  · obtain ⟨g, hg⟩ := hok expression (by simp)
    obtain ⟨f, hf⟩ := hbang.1.mpr ⟨g, hg⟩
    exact ⟨f, g, hf, hg, hbang.2 f g hf hg⟩
  · obtain ⟨g, hg⟩ := hok (r.filter false name "=~" text) (by simp)
    obtain ⟨f, hf⟩ := hequal.1.mpr ⟨g, hg⟩
    exact ⟨f, g, hf, hg, hequal.2 f g hf hg⟩
  · obtain ⟨g, hg⟩ := hok (r.filter false name "~" text) (by simp)
    obtain ⟨f, hf⟩ := hback.1.mpr ⟨g, hg⟩
    exact ⟨f, g, hf, hg, hback.2 f g hf hg⟩

end CourseFeed
