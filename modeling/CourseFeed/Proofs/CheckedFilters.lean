import CourseFeed.Proofs.ElementOrder
import CourseFeed.Proofs.FilterGrammar
import CourseFeed.Proofs.InputsFirst

/-!
# Checking filters

Checking expressions compiles each of them alone, exporting compiles all of them in a row.  Both
find fault with the same expressions, since a list is refused just if one of its expressions is.

* **`checkText_eq_refusalText_iff`** — what is shown about an expression is a refusal just if it
  means no filter: what is shown about a filter begins otherwise, whatever the expression is.
* **`checkReport_code_eq_zero_iff`** — checking succeeds just if all expressions can be compiled.
* **`filter_lists_conjoin`** — what lists of filters select, and that checking tells whether an
  export accepts them.
-/

namespace CourseFeed

open CourseFeed.Text

/-- An expression that is read is not blank, and its source is what it is without the blanks at its
    ends. -/
theorem Criterion.source_of_parse {ε : Type} {table : Extractors ε} {expression : String}
    {c : Criterion} (h : Criterion.parse expression table = .ok c) :
    trimBlanks expression.toList ≠ [] ∧ c.source.toList = trimBlanks expression.toList := by
  obtain ⟨hne, -, parts, value, -, -, -, -, rfl⟩ := Criterion.parse_eq_ok_iff_parts.mp h
  refine ⟨hne, ?_⟩
  show (trim expression).toList = _
  rw [trim, String.toList_ofList]

namespace Command

/-! ## What is shown -/

/-- A refusal of an expression. -/
def refusalText (expression reason : String) : String :=
  expression ++ "\n  error: " ++ reason ++ "\n"

theorem toList_refusalText (expression reason : String) :
    ∃ rest, (refusalText expression reason).toList =
      expression.toList ++ (['\n', ' ', ' '] ++ 'e' :: 'r' :: rest) := by
  refine ⟨"ror: ".toList ++ (reason.toList ++ "\n".toList), ?_⟩
  simp only [refusalText, String.toList_append, List.append_assoc]
  rfl

theorem toList_criterionText (c : Criterion) :
    ∃ rest, (criterionText c).toList =
      c.source.toList ++ (['\n', ' ', ' '] ++ 'e' :: 'x' :: rest) := by
  delta criterionText
  simp only [String.toList_append, List.append_assoc]
  exact ⟨_, rfl⟩

/-- **What is shown about a filter is no refusal of its expression.** -/
theorem criterionText_ne_refusalText {ε : Type} {table : Extractors ε} {expression : String}
    {c : Criterion} (h : Criterion.parse expression table = .ok c) (reason : String) :
    criterionText c ≠ refusalText expression reason := by
  intro heq
  obtain ⟨hne, hsource⟩ := Criterion.source_of_parse h
  obtain ⟨shown, hshown⟩ := toList_criterionText c
  obtain ⟨told, htold⟩ := toList_refusalText expression reason
  obtain ⟨lead, trail, hlead, htrail, hexpression⟩ := exists_gaps expression.toList
  have hstart := (trimmed_trimBlanks expression.toList).start
  have hlists := congrArg String.toList heq
  rw [hshown, htold, hsource, congrArg (· ++ _) hexpression] at hlists
  generalize trimBlanks expression.toList = core at hlists hne hstart
  -- both begin with the source, as it does not begin with a blank
  have hnolead : lead = [] := by
    cases lead with
    | nil => rfl
    | cons c rest =>
        cases core with
        | nil => exact absurd rfl hne
        | cons d tail =>
            have hblank := hlead.blank List.mem_cons_self
            rw [← (List.cons.inj hlists).1, hstart d tail rfl] at hblank
            exact nomatch hblank
  rw [hnolead, List.nil_append, List.append_assoc, ← List.append_assoc trail] at hlists
  have hrest := List.append_cancel_left hlists
  -- behind it and the blanks that follow, one goes on with an `x` and the other with an `r`
  have hgap : IsGap ['\n', ' ', ' '] := by decide
  have hgap' : IsGap (trail ++ ['\n', ' ', ' ']) := List.forall_mem_append.mpr ⟨htrail, hgap⟩
  have hoff : ∀ rest, BeginsOff isBlank ('e' :: rest) := fun rest => beginsOff_cons (by decide)
  obtain ⟨-, hletters⟩ :=
    append_off_inj (isGap_iff.mp hgap) (isGap_iff.mp hgap') (hoff _) (hoff _) hrest
  exact absurd (List.cons.inj (List.cons.inj hletters).2).1 (by decide)

theorem isInvalid_iff {expression : String} :
    isInvalid expression = true ↔
      ∃ error, Catalog.extractors.compile expression = .error error := by
  rw [isInvalid]
  cases Catalog.extractors.compile expression with
  | ok f =>
      constructor
      · intro h
        exact nomatch h
      · rintro ⟨error, h⟩
        exact nomatch h
  | error error => exact ⟨fun _ => ⟨error, rfl⟩, fun _ => rfl⟩

theorem checkText_of_error {expression : String} {error : FilterError}
    (h : Catalog.extractors.compile expression = .error error) :
    checkText expression = refusalText expression error.message := by
  rw [checkText, h]
  rfl

/-- **A refusal is shown for an expression just if it means no filter.** -/
theorem checkText_eq_refusalText_iff {expression : String} :
    (∃ reason, checkText expression = refusalText expression reason) ↔
      ∃ error, Catalog.extractors.compile expression = .error error := by
  constructor
  · rintro ⟨reason, hshown⟩
    cases hcompile : Catalog.extractors.compile expression with
    | error error => exact ⟨error, rfl⟩
    | ok f =>
        obtain ⟨c, hparse, hbound⟩ := bind_eq_ok_iff.mp hcompile
        obtain ⟨found, -, hfilter⟩ := bind_eq_ok_iff.mp hbound
        obtain rfl := Except.ok.inj hfilter
        rw [checkText, hcompile] at hshown
        exact absurd hshown (criterionText_ne_refusalText hparse reason)
  · rintro ⟨error, herror⟩
    exact ⟨error.message, checkText_of_error herror⟩

/-! ## The outcome -/

/-- **Checking succeeds just if all expressions can be compiled.** -/
theorem checkReport_code_eq_zero_iff {expressions : List String} :
    (checkReport expressions).code = 0 ↔
      ∃ fs, Catalog.extractors.compileAll expressions = .ok fs := by
  have hcode : (checkReport expressions).code = 0 ↔ expressions.countP isInvalid = 0 := by
    show (if (if 0 < expressions.countP isInvalid then _ else none).isSome = true then 1 else 0) = 0
      ↔ _
    by_cases hpos : 0 < expressions.countP isInvalid
    · rw [if_pos hpos]
      simp [Nat.ne_of_gt hpos]
    · rw [if_neg hpos]
      simp [Nat.eq_zero_of_not_pos hpos]
  rw [hcode, List.countP_eq_zero]
  constructor
  · intro hvalid
    cases hall : Catalog.extractors.compileAll expressions with
    | ok fs => exact ⟨fs, rfl⟩
    | error error =>
        obtain ⟨x, hx, hfault⟩ := Extractors.compileAll_fails_iff.mp ⟨error, hall⟩
        exact absurd (isInvalid_iff.mpr hfault) (hvalid x hx)
  · rintro ⟨fs, hall⟩ x hx hinvalid
    obtain ⟨error, hfault⟩ :=
      Extractors.compileAll_fails_iff.mpr ⟨x, hx, isInvalid_iff.mp hinvalid⟩
    exact nomatch hall.symm.trans hfault

/-- **An export is refused for its filters just if checking these fails.** -/
theorem runPlan_refuses_iff (session : Session) (plan : ExportPlan) (settings : Settings) :
    (∃ error, (runPlan session plan settings).2 = .error (.filter error)) ↔
      (checkReport settings.filters).code ≠ 0 := by
  rw [Ne, checkReport_code_eq_zero_iff, runPlan]
  cases hall : Catalog.extractors.compileAll settings.filters with
  | error error =>
      constructor
      · rintro - ⟨fs, h⟩
        cases h
      · intro _
        exact ⟨error, rfl⟩
  | ok fs =>
      constructor
      · rintro ⟨error, h⟩
        exact absurd trivial (not_ofInputs_writeFeed (Prod.ext rfl h))
      · intro h
        exact absurd ⟨fs, rfl⟩ h

/-- Expressions behind `--` are taken as they are. -/
theorem takeOperands_check (g : Given) (expressions : List String) :
    expressions.foldlM checkSignature.takeOperand g =
      .ok { g with operands := g.operands ++ expressions } := by
  induction expressions generalizing g with
  | nil =>
      rw [List.append_nil]
      rfl
  | cons x rest ih =>
      have hrest := ih { g with operands := g.operands ++ [x] }
      rw [List.append_assoc] at hrest
      exact hrest

theorem parse_checkFilters {expressions : List String} (h : expressions ≠ []) :
    Request.parse ("check-filter" :: "--" :: expressions) = .ok (.checkFilters expressions) := by
  have hread : checkSignature.read ("--" :: expressions) = .ok ⟨[], expressions⟩ :=
    takeOperands_check .empty expressions
  show (checkSignature.read ("--" :: expressions) >>= _) = _
  rw [hread]
  cases expressions with
  | nil => exact absurd rfl h
  | cons x rest => rfl

end Command

/-! ## Selections -/

/-- The elements that some filters select are those of all elements that they accept. -/
theorem Catalog.elements_eq_filter (c : Catalog) (fs : List (Filter Element)) :
    c.elements fs = (c.elements []).filter (acceptedByAll fs) := by
  have hall : ∀ xs : List Element, xs.filter (acceptedByAll []) = xs :=
    fun xs => List.filter_eq_self.mpr fun _ _ => rfl
  rw [elements_eq, elements_eq, hall]

/-- Selecting by two lists of expressions is selecting by the one among what the other selects. -/
theorem Catalog.elements_append (c : Catalog) {t : Extractors Element} {es es' : List String}
    {fs fs' gs : List (Filter Element)} (h : t.compileAll es = .ok fs)
    (h' : t.compileAll es' = .ok fs') (hboth : t.compileAll (es ++ es') = .ok gs) :
    c.elements gs = (c.elements fs).filter fun e => e ∈ c.elements fs' := by
  rw [c.elements_eq_filter gs, c.elements_eq_filter fs, List.filter_filter]
  refine List.filter_congr ?_
  intro e he
  rw [c.elements_eq_filter fs', acceptedByAll_append h h' hboth e, Bool.and_comm]
  simp only [List.mem_filter, he, true_and, Bool.decide_eq_true]

/-- **A list of expressions selects what all of them select, and checking tells whether an export
    takes them.**  Lists are accepted together just if each is, and one is refused for its first
    expression that means no filter.  The filters of two lists select, among what those of the first
    select, what those of the second select, in the same order; so only which expressions there are
    counts, not their order or number.  Checking shows for each expression an entry of its own,
    which is a refusal just if the expression means no filter, counts these in its fault, and
    succeeds just if an export would not be refused for these filters. -/
theorem filter_lists_conjoin :
    (∀ {ε : Type} (t : Extractors ε) (es es' : List String),
      ((∃ gs, t.compileAll (es ++ es') = .ok gs) ↔
        (∃ fs, t.compileAll es = .ok fs) ∧ ∃ fs', t.compileAll es' = .ok fs') ∧
      (∀ error, t.compileAll es = .error error ↔
        ∃ before x after, es = before ++ x :: after ∧
          (∀ y ∈ before, ∃ f, t.compile y = .ok f) ∧ t.compile x = .error error) ∧
      (∀ fs fs' gs, t.compileAll es = .ok fs → t.compileAll es' = .ok fs' →
        t.compileAll (es ++ es') = .ok gs → ∀ xs : List ε,
        xs.filter (acceptedByAll gs) =
          (xs.filter (acceptedByAll fs)).filter (acceptedByAll fs')) ∧
      ∀ fs, t.compileAll es = .ok fs → (∀ x, x ∈ es ↔ x ∈ es') →
        ∃ fs', t.compileAll es' = .ok fs' ∧ ∀ xs : List ε,
          xs.filter (acceptedByAll fs') = xs.filter (acceptedByAll fs)) ∧
    (∀ (c : Catalog) (t : Extractors Element) (es es' : List String)
      (fs fs' gs : List (Filter Element)), c.elements fs = (c.elements []).filter (acceptedByAll fs) ∧
      (t.compileAll es = .ok fs → t.compileAll es' = .ok fs' → t.compileAll (es ++ es') = .ok gs →
        c.elements gs = (c.elements fs).filter fun e => e ∈ c.elements fs')) ∧
    ∀ (time : String) (storage : Storage) (expressions : List String),
      let compile := Catalog.extractors.compile
      let invalid := expressions.countP Command.isInvalid
      ∃ report, (Command.Request.checkFilters expressions).run time storage = (storage, report) ∧
        report.shown = String.join (expressions.map Command.checkText) ∧
        report.fault =
          (if invalid = 0 then none else some (.settings (.invalidFilters invalid))) ∧
        (∀ x, (Command.isInvalid x = true ↔ ∃ error, compile x = .error error) ∧
          ((∃ reason, Command.checkText x = Command.refusalText x reason) ↔
            ∃ error, compile x = .error error) ∧
          ∀ error, compile x = .error error →
            Command.checkText x = Command.refusalText x error.message) ∧
        (report.code = 0 ↔ ∃ fs, Catalog.extractors.compileAll expressions = .ok fs) ∧
        (∀ session plan settings, settings.filters = expressions →
          ((∃ error, (Command.runPlan session plan settings).2 = .error (.filter error)) ↔
            report.code ≠ 0)) ∧
        (expressions ≠ [] → Command.Request.parse ("check-filter" :: "--" :: expressions) =
          .ok (.checkFilters expressions)) := by
  refine ⟨?_, ?_, ?_⟩
  · intro ε t es es'
    refine ⟨?_, fun error => Extractors.compileAll_eq_error_iff, ?_, ?_⟩
    · simp only [Extractors.exists_compileAll_iff, List.forall_mem_append]
    · intro fs fs' gs h h' hboth xs
      rw [List.filter_filter]
      refine List.filter_congr ?_
      intro e _
      rw [acceptedByAll_append h h' hboth e, Bool.and_comm]
    · intro fs h hsame
      obtain ⟨fs', h'⟩ : ∃ fs', t.compileAll es' = .ok fs' := by
        refine Extractors.exists_compileAll_iff.mpr ?_
        intro x hx
        exact Extractors.exists_compileAll_iff.mp ⟨fs, h⟩ x ((hsame x).mpr hx)
      refine ⟨fs', h', ?_⟩
      intro xs
      refine List.filter_congr ?_
      intro e _
      exact (acceptedByAll_congr h h' hsame e).symm
  · intro c t es es' fs fs' gs
    exact ⟨c.elements_eq_filter fs, fun h h' hboth => c.elements_append h h' hboth⟩
  · intro time storage expressions compile invalid
    refine ⟨Command.checkReport expressions, rfl, rfl, ?_, ?_, Command.checkReport_code_eq_zero_iff,
      ?_, Command.parse_checkFilters⟩
    · show (if 0 < invalid then some _ else none) = _
      by_cases hnone : invalid = 0
      · rw [if_pos hnone, if_neg (by omega)]
      · rw [if_neg hnone, if_pos (by omega)]
    · intro x
      exact ⟨Command.isInvalid_iff, Command.checkText_eq_refusalText_iff,
        fun error => Command.checkText_of_error⟩
    · rintro session plan settings rfl
      exact Command.runPlan_refuses_iff session plan settings

/-- Two lists of expressions on the year and the code, and a list with an operator that takes no
    numbers. -/
theorem filter_lists_conjoin_year_code :
    let es := ["year > 2015"]
    let es' := ["! code == \"A\"", "year > 2015"]
    let c : Catalog := ⟨[{ code := "A", year := 2016 }, { code := "B", year := 2016 },
      { code := "B", year := 2015 }]⟩
    (∃ fs fs' gs, Catalog.extractors.compileAll es = .ok fs ∧
      Catalog.extractors.compileAll es' = .ok fs' ∧
      Catalog.extractors.compileAll (es ++ es') = .ok gs ∧
      c.elements gs = (c.elements fs).filter (fun e => e ∈ c.elements fs') ∧
      (c.elements gs).length = 1) ∧
    (Command.checkReport ["year > 2015", "year in 2015"]).code = 1 := by
  intro es es' c
  obtain ⟨hlists, hcatalogs, hchecks⟩ := filter_lists_conjoin
  have hboth : ∃ gs, Catalog.extractors.compileAll (es ++ es') = .ok gs := by
    obtain ⟨report, hrun, -, -, -, hcode, -⟩ := hchecks "" ⟨[], []⟩ (es ++ es')
    obtain rfl := (Prod.mk.inj hrun).2
    exact hcode.mp (by decide +kernel)
  obtain ⟨⟨fs, hfs⟩, fs', hfs'⟩ := (hlists Catalog.extractors es es').1.mp hboth
  obtain ⟨gs, hgs⟩ := hboth
  refine ⟨⟨fs, fs', gs, hfs, hfs', hgs, ?_, ?_⟩, by decide +kernel⟩
  · exact (hcatalogs c Catalog.extractors es es' fs fs' gs).2 hfs hfs' hgs
  · have hcount : ((Catalog.extractors.compileAll (es ++ es')).toOption.map fun gs =>
        (c.elements gs).length) = some 1 := by decide +kernel
    rw [hgs] at hcount
    exact Option.some.inj hcount

end CourseFeed
