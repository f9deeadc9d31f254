import CourseFeed.Filter.Selection
import CourseFeed.Proofs.Outcomes
import Mathlib.Data.List.Forall2

/-!
# Lists of filters

Some expressions are compiled one after the other, and the filters made of them accept an element
together.  So what a list of expressions means is what each of them means, wherever it stands.

* **`Extractors.compileAll_eq_error_iff`** — a list is refused for its first expression that means
  no filter, and for the reason that this one has; **`Extractors.exists_compileAll_iff`** — else it
  is accepted.
* **`acceptedByAll_iff`** — an element is accepted just if the filter of each expression accepts it;
  **`acceptedByAll_congr`** and **`acceptedByAll_append`** — so only which expressions are there
  counts, and the filters of two lists together select what each of them selects.
-/

namespace CourseFeed

section

variable {ε : Type} {t : Extractors ε}

/-- **A list is refused for its first expression that means no filter.** -/
theorem Extractors.compileAll_eq_error_iff {expressions : List String} {error : FilterError} :
    t.compileAll expressions = .error error ↔
      ∃ before expression after, expressions = before ++ expression :: after ∧
        (∀ x ∈ before, ∃ f, t.compile x = .ok f) ∧ t.compile expression = .error error := by
  induction expressions with
  | nil =>
      constructor
      · intro h
        exact nomatch h
      · rintro ⟨before, expression, after, hnil, -⟩
        exact absurd hnil.symm (List.append_ne_nil_of_right_ne_nil before (List.cons_ne_nil _ _))
  | cons first rest ih =>
      constructor
      · intro h
        rcases bind_eq_error_iff.mp h with hfirst | ⟨f, hfirst, hrest⟩
        · refine ⟨[], first, rest, rfl, ?_, hfirst⟩
          intro x hx
          exact absurd hx List.not_mem_nil
        · rcases bind_eq_error_iff.mp hrest with hrest | ⟨fs, -, hpure⟩
          · obtain ⟨before, expression, after, rfl, hbefore, hfault⟩ := ih.mp hrest
            refine ⟨first :: before, expression, after, rfl, ?_, hfault⟩
            intro x hx
            rcases List.mem_cons.mp hx with rfl | hx
            · exact ⟨f, hfirst⟩
            · exact hbefore x hx
          · exact nomatch hpure
      · rintro ⟨before, expression, after, heq, hbefore, hfault⟩
        cases before with
        | nil =>
            obtain ⟨rfl, rfl⟩ := List.cons.inj heq
            exact bind_eq_error_iff.mpr (Or.inl hfault)
        | cons x before =>
            obtain ⟨rfl, rfl⟩ := List.cons.inj heq
            obtain ⟨f, hf⟩ := hbefore first List.mem_cons_self
            have hrest : t.compileAll (before ++ expression :: after) = .error error :=
              ih.mpr ⟨before, expression, after, rfl,
                fun x hx => hbefore x (List.mem_cons_of_mem first hx), hfault⟩
            exact bind_eq_error_iff.mpr
              (Or.inr ⟨f, hf, bind_eq_error_iff.mpr (Or.inl hrest)⟩)

/-- The filters of a list are those of its expressions, one by one. -/
theorem Extractors.compileAll_eq_ok_iff {expressions : List String} {fs : List (Filter ε)} :
    t.compileAll expressions = .ok fs ↔
      List.Forall₂ (fun x f => t.compile x = .ok f) expressions fs := by
  induction expressions generalizing fs with
  | nil =>
      constructor
      · intro h
        obtain rfl := Except.ok.inj h
        exact .nil
      · intro h
        cases h
        rfl
  | cons first rest ih =>
      constructor
      · intro h
        obtain ⟨f, hfirst, h⟩ := bind_eq_ok_iff.mp h
        obtain ⟨fs, hrest, hpure⟩ := bind_eq_ok_iff.mp h
        obtain rfl := Except.ok.inj hpure
        exact .cons hfirst (ih.mp hrest)
      · intro h
        cases h with
        | cons hfirst hrest =>
            exact bind_eq_ok_iff.mpr ⟨_, hfirst, bind_eq_ok_iff.mpr ⟨_, ih.mpr hrest, rfl⟩⟩

/-- **A list is accepted just if each of its expressions means a filter.** -/
theorem Extractors.exists_compileAll_iff {expressions : List String} :
    (∃ fs, t.compileAll expressions = .ok fs) ↔ ∀ x ∈ expressions, ∃ f, t.compile x = .ok f := by
  induction expressions with
  | nil =>
      constructor
      · intro _ x hx
        exact absurd hx List.not_mem_nil
      · intro _
        exact ⟨[], rfl⟩
  | cons first rest ih =>
      rw [List.forall_mem_cons, ← ih]
      constructor
      · rintro ⟨fs, h⟩
        cases Extractors.compileAll_eq_ok_iff.mp h with
        | cons hfirst hrest => exact ⟨⟨_, hfirst⟩, _, Extractors.compileAll_eq_ok_iff.mpr hrest⟩
      · rintro ⟨⟨f, hfirst⟩, fs, hrest⟩
        exact ⟨f :: fs, bind_eq_ok_iff.mpr ⟨f, hfirst, bind_eq_ok_iff.mpr ⟨fs, hrest, rfl⟩⟩⟩

/-- A list is refused just if one of its expressions means no filter. -/
theorem Extractors.compileAll_fails_iff {expressions : List String} :
    (∃ error, t.compileAll expressions = .error error) ↔
      ∃ x ∈ expressions, ∃ error, t.compile x = .error error := by
  constructor
  · rintro ⟨error, h⟩
    obtain ⟨before, x, after, rfl, -, hfault⟩ := Extractors.compileAll_eq_error_iff.mp h
    exact ⟨x, List.mem_append_right before List.mem_cons_self, error, hfault⟩
  · rintro ⟨x, hx, error, hfault⟩
    cases hall : t.compileAll expressions with
    | error error' => exact ⟨error', rfl⟩
    | ok fs =>
        obtain ⟨f, hf⟩ := Extractors.exists_compileAll_iff.mp ⟨fs, hall⟩ x hx
        exact nomatch hfault.symm.trans hf

/-- **An element is accepted just if the filter of each expression accepts it.** -/
theorem acceptedByAll_iff {expressions : List String} {fs : List (Filter ε)}
    (h : t.compileAll expressions = .ok fs) (e : ε) :
    acceptedByAll fs e = true ↔
      ∀ x ∈ expressions, ∃ f, t.compile x = .ok f ∧ f.accepts e = true := by
  have hfilters := Extractors.compileAll_eq_ok_iff.mp h
  clear h
  induction hfilters with
  | nil =>
      constructor
      · intro _ x hx
        exact absurd hx List.not_mem_nil
      · intro _
        rfl
  | @cons first f rest fs hfirst hrest ih =>
      show (f.accepts e && acceptedByAll fs e) = true ↔ _
      rw [Bool.and_eq_true, List.forall_mem_cons]
      refine and_congr ?_ ih
      constructor
      · intro hf
        exact ⟨f, hfirst, hf⟩
      · rintro ⟨f', hfirst', hf⟩
        obtain rfl := Except.ok.inj (hfirst.symm.trans hfirst')
        exact hf

/-- Lists of the same expressions accept the same elements. -/
theorem acceptedByAll_congr {es es' : List String} {fs fs' : List (Filter ε)}
    (h : t.compileAll es = .ok fs) (h' : t.compileAll es' = .ok fs')
    (hsame : ∀ x, x ∈ es ↔ x ∈ es') (e : ε) : acceptedByAll fs e = acceptedByAll fs' e := by
  rw [Bool.eq_iff_iff, acceptedByAll_iff h, acceptedByAll_iff h']
  constructor
  · intro hall x hx
    exact hall x ((hsame x).mpr hx)
  · intro hall x hx
    exact hall x ((hsame x).mp hx)

/-- The filters of two lists accept together what those of each list accept. -/
theorem acceptedByAll_append {es es' : List String} {fs fs' gs : List (Filter ε)}
    (h : t.compileAll es = .ok fs) (h' : t.compileAll es' = .ok fs')
    (hboth : t.compileAll (es ++ es') = .ok gs) (e : ε) :
    acceptedByAll gs e = (acceptedByAll fs e && acceptedByAll fs' e) := by
  rw [Bool.eq_iff_iff, Bool.and_eq_true, acceptedByAll_iff h, acceptedByAll_iff h',
    acceptedByAll_iff hboth, List.forall_mem_append]

end

end CourseFeed
