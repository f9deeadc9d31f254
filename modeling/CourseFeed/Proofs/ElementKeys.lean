import CourseFeed.Proofs.ElementRows
import CourseFeed.Proofs.ExportReread
import CourseFeed.Proofs.SharedKeys
import Mathlib.Data.List.Nodup
import Mathlib.Data.List.Pairwise
import Mathlib.Data.List.Perm.Basic

/-!
# Keys of catalog elements

A cohort has a section of its own, made of the section of its course and the code of the cohort
with a hyphen between them.  Hyphens also stand in sections and in codes, so that two elements of
courses with one code may come to have the same section, and then they share a key.

* **`Catalog.perm_elements`** — without filters the elements of a catalog are those of its courses,
  each once.
* **`Course.Meets`** — a section of one course is one of another, said by their hyphens, and
  **`Course.exists_section_iff`**: there is no other way.
* **`Catalog.nodup_keys_iff`** — the elements of a catalog have keys of their own just if no two
  courses of one code meet, and **`Catalog.glued_section_shares_key`**: two that do.
-/

namespace CourseFeed

/-! ## The elements of a catalog -/

namespace Catalog

theorem mem_insertYear {year other : Int} {years : List Int} :
    other ∈ insertYear year years ↔ other = year ∨ other ∈ years := by
  induction years with
  | nil => simp [insertYear]
  | cons y rest ih =>
      rw [insertYear]
      by_cases hless : year < y
      · rw [if_pos hless, List.mem_cons]
      · rw [if_neg hless]
        by_cases hsame : year = y
        · rw [if_pos hsame, hsame]
          simp
        · rw [if_neg hsame, List.mem_cons, ih, List.mem_cons]
          exact or_left_comm

/-- Years that ascend still do when one is put among them. -/
theorem sorted_insertYear (year : Int) {years : List Int} (h : years.Pairwise (· < ·)) :
    (insertYear year years).Pairwise (· < ·) := by
  induction years with
  | nil => exact List.pairwise_singleton _ _
  | cons y rest ih =>
      obtain ⟨hy, hrest⟩ := List.pairwise_cons.mp h
      rw [insertYear]
      by_cases hless : year < y
      · rw [if_pos hless, List.pairwise_cons]
        refine ⟨?_, h⟩
        intro other hother
        rcases List.mem_cons.mp hother with rfl | hmem
        · exact hless
        · exact Int.lt_trans hless (hy other hmem)
      · rw [if_neg hless]
        by_cases hsame : year = y
        · rw [if_pos hsame]
          exact h
        · rw [if_neg hsame, List.pairwise_cons]
          refine ⟨?_, ih hrest⟩
          intro other hother
          rcases mem_insertYear.mp hother with rfl | hmem
          · omega
          · exact hy other hmem

/-- The years of a catalog ascend, so there is none twice. -/
theorem sorted_years (c : Catalog) : c.years.Pairwise (· < ·) := by
  have hfold : ∀ (courses : List Course) (years : List Int), years.Pairwise (· < ·) →
      (courses.foldl (fun years x => insertYear x.year years) years).Pairwise (· < ·) := by
    intro courses
    induction courses with
    | nil => intro years h; exact h
    | cons x rest ih => intro years h; exact ih _ (sorted_insertYear x.year h)
  exact hfold c.courses [] List.Pairwise.nil

theorem mem_years {c : Catalog} {x : Course} (hx : x ∈ c.courses) : x.year ∈ c.years := by
  have hfold : ∀ (courses : List Course) (years : List Int) (year : Int),
      (year ∈ years ∨ ∃ x ∈ courses, x.year = year) →
        year ∈ courses.foldl (fun years x => insertYear x.year years) years := by
    intro courses
    induction courses with
    | nil =>
        rintro years year (hmem | ⟨x, hx, -⟩)
        · exact hmem
        · exact nomatch hx
    | cons x rest ih =>
        rintro years year (hmem | ⟨x', hx', hyear⟩)
        · exact ih _ year (Or.inl (mem_insertYear.mpr (Or.inr hmem)))
        · rcases List.mem_cons.mp hx' with rfl | hrest
          · exact ih _ year (Or.inl (mem_insertYear.mpr (Or.inl hyear.symm)))
          · exact ih _ year (Or.inr ⟨x', hrest, hyear⟩)
  exact hfold c.courses [] x.year (Or.inr ⟨x, hx, rfl⟩)

/-- What belongs to one entry of a list comes up once when the list is gone through. -/
theorem flatMap_ite {α β : Type} [DecidableEq α] {a : α} {entries : List α}
    (hnodup : entries.Nodup) (hmem : a ∈ entries) (found : List β) :
    (entries.flatMap fun b => if a = b then found else []) = found := by
  induction entries with
  | nil => exact nomatch hmem
  | cons b rest ih =>
      obtain ⟨hb, hrest⟩ := List.nodup_cons.mp hnodup
      rw [List.flatMap_cons]
      by_cases hab : a = b
      · have hnone : (rest.flatMap fun b => if a = b then found else []) = [] := by
          rw [List.flatMap_eq_nil_iff]
          intro b' hb'
          rw [if_neg]
          rintro rfl
          exact hb (hab ▸ hb')
        rw [if_pos hab, hnone, List.append_nil]
      · rw [if_neg hab, List.nil_append]
        rcases List.mem_cons.mp hmem with heq | hin
        · exact absurd heq hab
        · exact ih hrest hin

/-- Courses that are gone through year by year are gone through once each, if every one of their
    years is. -/
theorem perm_byYear {β : Type} (f : Course → List β) {years : List Int} (hnodup : years.Nodup)
    {courses : List Course} (hyears : ∀ x ∈ courses, x.year ∈ years) :
    (years.flatMap fun year => (courses.filter fun x => x.year == year).flatMap f).Perm
      (courses.flatMap f) := by
  induction courses with
  | nil =>
      have hnil : (years.flatMap fun _ => ([] : List β)) = [] := by
        rw [List.flatMap_eq_nil_iff]
        exact fun _ _ => rfl
      exact List.Perm.of_eq hnil
  | cons x rest ih =>
      -- the elements of the first course come up in its year only
      have hsplit : ∀ year, ((x :: rest).filter fun x => x.year == year).flatMap f =
          (if x.year = year then f x else []) ++
            (rest.filter fun x => x.year == year).flatMap f := by
        intro year
        by_cases h : x.year = year
        · rw [List.filter_cons_of_pos (by simpa using h), List.flatMap_cons, if_pos h]
        · rw [List.filter_cons_of_neg (by simpa using h), if_neg h, List.nil_append]
      simp only [hsplit]
      refine (List.flatMap_append_perm years _ _).symm.trans ?_
      rw [flatMap_ite hnodup (hyears x List.mem_cons_self), List.flatMap_cons]
      exact (ih fun x hx => hyears x (List.mem_cons_of_mem _ hx)).append_left (f x)

/-- **Without filters the elements of a catalog are those of its courses**, each once. -/
theorem perm_elements (c : Catalog) :
    (c.elements []).Perm (c.courses.flatMap fun x => Course.elements x.year x) := by
  have hyear : ∀ year, c.elementsOf [] year =
      (c.courses.filter fun x => x.year == year).flatMap fun x => Course.elements x.year x := by
    intro year
    have hall : c.elementsOf [] year = (c.coursesOf year).flatMap (Course.elements year) := by
      rw [elementsOf, List.filter_eq_self]
      exact fun _ _ => rfl
    rw [hall, coursesOf, List.flatMap_def, List.flatMap_def]
    refine congrArg List.flatten (List.map_congr_left ?_)
    intro x hx
    rw [beq_iff_eq.mp (List.mem_filter.mp hx).2]
  have hnodup : c.years.Nodup := c.sorted_years.imp Int.ne_of_lt
  rw [elements, funext hyear]
  exact perm_byYear _ hnodup fun _ => mem_years

end Catalog

/-! ## Sections -/

theorem cohortSection_of_ne {sectionId : String} (h : sectionId ≠ "") (k : Cohort) :
    cohortSection sectionId k = sectionId ++ "-" ++ k.code := by
  rw [cohortSection, if_neg (fun hempty => h (String.isEmpty_iff.mp hempty))]

/-- Within one section the codes of cohorts tell their sections apart. -/
theorem cohortSection_inj {sectionId : String} {k k' : Cohort}
    (h : cohortSection sectionId k = cohortSection sectionId k') : k.code = k'.code := by
  by_cases hempty : sectionId = ""
  · rw [hempty] at h
    exact h
  · rw [cohortSection_of_ne hempty, cohortSection_of_ne hempty] at h
    exact (String.append_right_inj _).mp h

namespace Course

/-- The sections of the elements of a course. -/
def sections (x : Course) : List String := (elements x.year x).map Element.sectionId

theorem sections_of_undivided {x : Course} (h : x.cohorts = []) : x.sections = [x.sectionId] := by
  rw [sections, elements, h]
  rfl

theorem sections_of_divided {x : Course} (h : x.cohorts ≠ []) :
    x.sections = x.cohorts.map (cohortSection x.sectionId) := by
  rw [sections, elements, if_neg (fun hempty => h (List.isEmpty_iff.mp hempty)), List.map_map]
  rfl

/-- Each element of a course has a section of its own, if each cohort has a code of its own. -/
theorem nodup_sections {x : Course} (h : (x.cohorts.map Cohort.code).Nodup) :
    x.sections.Nodup := by
  by_cases hdivided : x.cohorts = []
  · rw [sections_of_undivided hdivided]
    exact List.nodup_singleton _
  · rw [sections_of_divided hdivided]
    refine List.Nodup.map_on ?_ h.of_map
    intro k hk k' hk' hsame
    exact List.inj_on_of_nodup_map h hk hk' (cohortSection_inj hsame)

/-- An element of one course has the section of an element of another: either the whole course has
    the section of a cohort, or two cohorts have the same, of which one is told apart into section
    and code at an earlier hyphen than the other, or not at all. -/
inductive Meets (x y : Course) : Prop where
  | whole {k : Cohort} (undivided : x.cohorts = []) (cohort : k ∈ y.cohorts)
      (same : x.sectionId = cohortSection y.sectionId k)
  | bare {k k' : Cohort} (cohort : k ∈ x.cohorts) (cohort' : k' ∈ y.cohorts)
      (empty : x.sectionId = "") (other : y.sectionId ≠ "")
      (code : k.code = y.sectionId ++ "-" ++ k'.code)
  | moved {k k' : Cohort} {part : String} (cohort : k ∈ x.cohorts) (cohort' : k' ∈ y.cohorts)
      (other : x.sectionId ≠ "") (longer : y.sectionId = x.sectionId ++ "-" ++ part)
      (code : k.code = part ++ "-" ++ k'.code)

/-- No course meets itself. -/
theorem Meets.ne {x y : Course} (h : x.Meets y) : x ≠ y := by
  rintro rfl
  cases h with
  | whole undivided cohort same =>
      rw [undivided] at cohort
      exact nomatch cohort
  | bare cohort cohort' empty other code => exact other empty
  | moved cohort cohort' other longer code =>
      have hlength := congrArg (fun text => text.toList.length) longer
      simp at hlength

theorem mem_sections {x : Course} {sectionId : String} :
    sectionId ∈ x.sections ↔ (x.cohorts = [] ∧ sectionId = x.sectionId) ∨
      ∃ k ∈ x.cohorts, sectionId = cohortSection x.sectionId k := by
  by_cases h : x.cohorts = []
  · rw [sections_of_undivided h]
    simp [h]
  · rw [sections_of_divided h, List.mem_map]
    simp [h, eq_comm]

/-- Courses that meet have the section of an element in common. -/
theorem Meets.exists_section {x y : Course} (h : x.Meets y) :
    ∃ sectionId, sectionId ∈ x.sections ∧ sectionId ∈ y.sections := by
  cases h with
  | @whole k undivided cohort same =>
      exact ⟨x.sectionId, mem_sections.mpr (Or.inl ⟨undivided, rfl⟩),
        mem_sections.mpr (Or.inr ⟨k, cohort, same⟩)⟩
  | @bare k k' cohort cohort' empty other code =>
      refine ⟨k.code, mem_sections.mpr (Or.inr ⟨k, cohort, ?_⟩),
        mem_sections.mpr (Or.inr ⟨k', cohort', ?_⟩)⟩
      · rw [empty]
        rfl
      · rw [cohortSection_of_ne other, code]
  | @moved k k' part cohort cohort' other longer code =>
      refine ⟨cohortSection x.sectionId k, mem_sections.mpr (Or.inr ⟨k, cohort, rfl⟩),
        mem_sections.mpr (Or.inr ⟨k', cohort', ?_⟩)⟩
      have hother : y.sectionId ≠ "" := by
        rw [longer]
        intro hempty
        simp at hempty
      rw [cohortSection_of_ne other, cohortSection_of_ne hother, longer, code]
      simp only [String.append_assoc]

/-- Two courses meet if a cohort of one has the section of a cohort of the other. -/
theorem meets_of_cohorts {x y : Course} (hne : x.sectionId ≠ y.sectionId) {k k' : Cohort}
    (hk : k ∈ x.cohorts) (hk' : k' ∈ y.cohorts)
    (hsame : cohortSection x.sectionId k = cohortSection y.sectionId k') :
    x.Meets y ∨ y.Meets x := by
  by_cases hx : x.sectionId = ""
  · have hy : y.sectionId ≠ "" := fun hy => hne (hx.trans hy.symm)
    rw [hx, cohortSection_of_ne hy] at hsame
    exact Or.inl (.bare hk hk' hx hy hsame)
  · by_cases hy : y.sectionId = ""
    · rw [hy, cohortSection_of_ne hx] at hsame
      exact Or.inr (.bare hk' hk hy hx hsame.symm)
    · -- both sections are glued, so they are the same up to a moved hyphen
      rw [cohortSection_of_ne hx, cohortSection_of_ne hy] at hsame
      rcases (joined_eq_iff rfl).mp hsame with
        ⟨hsection, -⟩ | ⟨part, hlonger, hcode⟩ | ⟨part, hlonger, hcode⟩
      · exact absurd hsection hne
      · exact Or.inl (.moved hk hk' hx hlonger hcode)
      · exact Or.inr (.moved hk' hk hy hlonger hcode)

/-- **Two courses have the section of an element in common just if they meet.** -/
theorem exists_section_iff {x y : Course} (hne : x.sectionId ≠ y.sectionId) :
    (∃ sectionId, sectionId ∈ x.sections ∧ sectionId ∈ y.sections) ↔
      x.Meets y ∨ y.Meets x := by
  constructor
  · rintro ⟨sectionId, hx, hy⟩
    rcases mem_sections.mp hx with ⟨hwhole, rfl⟩ | ⟨k, hk, rfl⟩
    · rcases mem_sections.mp hy with ⟨-, hsame⟩ | ⟨k', hk', hsame⟩
      · exact absurd hsame hne
      · exact Or.inl (.whole hwhole hk' hsame)
    · rcases mem_sections.mp hy with ⟨hwhole', hsame⟩ | ⟨k', hk', hsame⟩
      · exact Or.inr (.whole hwhole' hk hsame.symm)
      · exact meets_of_cohorts hne hk hk' hsame
  · rintro (hmeet | hmeet)
    · exact hmeet.exists_section
    · obtain ⟨sectionId, hy, hx⟩ := hmeet.exists_section
      exact ⟨sectionId, hx, hy⟩

/-- Courses do not meet where sections and codes of cohorts have no hyphen in them that could be
    taken for the one between them, and no divided course is without a section. -/
theorem not_meets_of_hyphens {x y : Course} (hwhole : x.cohorts = [] → '-' ∉ x.sectionId.toList)
    (hcohorts : ∀ k ∈ x.cohorts, '-' ∉ k.code.toList)
    (hempty : y.cohorts ≠ [] → y.sectionId ≠ "") : ¬ x.Meets y := by
  have hglued : ∀ front back : String, '-' ∈ (front ++ "-" ++ back).toList := by
    intro front back
    rw [toList_joined (c := '-') rfl]
    exact List.mem_append_right _ List.mem_cons_self
  intro h
  cases h with
  | @whole k undivided cohort same =>
      have hsection := hempty (List.ne_nil_of_mem cohort)
      refine hwhole undivided ?_
      rw [same, cohortSection_of_ne hsection]
      exact hglued _ _
  | @bare k k' cohort cohort' empty other code =>
      refine hcohorts k cohort ?_
      rw [code]
      exact hglued _ _
  | @moved k k' part cohort cohort' other longer code =>
      refine hcohorts k cohort ?_
      rw [code]
      exact hglued _ _

/-! ## Keys -/

/-- The keys of the elements of a course are made of its code and their sections. -/
theorem keys_elements (x : Course) :
    (elements x.year x).map (fun e => e.row.key) = x.sections.map (Key.of x.code) := by
  have hcourse : ∀ e ∈ elements x.year x, e.course = x := by
    intro e he
    rw [elements] at he
    split at he
    · rw [List.mem_singleton.mp he]
    · obtain ⟨k, -, rfl⟩ := List.mem_map.mp he
      rfl
  rw [sections, List.map_map]
  refine List.map_congr_left ?_
  intro e he
  rw [e.key_row, hcourse e he]
  rfl

/-- The elements of one course have keys of their own. -/
theorem nodup_keys {x : Course} (hcolon : ':' ∉ x.code.toList)
    (hcohorts : (x.cohorts.map Cohort.code).Nodup) :
    (x.sections.map (Key.of x.code)).Nodup := by
  refine (nodup_sections hcohorts).map ?_
  intro sectionId sectionId' hsame
  exact ((Key.of_inj hcolon hcolon).mp hsame).2

/-- The elements of two courses have no key in common just if their codes differ or they do not
    meet. -/
theorem disjoint_keys_iff {x y : Course} (hx : ':' ∉ x.code.toList) (hy : ':' ∉ y.code.toList)
    (hne : ¬ (x.code = y.code ∧ x.sectionId = y.sectionId)) :
    List.Disjoint (x.sections.map (Key.of x.code)) (y.sections.map (Key.of y.code)) ↔
      (x.code = y.code → ¬ (x.Meets y ∨ y.Meets x)) := by
  constructor
  · intro hdisjoint hcode hmeet
    have hsection : x.sectionId ≠ y.sectionId := fun hsection => hne ⟨hcode, hsection⟩
    obtain ⟨sectionId, hinx, hiny⟩ := (exists_section_iff hsection).mpr hmeet
    refine hdisjoint (List.mem_map_of_mem hinx) ?_
    rw [hcode]
    exact List.mem_map_of_mem hiny
  · intro happart key hinx hiny
    obtain ⟨sectionId, hinx', rfl⟩ := List.mem_map.mp hinx
    obtain ⟨sectionId', hiny', hkey⟩ := List.mem_map.mp hiny
    obtain ⟨hcode, rfl⟩ := (Key.of_inj hy hx).mp hkey
    have hsection : x.sectionId ≠ y.sectionId := fun hsection => hne ⟨hcode.symm, hsection⟩
    exact happart hcode.symm ((exists_section_iff hsection).mp ⟨sectionId', hinx', hiny'⟩)

end Course

namespace Catalog

theorem nodup_keys_courses_iff {courses : List Course}
    (hpairs : (courses.map fun x => (x.code, x.sectionId)).Nodup)
    (hcolon : ∀ x ∈ courses, ':' ∉ x.code.toList)
    (hcohorts : ∀ x ∈ courses, (x.cohorts.map Cohort.code).Nodup) :
    (courses.flatMap fun x => x.sections.map (Key.of x.code)).Nodup ↔
      ∀ x ∈ courses, ∀ y ∈ courses, x.code = y.code → ¬ x.Meets y := by
  have hpair : ∀ x ∈ courses, ∀ y ∈ courses, x ≠ y →
      ¬ (x.code = y.code ∧ x.sectionId = y.sectionId) := by
    rintro x hx y hy hne ⟨hcode, hsection⟩
    exact hne (List.inj_on_of_nodup_map hpairs hx hy (Prod.ext hcode hsection))
  rw [List.nodup_flatMap]
  constructor
  · rintro ⟨-, hdisjoint⟩ x hx y hy hcode hmeet
    have hsymm : Std.Symm
        (Function.onFun List.Disjoint fun x : Course => x.sections.map (Key.of x.code)) :=
      ⟨fun _ _ h => List.disjoint_symm h⟩
    have happart := hdisjoint.forall hx hy hmeet.ne
    exact (Course.disjoint_keys_iff (hcolon x hx) (hcolon y hy) (hpair x hx y hy hmeet.ne)).mp
      happart hcode (Or.inl hmeet)
  · intro happart
    refine ⟨fun x hx => Course.nodup_keys (hcolon x hx) (hcohorts x hx), ?_⟩
    refine hpairs.of_map.pairwise_of_forall_ne ?_
    intro x hx y hy hne
    refine (Course.disjoint_keys_iff (hcolon x hx) (hcolon y hy) (hpair x hx y hy hne)).mpr ?_
    rintro hcode (hmeet | hmeet)
    · exact happart x hx y hy hcode hmeet
    · exact happart y hy x hx hcode.symm hmeet

/-- The marked rows of all elements have the keys of the elements. -/
theorem keys_markedRows (c : Catalog) (op : Operation) :
    (c.markedRows [] op).map Row.key = (c.rows []).map Row.key := by
  rw [markedRows, rows, List.map_map, List.map_map]
  exact List.map_congr_left fun e _ => e.row.key_mark op

/-- **Which elements have keys of their own.**  Let no two courses of a catalog have the same code
    and section, no code a colon in it, and no course two cohorts of one code.  Then the rows of all
    elements have keys of their own just if no two courses of one code meet, and just then a list by
    key keeps all rows of an export.  So it is where no section of an undivided course and no code
    of a cohort has a hyphen in it, and no divided course is without a section. -/
theorem nodup_keys_iff {c : Catalog}
    (hpairs : (c.courses.map fun x => (x.code, x.sectionId)).Nodup)
    (hcolon : ∀ x ∈ c.courses, ':' ∉ x.code.toList)
    (hcohorts : ∀ x ∈ c.courses, (x.cohorts.map Cohort.code).Nodup) :
    (((c.rows []).map Row.key).Nodup ↔
      ∀ x ∈ c.courses, ∀ y ∈ c.courses, x.code = y.code → ¬ x.Meets y) ∧
    (∀ op, (Keyed.ofRows (c.markedRows [] op)).rows.Perm (c.markedRows [] op) ↔
      ((c.rows []).map Row.key).Nodup) ∧
    ((∀ x ∈ c.courses, x.cohorts = [] → '-' ∉ x.sectionId.toList) →
      (∀ x ∈ c.courses, ∀ k ∈ x.cohorts, '-' ∉ k.code.toList) →
      (∀ x ∈ c.courses, x.cohorts ≠ [] → x.sectionId ≠ "") →
      ((c.rows []).map Row.key).Nodup) := by
  have hkeys : ((c.rows []).map Row.key).Perm
      (c.courses.flatMap fun x => x.sections.map (Key.of x.code)) := by
    have hperm := c.perm_elements.map fun e => e.row.key
    rw [List.map_flatMap] at hperm
    rw [rows, List.map_map]
    simp only [Course.keys_elements] at hperm
    exact hperm
  have hnodup := hkeys.nodup_iff.trans (nodup_keys_courses_iff hpairs hcolon hcohorts)
  refine ⟨hnodup, ?_, ?_⟩
  · intro op
    rw [Keyed.perm_ofRows_iff, keys_markedRows]
  · intro hwhole hcodes hempty
    refine hnodup.mpr ?_
    intro x hx y hy _
    exact Course.not_meets_of_hyphens (hwhole x hx) (hcodes x hx) (hempty y hy)

/-- Three courses of one code, two of them divided, whose five elements have keys of their own. -/
theorem nodup_keys_two_divided :
    let c : Catalog := ⟨[
      { code := "MATH-101", sectionId := "A", cohorts := [{ code := "1" }, { code := "2" }] },
      { code := "MATH-101", sectionId := "A-3", cohorts := [{ code := "1" }, { code := "2" }] },
      { code := "MATH-101", sectionId := "3" }]⟩
    ((c.rows []).map Row.key).Nodup := by
  intro c
  have hpairs : (c.courses.map fun x => (x.code, x.sectionId)).Nodup := by decide
  have hcolon : ∀ x ∈ c.courses, ':' ∉ x.code.toList := by decide
  have hcohorts : ∀ x ∈ c.courses, (x.cohorts.map Cohort.code).Nodup := by decide
  exact (nodup_keys_iff hpairs hcolon hcohorts).2.2 (by decide) (by decide) (by decide)

/-- Section A-B of a course and cohort B of its section A have one key, although no code and no
    section has a colon in it, so that of the two rows that are exported a comparison of files sees
    one. -/
theorem glued_section_shares_key :
    let c : Catalog := ⟨[{ code := "C", sectionId := "A-B" },
      { code := "C", sectionId := "A", cohorts := [{ code := "B" }] }]⟩
    let rows := c.markedRows [] .update
    (c.courses.map fun x => (x.code, x.sectionId)).Nodup ∧
    (∀ x ∈ c.courses, ':' ∉ x.code.toList ∧ ':' ∉ x.sectionId.toList) ∧
    (∀ x ∈ c.courses, (x.cohorts.map Cohort.code).Nodup ∧
      ∀ k ∈ x.cohorts, k.code ≠ "" ∧ ':' ∉ k.code.toList) ∧
    ¬ ((c.rows []).map Row.key).Nodup ∧ rows.length = 2 ∧
    (changes Keyed.empty (Keyed.ofRows rows)).map Change.told = rows.drop 1 := by
  decide +kernel

end Catalog

end CourseFeed
