import CourseFeed.Proofs.ElementKeys
import CourseFeed.Proofs.Rearranged
import Mathlib.Data.Int.Order.Basic

/-!
# The order of exported elements

Going through a catalog year by year, in ascending order, is going through its courses once, sorted
by year: the courses of one year are found in the order of the catalog each time.

* **`Catalog.flatMap_coursesOf`** — the courses of all years, year by year, are the sorted courses.
* **`Catalog.elements_eq`** — so the selected elements are those of the sorted courses that all
  filters accept.
* **`Catalog.exportTo_elements`** — an export writes their rows in this order: all of them when it
  succeeds, and then it gives their number and has counted so many; else some from the start.
-/

namespace CourseFeed.Catalog

open CourseFeed.Feed

/-! ## Elements -/

/-- The courses found year by year are rearranged courses of the catalog. -/
theorem rearranged_flatMap_coursesOf (c : Catalog) :
    Rearranged Course.year (c.years.flatMap c.coursesOf) c.courses := by
  intro k
  have hyear : ∀ year, ((c.coursesOf year).filter fun x => x.year = k) =
      if k = year then c.courses.filter fun x => x.year = k else [] := by
    intro year
    rw [coursesOf, List.filter_filter]
    by_cases h : k = year
    · rw [if_pos h]
      refine List.filter_congr ?_
      intro x _
      simp [h]
    · rw [if_neg h, List.filter_eq_nil_iff]
      intro x _ hx
      simp only [Bool.and_eq_true, decide_eq_true_eq, beq_iff_eq] at hx
      exact h (hx.1.symm.trans hx.2)
  rw [List.filter_flatMap, funext hyear]
  by_cases hk : k ∈ c.years
  · exact flatMap_ite (c.sorted_years.imp Int.ne_of_lt) hk _
  · -- a year that is not listed has no courses
    have hnone : (c.courses.filter fun x => x.year = k) = [] := by
      rw [List.filter_eq_nil_iff]
      intro x hx hyear
      exact hk (by rw [← of_decide_eq_true hyear]; exact mem_years hx)
    rw [hnone, List.flatMap_eq_nil_iff]
    intro year _
    exact ite_self []

/-- **The courses of all years, year by year, are the courses sorted by year**, in the order of the
    catalog within a year. -/
theorem flatMap_coursesOf (c : Catalog) :
    c.years.flatMap c.coursesOf = c.courses.mergeSort fun x y => x.year ≤ y.year := by
  refine c.rearranged_flatMap_coursesOf.eq_mergeSort ?_
  rw [List.pairwise_flatMap]
  constructor
  · intro year _
    refine List.pairwise_of_forall_mem_list ?_
    intro x hx y hy
    rw [beq_iff_eq.mp (List.mem_filter.mp hx).2, beq_iff_eq.mp (List.mem_filter.mp hy).2]
  · refine c.sorted_years.imp ?_
    intro year year' hless x hx y hy
    rw [beq_iff_eq.mp (List.mem_filter.mp hx).2, beq_iff_eq.mp (List.mem_filter.mp hy).2]
    exact Int.le_of_lt hless

/-- **The selected elements are those of the sorted courses that all filters accept.** -/
theorem elements_eq (c : Catalog) (filters : List (Filter Element)) :
    c.elements filters =
      ((c.courses.mergeSort fun x y => x.year ≤ y.year).flatMap fun x =>
        Course.elements x.year x).filter (acceptedByAll filters) := by
  rw [← flatMap_coursesOf, List.flatMap_assoc, List.filter_flatMap, elements]
  refine congrArg (List.flatMap · c.years) (funext ?_)
  intro year
  rw [elementsOf, List.flatMap_def, List.flatMap_def]
  refine congrArg (fun found => (List.flatten found).filter _) (List.map_congr_left ?_)
  intro x hx
  rw [beq_iff_eq.mp (List.mem_filter.mp hx).2]

/-! ## Exports -/

/-- What an export writes are rows of the selected elements from the start.  If it succeeds, it has
    written and counted all of them, and gives their number. -/
theorem exportTo_prefix {ω : Type} {deliver : Deliver ω} {note : ω → JournalEntry → ω}
    {ready : ω → Prop} {held : ω → List UInt8} (h : Appends deliver ready held)
    (hnote : ∀ world entry, ready world →
      ready (note world entry) ∧ held (note world entry) = held world)
    {world world' : ω} {w w' : Writer} {c : Catalog} {filters : List (Filter Element)}
    {op : Operation} {result : Except Fault Nat} (hready : ready world)
    (hrun : exportTo deliver note world w c filters op = (world', w', result)) :
    held world' ++ w'.buffer.pending <+:
      held world ++ w.buffer.pending ++ (c.markedRows filters op).flatMap rowBytes ∧
    ∀ n, result = .ok n → n = (c.elements filters).length ∧ w'.written = w.written + n ∧
      held world' ++ w'.buffer.pending =
        held world ++ w.buffer.pending ++ (c.markedRows filters op).flatMap rowBytes := by
  obtain ⟨hread, hheld⟩ := foldl_note hnote (c.readingEntries filters 0 c.years) world hready
  have hmarked : ((c.rows filters).map fun r => r.mark op) = c.markedRows filters op :=
    List.map_map
  obtain ⟨middle, v, fault, hwrite⟩ : ∃ middle v fault,
      Writer.writeAll deliver op ((c.readingEntries filters 0 c.years).foldl note world) w
        (c.rows filters) = (middle, v, fault) := ⟨_, _, _, rfl⟩
  have hrows := hwrite
  rw [Writer.writeAll_eq_writeRows, hmarked] at hrows
  obtain ⟨hmiddle, hstart, hall⟩ := Writer.writeRows_prefix h hread hrows
  rw [hheld] at hstart hall
  simp only [exportTo, hwrite] at hrun
  cases fault with
  | some f =>
      obtain ⟨rfl, rfl, rfl⟩ := hrun
      refine ⟨hstart, ?_⟩
      intro n hok
      cases hok
  | none =>
      obtain ⟨rfl, rfl, rfl⟩ := hrun
      rw [(hnote middle _ hmiddle).2]
      refine ⟨hstart, ?_⟩
      intro n hok
      obtain ⟨hcount, hbytes⟩ := hall rfl
      have hn : n = (c.elements filters).length := by
        rw [← Except.ok.inj hok, rows, List.length_map]
      refine ⟨hn, ?_, hbytes⟩
      rw [hcount, hn, markedRows, List.length_map]

/-- **All selected elements are exported, once and in order.**  They are the courses sorted by year,
    in the order of the catalog within a year, each with its cohorts in their place if it has any,
    as far as all filters accept them.  Where deliveries may fail, an export writes their marked
    rows from the start, and when it succeeds all of them: then it gives their number, by which the
    count of rows has gone up.  Where none fails, it succeeds. -/
theorem exportTo_elements {ω : Type} {deliver : Deliver ω} {note : ω → JournalEntry → ω}
    {ready : ω → Prop} {held : ω → List UInt8} (h : Appends deliver ready held)
    (hnote : ∀ world entry, ready world →
      ready (note world entry) ∧ held (note world entry) = held world)
    (world : ω) (hready : ready world) (w : Writer) (c : Catalog) (filters : List (Filter Element))
    (op : Operation) :
    let expand : Course → List Element := fun x =>
      if x.cohorts = [] then [⟨x.year, x, none⟩]
      else x.cohorts.map fun k => ⟨x.year, x, some k⟩
    let selected : List Element :=
      ((c.courses.mergeSort fun x y => x.year ≤ y.year).flatMap expand).filter fun e =>
        filters.all fun f => f.accepts e
    let bytes := (selected.map fun e => e.row.mark op).flatMap rowBytes
    c.elements filters = selected ∧
    (∀ world' w' result, exportTo deliver note world w c filters op = (world', w', result) →
      held world' ++ w'.buffer.pending <+: held world ++ w.buffer.pending ++ bytes ∧
      ∀ n, result = .ok n → n = selected.length ∧ w'.written = w.written + n ∧
        held world' ++ w'.buffer.pending = held world ++ w.buffer.pending ++ bytes) ∧
    (Takes deliver ready held →
      ∃ world' w',
        exportTo deliver note world w c filters op = (world', w', .ok selected.length)) := by
  intro expand selected bytes
  have hexpand : (fun x => Course.elements x.year x) = expand := by
    funext x
    simp only [Course.elements, List.isEmpty_iff, expand]
  have hselected : c.elements filters = selected := by
    rw [elements_eq, hexpand]
    rfl
  have hbytes : (c.markedRows filters op).flatMap rowBytes = bytes := by
    rw [markedRows, hselected]
  refine ⟨hselected, ?_, ?_⟩
  · intro world' w' result hrun
    have hspec := exportTo_prefix h hnote hready hrun
    rw [hbytes, hselected] at hspec
    exact hspec
  · intro htakes
    obtain ⟨world', w', hrun, -⟩ := exportTo_spec htakes hnote world w c filters op hready
    rw [hselected] at hrun
    exact ⟨world', w', hrun⟩

/-- Courses of three years, one before the common era, out of order and one of them divided, with a
    filter on the year, written to the memory. -/
theorem exportTo_elements_in_memory :
    let c : Catalog := ⟨[{ code := "B", year := 2026 }, { code := "A", year := -1 },
      { code := "C", year := 2026, cohorts := [{ code := "1" }, { code := "2" }] },
      { code := "D", year := 2025 }]⟩
    let year : Filter Element :=
      ⟨⟨"year != 2025", .ofInt 2025, .notEquals, some .ne, some "year", false⟩,
        fun e => .ofInt e.year⟩
    Appends collect (fun _ => True) id ∧
    (∀ (world : List UInt8) (_ : JournalEntry), True → True ∧ id world = id world) ∧
    (c.elements [year]).map (fun e => (e.year, e.course.code, e.cohort.map Cohort.code)) =
      [(-1, "A", none), (2026, "B", none), (2026, "C", some "1"), (2026, "C", some "2")] ∧
    ∃ world' w', c.exportTo collect (fun world _ => world) [] (.start "feed.tsv") [year] .update =
      (world', w', .ok 4) ∧ w'.written = 4 := by
  intro c year
  have hnote : ∀ (world : List UInt8) (_ : JournalEntry), True → True ∧ id world = id world :=
    fun _ _ _ => ⟨trivial, rfl⟩
  have htakes : Takes collect (fun _ => True) id :=
    fun world bytes _ => ⟨world ++ bytes, rfl, trivial, rfl⟩
  have happends : Appends collect (fun _ => True) id := htakes.appends
  have hcodes : (c.elements [year]).map
      (fun e => (e.year, e.course.code, e.cohort.map Cohort.code)) =
      [(-1, "A", none), (2026, "B", none), (2026, "C", some "1"), (2026, "C", some "2")] := by
    decide +kernel
  obtain ⟨hselected, hwritten, hsucceeds⟩ :=
    exportTo_elements happends hnote [] trivial (.start "feed.tsv") c [year] .update
  obtain ⟨world', w', hrun⟩ := hsucceeds htakes
  obtain ⟨-, hcount⟩ := hwritten world' w' _ hrun
  have hfour : (c.elements [year]).length = 4 := by
    have hlength := congrArg List.length hcodes
    rw [List.length_map] at hlength
    exact hlength
  rw [← hselected, hfour] at hrun hcount
  exact ⟨happends, hnote, hcodes, world', w', hrun, (hcount 4 rfl).2.1⟩

end CourseFeed.Catalog
