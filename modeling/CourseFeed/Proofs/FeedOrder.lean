import CourseFeed.Proofs.ChangeOrder
import CourseFeed.Proofs.FeedLines
import CourseFeed.Proofs.MemoryPass
import CourseFeed.Proofs.Rearranged

/-!
# The order of rows in feeds

What is found under a key depends on the rows with this key alone. So feeds whose rows are
rearranged, with rows of the same key in the same order, are found to hold the same, and the
changes between them are the same up to their order.

* **`changes_perm`** — the changes are determined by look-up, up to their order.
* **`perm_consult`** — an observer whose answers depend on the changes alone gives the same answers
  about permuted changes, in another order.
* **`splitOn_rowBytes`** — the lines of the bytes of rows are those of each row, and so they are
  permuted as the rows are.
* **`diffRows_rearranged`** — a pass over rearranged feeds has the same summary, and each sink gets
  the same lines in another order.
-/

namespace CourseFeed

open CourseFeed.Feed CourseFeed.Text

/-! ## Changes -/

/-- Rearranged rows have the same under each key. -/
theorem Rearranged.get?_ofRows {rows rows' : List Row} (h : Rearranged Row.key rows rows')
    (key : Key) : (Keyed.ofRows rows).get? key = (Keyed.ofRows rows').get? key := by
  rw [Keyed.get?_ofRows, Keyed.get?_ofRows, h key]

/-- **Changes are determined by look-up, up to their order.** -/
theorem changes_perm {old old' new new' : Keyed} (hold : old.Proper) (hold' : old'.Proper)
    (hnew : new.Proper) (hnew' : new'.Proper) (hget : ∀ key, old.get? key = old'.get? key)
    (hget' : ∀ key, new.get? key = new'.get? key) :
    (changes old new).Perm (changes old' new') := by
  rw [List.perm_ext_iff_of_nodup (nodup_changes hold hnew) (nodup_changes hold' hnew')]
  intro c
  rw [mem_changes_iff hold hnew, mem_changes_iff hold' hnew', c.between_iff, c.between_iff,
    hget, hget']

/-! ## Calls -/

/-- The calls of an observer whose answers depend on the changes alone are permuted as these. -/
theorem perm_consult {σ : Type} {observer : Observer σ} {options : DiffOptions}
    {answer : Change → Flow} (hanswer : ∀ s c, (observer s c options).2 = answer c)
    (hgo : ∀ c, answer c ≠ .abort) {cs cs' : List Change} (h : cs.Perm cs') (s s' : σ) :
    (consult observer options s cs).2.Perm (consult observer options s' cs').2 := by
  rw [consult_of_answers hanswer hgo, consult_of_answers hanswer hgo]
  exact h.map _

/-! ## Lines -/

/-- The bytes of a row are a text and a line feed. -/
theorem rowBytes_eq_concat (r : Row) : ∃ line, rowBytes r = line ++ [0x0A] :=
  ⟨_, encodeUtf8_append _ "\n"⟩

/-- The lines of the bytes of rows are those of each row, and an empty one at the end. -/
theorem splitOn_rowBytes (rows : List Row) :
    (rows.flatMap rowBytes).splitOn 0x0A =
      rows.flatMap (fun r => ((rowBytes r).splitOn 0x0A).dropLast) ++ [[]] := by
  induction rows with
  | nil => rfl
  | cons r rest ih =>
      obtain ⟨line, hline⟩ := rowBytes_eq_concat r
      have hlast : (rowBytes r).splitOn 0x0A = line.splitOn 0x0A ++ [[]] := by
        rw [hline, List.splitOn_append_cons_self]
        rfl
      rw [List.flatMap_cons, List.flatMap_cons, hlast, List.dropLast_concat, hline,
        List.append_assoc, List.singleton_append, List.splitOn_append_cons_self, ih,
        List.append_assoc]

/-- Permuted rows have permuted lines. -/
theorem perm_splitOn_rowBytes {rows rows' : List Row} (h : rows.Perm rows') :
    ((rows.flatMap rowBytes).splitOn 0x0A).Perm ((rows'.flatMap rowBytes).splitOn 0x0A) := by
  rw [splitOn_rowBytes, splitOn_rowBytes]
  exact (h.flatMap_right _).append_right _

/-! ## Whole passes -/

/-- **The order of rows in feeds does not matter to what is reported.**  Where the rows of two feeds
    are rearranged and the answers of the observer depend on the changes alone, the changes are
    permuted, and over sinks that take everything two passes come to their end with the same
    summary, and with the same rows in each sink, up to their order. -/
theorem diffRows_rearranged {ω σ : Type} {v : View ω σ} {stage : Stage ω} {options : DiffOptions}
    {observer : Observer σ} (hstage : v.Faithful stage options observer) {answer : Change → Flow}
    (hanswer : ∀ s c, (observer s c options).2 = answer c) (hgo : ∀ c, answer c ≠ .abort)
    {olds olds' news news' : List Row} (holds : Rearranged Row.key olds olds')
    (hnews : Rearranged Row.key news news') (sinks : DiffSinks)
    (htakes : ∀ kind, (sinks.get kind).isSome → v.takes kind) (world world' : ω)
    (hready : v.ready world) (hready' : v.ready world')
    (hempty : ∀ kind, v.held world kind = []) (hempty' : ∀ kind, v.held world' kind = []) :
    let old := Keyed.ofRows olds
    let new := Keyed.ofRows news
    let old' := Keyed.ofRows olds'
    let new' := Keyed.ofRows news'
    (changes old new).Perm (changes old' new') ∧
    ∃ p p' done done',
      diffRows stage options old new world (.opened sinks) = (p, none) ∧
      p.outputs.finish stage p.world = (done, none) ∧
      diffRows stage options old' new' world' (.opened sinks) = (p', none) ∧
      p'.outputs.finish stage p'.world = (done', none) ∧
      p.summary = p'.summary ∧
      ∀ kind,
        (∃ rows rows' : List Row, rows.Perm rows' ∧
          v.held done kind = rows.flatMap rowBytes ∧
          v.held done' kind = rows'.flatMap rowBytes) ∧
        ((v.held done kind).splitOn 0x0A).Perm ((v.held done' kind).splitOn 0x0A) := by
  intro old new old' new'
  have hchanges : (changes old new).Perm (changes old' new') :=
    changes_perm (Keyed.proper_ofRows _) (Keyed.proper_ofRows _) (Keyed.proper_ofRows _)
      (Keyed.proper_ofRows _) holds.get?_ofRows hnews.get?_ofRows
  have hcalls := perm_consult hanswer hgo hchanges (v.state world) (v.state world')
  obtain ⟨p, done, hrun, hfinish, -, -, hsum, hheld⟩ :=
    hstage.pass_spec old new world sinks hready htakes hempty
  obtain ⟨p', done', hrun', hfinish', -, -, hsum', hheld'⟩ :=
    hstage.pass_spec old' new' world' sinks hready' htakes hempty'
  refine ⟨hchanges, p, p', done, done', hrun, hfinish, hrun', hfinish', ?_, ?_⟩
  · rw [hsum, hsum']
    exact (DiffSummary.accounts_zero.foldl_tally _).eq_of_perm
      (DiffSummary.accounts_zero.foldl_tally _) (hcalls.append_left [])
  · intro kind
    have hrows : ∃ rows rows' : List Row, rows.Perm rows' ∧
        v.held done kind = rows.flatMap rowBytes ∧
        v.held done' kind = rows'.flatMap rowBytes := by
      rw [hheld, hheld']
      by_cases hsink : (sinks.get kind).isSome = true
      · refine ⟨_, _, (hcalls.filter (Consultation.tells kind)).map Consultation.row, ?_, ?_⟩
        · rw [if_pos hsink, linesTo_eq_flatMap]
        · rw [if_pos hsink, linesTo_eq_flatMap]
      · exact ⟨[], [], List.Perm.refl _, if_neg hsink, if_neg hsink⟩
    refine ⟨hrows, ?_⟩
    obtain ⟨rows, rows', hperm, hrows, hrows'⟩ := hrows
    rw [hrows, hrows']
    exact perm_splitOn_rowBytes hperm

/-- A row that stands twice, first behind and then before one of another section, told to an
    observer that skips what is gone. -/
theorem diffRows_rearranged_twice :
    let olds := [Row.about "B" "1", Row.about "A" "1", Row.about "A" "2"]
    let olds' := [Row.about "A" "1", Row.about "B" "1", Row.about "A" "2"]
    let news := [Row.about "C" "1", Row.about "D" "1"]
    let news' := [Row.about "D" "1", Row.about "C" "1"]
    let observer : Observer Nat :=
      fun n c _ => (n + 1, if c.kind = .delete then .skip else .proceed)
    let stage := memoryStage ⟨true⟩ observer
    Rearranged Row.key olds olds' ∧ Rearranged Row.key news news' ∧
      ∃ p p', diffRows stage ⟨true⟩ (.ofRows olds) (.ofRows news) (0, .empty [])
          (.opened ⟨some "create", none, none⟩) = (p, none) ∧
        diffRows stage ⟨true⟩ (.ofRows olds') (.ofRows news') (0, .empty [])
          (.opened ⟨some "create", none, none⟩) = (p', none) ∧
        p.summary = p'.summary := by
  intro olds olds' news news' observer stage
  have hempty : ∀ kind, (Shelf.empty []).get kind = [] := by
    intro kind
    cases kind <;> rfl
  have holds : Rearranged Row.key olds olds' := Rearranged.exchange [] _ (by decide)
  have hnews : Rearranged Row.key news news' := Rearranged.exchange [] [] (by decide)
  have hanswer : ∀ (s : Nat) (c : Change), (observer s c ⟨true⟩).2 =
      if c.kind = .delete then .skip else .proceed := fun _ _ => rfl
  have hgo : ∀ c : Change, (if c.kind = .delete then Flow.skip else .proceed) ≠ .abort := by
    intro c
    cases c <;> simp [Change.kind]
  obtain ⟨-, p, p', -, -, hrun, -, hrun', -, hsum, -⟩ :=
    diffRows_rearranged (faithful_memory ⟨true⟩ observer) hanswer hgo holds hnews
      ⟨some "create", none, none⟩ (fun _ _ => trivial) (0, .empty []) (0, .empty []) rfl rfl
      hempty hempty
  exact ⟨holds, hnews, p, p', hrun, hrun', hsum⟩

end CourseFeed
