import CourseFeed.Proofs.CallByCall
import CourseFeed.Proofs.ChangeList

/-!
# Passes in memory, call by call

A shelf takes all that is delivered for the kinds that it does not refuse (**`faithful_refusing`**).
If it refuses nothing (**`faithful_memory`**), a pass in memory does what the answers of its
observer say: **`tell_memory`**, **`run_memory`** and **`pass_memory`** for one change, for a run
and for a whole pass, and **`diffRows_accounts`** for whole passes, whichever sinks there are.
-/

namespace CourseFeed

open CourseFeed.Feed CourseFeed.Text

section

variable {σ : Type} (options : DiffOptions) (observer : Observer σ)

/-- A delivery of a kind that is not refused adds its bytes to what was delivered for the kind. -/
theorem Shelf.deliver_spec (shelf : Shelf) {kind : ChangeKind} (bytes : List UInt8)
    (h : kind ∉ shelf.refused) :
    ∃ shelf', Shelf.deliver kind shelf bytes = .ok shelf' ∧ shelf'.refused = shelf.refused ∧
      ∀ other, shelf'.get other =
        if other = kind then shelf.get other ++ bytes else shelf.get other := by
  have hallowed : shelf.refused.contains kind = false := by simpa using h
  simp only [Shelf.deliver, hallowed, Bool.false_eq_true, if_false]
  cases kind with
  | create =>
      refine ⟨{ shelf with create := shelf.create ++ bytes }, rfl, rfl, ?_⟩
      intro other
      cases other <;> rfl
  | delete =>
      refine ⟨{ shelf with delete := shelf.delete ++ bytes }, rfl, rfl, ?_⟩
      intro other
      cases other <;> rfl
  | update =>
      refine ⟨{ shelf with update := shelf.update ++ bytes }, rfl, rfl, ?_⟩
      intro other
      cases other <;> rfl

/-- What there is to see of a pass in memory where deliveries of some kinds are refused. -/
def refusingView (σ : Type) (refused : List ChangeKind) : View (σ × Shelf) σ where
  state := Prod.fst
  held := fun w => w.2.get
  ready := fun w => w.2.refused = refused
  takes := fun kind => kind ∉ refused

/-- **A shelf takes all that is delivered for the kinds that it does not refuse.** -/
theorem faithful_refusing (refused : List ChangeKind) :
    (refusingView σ refused).Faithful (memoryStage options observer) options observer where
  observe := by
    rintro ⟨s, shelf⟩ c hready
    exact ⟨((observer s c options).1, shelf), rfl, hready, rfl, rfl⟩
  deliver := by
    rintro kind ⟨s, shelf⟩ bytes htakes hready
    have hfree : kind ∉ shelf.refused := by
      rw [show shelf.refused = refused from hready]
      exact htakes
    obtain ⟨shelf', hok, hrefused, hget⟩ := shelf.deliver_spec bytes hfree
    refine ⟨(s, shelf'), ?_, hrefused.trans hready, rfl, hget⟩
    simp only [memoryStage, hok]
    rfl
  note := fun _ _ hready => ⟨hready, rfl, rfl⟩

/-- What there is to see of a pass in memory, as long as nothing is refused. -/
def memoryView (σ : Type) : View (σ × Shelf) σ where
  state := Prod.fst
  held := fun w => w.2.get
  ready := fun w => w.2.refused = []
  takes := fun _ => True

/-- **A shelf that refuses nothing takes all that is delivered.** -/
theorem faithful_memory :
    (memoryView σ).Faithful (memoryStage options observer) options observer where
  observe := (faithful_refusing options observer []).observe
  deliver := fun kind w bytes _ =>
    (faithful_refusing options observer []).deliver kind w bytes List.not_mem_nil
  note := (faithful_refusing options observer []).note

/-- Telling a change writes its row to the sink of its kind and counts it. -/
theorem tell_memory (p : Progress (σ × Shelf)) (c : Change) (h : p.world.2.refused = []) :
    ∃ p', Progress.tell (memoryStage options observer) options p c = (p', none) ∧
      p'.world.1 = p.world.1 ∧ p'.world.2.refused = [] ∧
      p'.summary = p.summary.count c.kind (c.format options) ∧
      (∀ k, (p'.outputs.get k).isSome = (p.outputs.get k).isSome) ∧
      ∀ k, p'.outputs.collected p'.world.2.get k = p.outputs.collected p.world.2.get k ++
        if k = c.kind ∧ (p.outputs.get k).isSome then rowBytes (c.format options) else [] := by
  obtain ⟨p', htell, hrefused, hstate, hrest⟩ :=
    (faithful_memory options observer).tell_spec p c h fun _ _ => trivial
  exact ⟨p', htell, hstate, hrefused, hrest⟩

/-- **A run is what the calls of its observer say.** -/
theorem run_memory (p : Progress (σ × Shelf)) (cs : List Change) (h : p.world.2.refused = []) :
    ∃ p', Progress.run (memoryStage options observer) options p cs = (p', none) ∧
      p'.world.2.refused = [] ∧
      p'.world.1 = (consult observer options p.world.1 cs).1 ∧
      p'.summary = (consult observer options p.world.1 cs).2.foldl DiffSummary.tally p.summary ∧
      ∀ k, p'.outputs.collected p'.world.2.get k = p.outputs.collected p.world.2.get k ++
        if (p.outputs.get k).isSome then linesTo k (consult observer options p.world.1 cs).2
        else [] := by
  obtain ⟨p', hrun, hrefused, -, hrest⟩ :=
    (faithful_memory options observer).run_spec p cs h fun _ _ => trivial
  exact ⟨p', hrun, hrefused, hrest⟩

end

variable {σ : Type}

/-- A whole pass that is finished at its end: no fault, the summary that the calls make, and in
    each sink the rows that the calls tell. -/
theorem pass_memory (observer : Observer σ) (options : DiffOptions) (old new : Keyed) (s : σ)
    (sinks : DiffSinks) :
    ∃ p world,
      diffRows (memoryStage options observer) options old new (s, .empty []) (.opened sinks) =
        (p, none) ∧
      p.outputs.finish (memoryStage options observer) p.world = (world, none) ∧
      world.1 = (consult observer options s (changes old new)).1 ∧
      p.summary = (consult observer options s (changes old new)).2.foldl DiffSummary.tally .zero ∧
      ∀ kind, world.2.get kind =
        if (sinks.get kind).isSome then
          linesTo kind (consult observer options s (changes old new)).2
        else [] := by
  have hempty : ∀ kind, (Shelf.empty []).get kind = [] := by
    intro kind
    cases kind <;> rfl
  obtain ⟨p, world, hrun, hfinish, -, hrest⟩ :=
    (faithful_memory options observer).pass_spec old new (s, .empty []) sinks rfl
      (fun _ _ => trivial) hempty
  exact ⟨p, world, hrun, hfinish, hrest⟩

/-- The lines of full rows are their cells between tabs, each ended by a line feed. -/
theorem linesTo_of_full (kind : ChangeKind) {calls : List Consultation}
    (h : ∀ call ∈ calls, call.row.Full) :
    linesTo kind calls = (calls.filter (Consultation.tells kind)).flatMap
      fun call => encodeUtf8 (call.row.encode ++ "\n") := by
  have hmap : (calls.filter (Consultation.tells kind)).map (fun call => rowBytes call.row) =
      (calls.filter (Consultation.tells kind)).map
        fun call => encodeUtf8 (call.row.encode ++ "\n") := by
    refine List.map_congr_left ?_
    intro call hcall
    exact rowBytes_of_full (h call (List.mem_filter.mp hcall).1)
  rw [linesTo, List.flatMap_def, List.flatMap_def, hmap]

/-- **A pass is accounted for exactly.**  Whatever the observer answers, there are the calls that
    were made of it and a summary, the same for any choice of sinks, such that the calls follow the
    list of changes up to the first answer that breaks off, the summary counts them, and each sink
    holds the lines of the changes of its kind that were let through, in order. -/
theorem diffRows_accounts {old new : Keyed} (hold : old.Full) (hnew : new.Full)
    (options : DiffOptions) (observer : Observer σ) (s : σ) :
    ∃ (calls : List Consultation) (summary : DiffSummary),
      Consulted options (changes old new) calls ∧ summary.Accounts calls ∧
      calls.length = summary.total + (if summary.aborted then 1 else 0) ∧
      ∀ sinks : DiffSinks,
        (∃ p world,
          diffRows (memoryStage options observer) options old new (s, .empty [])
            (.opened sinks) = (p, none) ∧
          p.outputs.finish (memoryStage options observer) p.world = (world, none) ∧
          p.summary = summary ∧
          ∀ kind, world.2.get kind =
            if (sinks.get kind).isSome then
              (calls.filter (Consultation.tells kind)).flatMap
                fun call => encodeUtf8 (call.row.encode ++ "\n")
            else []) ∧
        ∃ p,
          diffRows (memoryStage options observer.recorded) options old new
            ((s, []), .empty []) (.opened sinks) = (p, none) ∧
          p.summary = summary ∧ p.world.1.2 = calls := by
  have hcons := consulted_consult observer options s (changes old new)
  have hacc := DiffSummary.accounts_zero.foldl_tally
    (consult observer options s (changes old new)).2
  rw [List.nil_append] at hacc
  refine ⟨_, _, hcons, hacc, length_calls_eq_total hcons hacc, ?_⟩
  intro sinks
  constructor
  · obtain ⟨p, world, hrun, hfinish, -, hsum, hget⟩ :=
      pass_memory observer options old new s sinks
    have hfull : ∀ call ∈ (consult observer options s (changes old new)).2, call.row.Full := by
      intro call hcall
      have hmem : call.change ∈ changes old new := by
        refine List.mem_of_mem_take
          (i := (consult observer options s (changes old new)).2.length) ?_
        rw [← hcons.changes_eq]
        exact List.mem_map.mpr ⟨call, hcall, rfl⟩
      exact full_format_of_mem_changes hold hnew call.options hmem
    refine ⟨p, world, hrun, hfinish, hsum, ?_⟩
    intro kind
    rw [hget, linesTo_of_full kind hfull]
  -- what the observer was asked is what one that keeps its calls has kept
  · obtain ⟨p, hrun, -, hs, hsum, -⟩ :=
      run_memory options observer.recorded
        ⟨((s, []), .empty []), .opened sinks, .zero⟩ (changes old new) rfl
    rw [consult_recorded] at hs hsum
    refine ⟨p, hrun, hsum, ?_⟩
    rw [hs]
    rfl

/-- An observer that skips the first change and breaks off at the second, and three changes. -/
theorem diffRows_accounts_skip_then_abort :
    let old := Keyed.ofRows [Row.about "A" "1"]
    let new := Keyed.ofRows [Row.about "B" "1", Row.about "B" "2"]
    let observer : Observer Nat := fun n _ _ => (n + 1, if n = 0 then .skip else .abort)
    old.Full ∧ new.Full ∧
      ∃ (calls : List Consultation) (summary : DiffSummary),
        Consulted ⟨true⟩ (changes old new) calls ∧ summary.Accounts calls ∧
        calls.length = summary.total + (if summary.aborted then 1 else 0) ∧
        ∃ p,
          diffRows (memoryStage ⟨true⟩ observer.recorded) ⟨true⟩ old new ((0, []), .empty [])
            (.opened ⟨some "create", none, none⟩) = (p, none) ∧
          p.summary = summary ∧ p.world.1.2 = calls := by
  intro old new observer
  have hold : old.Full := Keyed.full_ofRows (by decide)
  have hnew : new.Full := Keyed.full_ofRows (by decide)
  obtain ⟨calls, summary, hcalls, hsummary, hlength, hpass⟩ :=
    diffRows_accounts hold hnew ⟨true⟩ observer 0
  exact ⟨hold, hnew, calls, summary, hcalls, hsummary, hlength, (hpass _).2⟩

end CourseFeed
