import CourseFeed.Proofs.Buffering
import CourseFeed.Proofs.Observing
import CourseFeed.Reconcile.Files

/-!
# Passes, call by call

A pass over sinks that take everything does what the answers of its observer say and nothing else,
wherever its sinks are.

* **`View`** — what there is to see of the states of a stage: the state of the observer, and the
  bytes delivered for each kind of change.  A view is **`Faithful`** if each act of the stage does
  what it is for and nothing else: asking the observer delivers nothing, a delivery for one kind
  leaves the others alone, and noting something down does neither.
* **`Outputs.collected`** — all that was written for a kind of change: what was delivered, and what
  a buffer still holds back.  A write adds a row's bytes to it (**`Faithful.write_spec`**), and
  finishing delivers it (**`Faithful.finish_spec`**).
* **`Faithful.run_spec`** — one induction over the changes: the state of the observer, the summary
  and what was collected after a run are those that the calls of the observer say.
* **`Faithful.pass_spec`** — the same for whole passes.
-/

namespace CourseFeed

open CourseFeed.Feed

namespace Outputs

/-- Empty buffers for the sinks there are. -/
def opened (sinks : DiffSinks) : Outputs :=
  ⟨sinks.create.map Buffer.empty, sinks.delete.map Buffer.empty, sinks.update.map Buffer.empty⟩

theorem get_opened (sinks : DiffSinks) (kind : ChangeKind) :
    (opened sinks).get kind = (sinks.get kind).map Buffer.empty := by
  cases kind <;> rfl

theorem get_set (o : Outputs) (kind other : ChangeKind) (b : Buffer) :
    (o.set kind b).get other = if other = kind then some b else o.get other := by
  cases kind <;> cases other <;> rfl

/-- All that was written for a kind: what was delivered, and what a buffer holds back. -/
def collected (o : Outputs) (held : ChangeKind → List UInt8) (kind : ChangeKind) : List UInt8 :=
  held kind ++ (o.get kind).elim [] Buffer.pending

theorem collected_opened (sinks : DiffSinks) {held : ChangeKind → List UInt8} {kind : ChangeKind}
    (h : held kind = []) : (opened sinks).collected held kind = [] := by
  rw [collected, get_opened, h]
  cases sinks.get kind <;> rfl

end Outputs

theorem ChangeKind.mem_all (kind : ChangeKind) : kind ∈ ChangeKind.all := by
  cases kind <;> decide

/-- The bytes of the rows by which calls tell changes of a kind. -/
def linesTo (kind : ChangeKind) (calls : List Consultation) : List UInt8 :=
  (calls.filter (Consultation.tells kind)).flatMap fun call => rowBytes call.row

/-- They are the bytes of these rows one after the other. -/
theorem linesTo_eq_flatMap (kind : ChangeKind) (calls : List Consultation) :
    linesTo kind calls =
      ((calls.filter (Consultation.tells kind)).map Consultation.row).flatMap rowBytes := by
  rw [List.flatMap_map]
  rfl

theorem linesTo_cons (kind : ChangeKind) (call : Consultation) (calls : List Consultation) :
    linesTo kind (call :: calls) =
      (if call.tells kind then rowBytes call.row else []) ++ linesTo kind calls := by
  by_cases h : call.tells kind = true
  · simp only [linesTo, List.filter_cons_of_pos h, List.flatMap_cons, if_pos h]
  · simp only [linesTo, List.filter_cons_of_neg h, if_neg h, List.nil_append]

theorem linesTo_append (kind : ChangeKind) (calls more : List Consultation) :
    linesTo kind (calls ++ more) = linesTo kind calls ++ linesTo kind more := by
  rw [linesTo, List.filter_append, List.flatMap_append]
  rfl

theorem linesTo_concat (kind : ChangeKind) (calls : List Consultation) (call : Consultation) :
    linesTo kind (calls ++ [call]) =
      linesTo kind calls ++ if call.tells kind then rowBytes call.row else [] := by
  rw [linesTo_append, linesTo_cons]
  exact congrArg _ (List.append_nil _)

/-! ## What a stage does -/

/-- What there is to see of the states of a stage: the state of the observer, the bytes delivered
    for each kind of change, and whether the state is one in which a pass may be.  `takes` says for
    which kinds there are deliveries at all. -/
structure View (ω σ : Type) where
  state : ω → σ
  held : ω → ChangeKind → List UInt8
  ready : ω → Prop
  takes : ChangeKind → Prop

/-- Each act of a stage does what it is for, and nothing else. -/
structure View.Faithful {ω σ : Type} (v : View ω σ) (stage : Stage ω) (options : DiffOptions)
    (observer : Observer σ) : Prop where
  observe : ∀ (w : ω) (c : Change), v.ready w →
    ∃ w', stage.observe w c = (w', (observer (v.state w) c options).2) ∧ v.ready w' ∧
      v.state w' = (observer (v.state w) c options).1 ∧ v.held w' = v.held w
  deliver : ∀ (kind : ChangeKind) (w : ω) (bytes : List UInt8), v.takes kind → v.ready w →
    ∃ w', stage.deliver kind w bytes = .ok w' ∧ v.ready w' ∧ v.state w' = v.state w ∧
      ∀ other, v.held w' other =
        if other = kind then v.held w other ++ bytes else v.held w other
  note : ∀ (w : ω) (entry : JournalEntry), v.ready w → v.ready (stage.note w entry) ∧
    v.state (stage.note w entry) = v.state w ∧ v.held (stage.note w entry) = v.held w

namespace View.Faithful

variable {ω σ : Type} {v : View ω σ} {stage : Stage ω} {options : DiffOptions}
  {observer : Observer σ}

/-! ## One delivery, one write, one buffer finished -/

/-- Deliveries for a kind are taken.  They change neither the state of the observer nor what was
    delivered for other kinds. -/
theorem takes_deliver (h : v.Faithful stage options observer) (start : ω) {kind : ChangeKind}
    (hkind : v.takes kind) :
    Takes (stage.deliver kind)
      (fun w => v.ready w ∧ v.state w = v.state start ∧
        ∀ other, other ≠ kind → v.held w other = v.held start other)
      (fun w => v.held w kind) := by
  rintro w bytes ⟨hready, hstate, hothers⟩
  obtain ⟨w', hok, hready', hstate', hheld⟩ := h.deliver kind w bytes hkind hready
  refine ⟨w', hok, ⟨hready', hstate'.trans hstate, ?_⟩, ?_⟩
  · intro other hother
    rw [hheld, if_neg hother]
    exact hothers other hother
  · show v.held w' kind = _
    rw [hheld, if_pos rfl]

/-- **A write adds the bytes of its row to what was collected for its kind**, where there is a
    buffer for it, and changes nothing else. -/
theorem write_spec (h : v.Faithful stage options observer) (world : ω) (o : Outputs)
    (kind : ChangeKind) (row : Row) (hready : v.ready world)
    (htakes : (o.get kind).isSome → v.takes kind) :
    ∃ world' o', o.write stage world kind row = (world', o', none) ∧ v.ready world' ∧
      v.state world' = v.state world ∧ (∀ k, (o'.get k).isSome = (o.get k).isSome) ∧
      ∀ k, o'.collected (v.held world') k =
        o.collected (v.held world) k ++
          if k = kind ∧ (o.get k).isSome then rowBytes row else [] := by
  cases hget : o.get kind with
  | none =>
      refine ⟨world, o, ?_, hready, rfl, fun _ => rfl, ?_⟩
      · simp only [Outputs.write, hget]
      · intro k
        have hno : ¬ (k = kind ∧ (o.get k).isSome = true) := by
          rintro ⟨hk, hsome⟩
          rw [hk, hget] at hsome
          exact nomatch hsome
        rw [if_neg hno, List.append_nil]
  | some b =>
      have hkind : v.takes kind := htakes (by rw [hget]; rfl)
      obtain ⟨world', b', hwrite, ⟨hready', hstate, hothers⟩, -, hall⟩ :=
        b.write_spec (h.takes_deliver world hkind) world (rowBytes row)
          ⟨hready, rfl, fun _ _ => rfl⟩
      refine ⟨world', o.set kind b', ?_, hready', hstate, ?_, ?_⟩
      · simp only [Outputs.write, hget, hwrite]
      · intro k
        rw [Outputs.get_set]
        by_cases hk : k = kind
        · rw [if_pos hk, hk, hget]
          rfl
        · rw [if_neg hk]
      · intro k
        by_cases hk : k = kind
        · rw [hk, hget, if_pos ⟨rfl, rfl⟩, Outputs.collected, Outputs.collected,
            Outputs.get_set, if_pos rfl, hget]
          exact hall
        · rw [if_neg (fun hc => hk hc.1), List.append_nil, Outputs.collected, Outputs.collected,
            Outputs.get_set, if_neg hk, hothers k hk]

/-- Finishing the buffer of a kind delivers what was collected for the kind, and reports no fault
    that was not there before. -/
theorem finishKind_spec (h : v.Faithful stage options observer) (world : ω) (o : Outputs)
    (reported : Option Fault) (kind : ChangeKind) (hready : v.ready world)
    (htakes : (o.get kind).isSome → v.takes kind) :
    ∃ world', o.finishKind stage (world, reported) kind = (world', reported) ∧ v.ready world' ∧
      v.state world' = v.state world ∧
      ∀ k, v.held world' k =
        if k = kind then o.collected (v.held world) k else v.held world k := by
  cases hget : o.get kind with
  | none =>
      refine ⟨world, ?_, hready, rfl, ?_⟩
      · simp only [Outputs.finishKind, hget]
      · intro k
        by_cases hk : k = kind
        · rw [if_pos hk, Outputs.collected, hk, hget]
          exact (List.append_nil _).symm
        · rw [if_neg hk]
  | some b =>
      have hkind : v.takes kind := htakes (by rw [hget]; rfl)
      obtain ⟨world', hfinish, ⟨hready', hstate, hothers⟩, hall⟩ :=
        b.finish_spec (h.takes_deliver world hkind) world ⟨hready, rfl, fun _ _ => rfl⟩
      refine ⟨world', ?_, hready', hstate, ?_⟩
      · simp only [Outputs.finishKind, hget, hfinish, Option.or_none]
      · intro k
        by_cases hk : k = kind
        · rw [if_pos hk, Outputs.collected, hk, hget]
          exact hall
        · rw [if_neg hk, hothers k hk]

/-- **Finishing delivers all that was collected.** -/
theorem finish_spec (h : v.Faithful stage options observer) (world : ω) (o : Outputs)
    (hready : v.ready world) (htakes : ∀ k, (o.get k).isSome → v.takes k) :
    ∃ world', o.finish stage world = (world', none) ∧ v.ready world' ∧
      v.state world' = v.state world ∧ ∀ k, v.held world' k = o.collected (v.held world) k := by
  -- finishing a kind leaves what was delivered for the others, so the order does not matter
  obtain ⟨w₁, hrun₁, hr₁, hs₁, hheld₁⟩ := h.finishKind_spec world o none .create hready (htakes _)
  obtain ⟨w₂, hrun₂, hr₂, hs₂, hheld₂⟩ := h.finishKind_spec w₁ o none .delete hr₁ (htakes _)
  obtain ⟨w₃, hrun₃, hr₃, hs₃, hheld₃⟩ := h.finishKind_spec w₂ o none .update hr₂ (htakes _)
  refine ⟨w₃, ?_, hr₃, hs₃.trans (hs₂.trans hs₁), ?_⟩
  · simp only [Outputs.finish, ChangeKind.all, List.foldl_cons, List.foldl_nil, hrun₁, hrun₂,
      hrun₃]
  · intro k
    cases k with
    | create => rw [hheld₃, if_neg (by decide), hheld₂, if_neg (by decide), hheld₁, if_pos rfl]
    | delete =>
        rw [hheld₃, if_neg (by decide), hheld₂, if_pos rfl, Outputs.collected, hheld₁,
          if_neg (by decide)]
        rfl
    | update =>
        rw [hheld₃, if_pos rfl, Outputs.collected, hheld₂, if_neg (by decide), hheld₁,
          if_neg (by decide)]
        rfl

/-! ## Whole runs -/

/-- Telling a change writes its row to the sink of its kind and counts it. -/
theorem tell_spec (h : v.Faithful stage options observer) (p : Progress ω) (c : Change)
    (hready : v.ready p.world) (htakes : ∀ k, (p.outputs.get k).isSome → v.takes k) :
    ∃ p', Progress.tell stage options p c = (p', none) ∧ v.ready p'.world ∧
      v.state p'.world = v.state p.world ∧
      p'.summary = p.summary.count c.kind (c.format options) ∧
      (∀ k, (p'.outputs.get k).isSome = (p.outputs.get k).isSome) ∧
      ∀ k, p'.outputs.collected (v.held p'.world) k = p.outputs.collected (v.held p.world) k ++
        if k = c.kind ∧ (p.outputs.get k).isSome then rowBytes (c.format options) else [] := by
  obtain ⟨world', o', hwrite, hready', hstate, hsome, hall⟩ :=
    h.write_spec p.world p.outputs c.kind (c.format options) hready (htakes _)
  refine ⟨⟨world', o', p.summary.count c.kind (c.format options)⟩, ?_, hready', hstate, rfl,
    hsome, hall⟩
  simp only [Progress.tell, hwrite]

/-- **A run is what the calls of its observer say.**  By induction on the changes: each change is
    one call, and what a call does to the summary and to the sinks is added to what the calls
    before it did. -/
theorem run_spec (h : v.Faithful stage options observer) (p : Progress ω) (cs : List Change)
    (hready : v.ready p.world) (htakes : ∀ k, (p.outputs.get k).isSome → v.takes k) :
    ∃ p', Progress.run stage options p cs = (p', none) ∧ v.ready p'.world ∧
      (∀ k, (p'.outputs.get k).isSome = (p.outputs.get k).isSome) ∧
      v.state p'.world = (consult observer options (v.state p.world) cs).1 ∧
      p'.summary =
        (consult observer options (v.state p.world) cs).2.foldl DiffSummary.tally p.summary ∧
      ∀ k, p'.outputs.collected (v.held p'.world) k = p.outputs.collected (v.held p.world) k ++
        if (p.outputs.get k).isSome then
          linesTo k (consult observer options (v.state p.world) cs).2
        else [] := by
  induction cs generalizing p with
  | nil =>
      -- nothing is collected, for a kind with a sink or without
      refine ⟨p, rfl, hready, fun _ => rfl, rfl, rfl, ?_⟩
      intro k
      cases (p.outputs.get k).isSome <;> simp [consult, linesTo]
  | cons c rest ih =>
      obtain ⟨world, outputs, summary⟩ := p
      obtain ⟨w, hobserve, hw, hstate, hheld⟩ := h.observe world c hready
      obtain ⟨s', answer, hobs⟩ :
          ∃ s' answer, observer (v.state world) c options = (s', answer) := ⟨_, _, rfl⟩
      rw [hobs] at hobserve hstate
      cases answer with
      | proceed =>
          obtain ⟨p₁, htell, hr₁, hs₁, hsum₁, hsome₁, hall₁⟩ :=
            h.tell_spec ⟨w, outputs, summary⟩ c hw htakes
          obtain ⟨p', hrun, hr', hsome', hs', hsum', hall'⟩ :=
            ih p₁ hr₁ fun k hk => htakes k (by rw [← hsome₁]; exact hk)
          rw [consult_cons_of_ne rest hobs (by decide)]
          rw [hs₁.trans hstate] at hs' hsum' hall'
          refine ⟨p', ?_, hr', fun k => (hsome' k).trans (hsome₁ k), hs', ?_, ?_⟩
          · simp only [Progress.run, hobserve, htell, hrun]
          · rw [hsum', hsum₁]
            rfl
          -- the row of the first change goes before those of the rest, if it is of the kind
          · intro k
            rw [hall', hall₁, hsome₁, linesTo_cons, hheld]
            by_cases hk : (outputs.get k).isSome = true
            · by_cases hkind : k = c.kind
              · subst hkind
                simp [hk, Consultation.tells, Consultation.row]
              · simp [hk, hkind, Ne.symm hkind, Consultation.tells]
            · simp [hk]
      | skip =>
          obtain ⟨hr₁, hs₁, hheld₁⟩ := h.note w
            (.plain .debug diffPart ("Skipping " ++ c.kind.name ++ " of " ++ c.key.text)) hw
          obtain ⟨p', hrun, hr', hsome', hs', hsum', hall'⟩ :=
            ih (Progress.skip stage ⟨w, outputs, summary⟩ c) hr₁ htakes
          rw [consult_cons_of_ne rest hobs (by decide)]
          have hskipped : v.state (Progress.skip stage ⟨w, outputs, summary⟩ c).world = s' :=
            hs₁.trans hstate
          have hnothing : v.held (Progress.skip stage ⟨w, outputs, summary⟩ c).world =
              v.held world := hheld₁.trans hheld
          rw [hskipped] at hs' hsum' hall'
          refine ⟨p', ?_, hr', hsome', hs', hsum', ?_⟩
          · simp only [Progress.run, hobserve, hrun]
          · intro k
            have hquiet : ¬ (Consultation.tells k ⟨c, options, .skip⟩ = true) := by
              simp [Consultation.tells]
            rw [hall', hnothing, linesTo_cons, if_neg hquiet, List.nil_append]
            rfl
      | abort =>
          obtain ⟨hr₁, hs₁, hheld₁⟩ := h.note w
            (.plain .info diffPart ("Diff aborted at " ++ c.key.text)) hw
          have hnothing : v.held (Progress.abort stage ⟨w, outputs, summary⟩ c).world =
              v.held world := hheld₁.trans hheld
          rw [consult_cons_of_abort rest hobs]
          refine ⟨Progress.abort stage ⟨w, outputs, summary⟩ c, ?_, hr₁, fun _ => rfl,
            hs₁.trans hstate, rfl, ?_⟩
          · simp only [Progress.run, hobserve]
          · intro k
            rw [hnothing]
            simp [Progress.abort, linesTo, Consultation.tells]

/-- **A whole pass that is finished at its end**: no fault, the summary that the calls make, and in
    each sink the rows that the calls tell. -/
theorem pass_spec (h : v.Faithful stage options observer) (old new : Keyed) (world : ω)
    (sinks : DiffSinks) (hready : v.ready world)
    (htakes : ∀ kind, (sinks.get kind).isSome → v.takes kind)
    (hempty : ∀ kind, v.held world kind = []) :
    ∃ p world',
      diffRows stage options old new world (.opened sinks) = (p, none) ∧
      p.outputs.finish stage p.world = (world', none) ∧ v.ready world' ∧
      v.state world' = (consult observer options (v.state world) (changes old new)).1 ∧
      p.summary = (consult observer options (v.state world) (changes old new)).2.foldl
        DiffSummary.tally .zero ∧
      ∀ kind, v.held world' kind =
        if (sinks.get kind).isSome then
          linesTo kind (consult observer options (v.state world) (changes old new)).2
        else [] := by
  have hsome : ∀ kind, ((Outputs.opened sinks).get kind).isSome = (sinks.get kind).isSome := by
    intro kind
    rw [Outputs.get_opened, Option.isSome_map]
  obtain ⟨p, hrun, hr, hsome', hs, hsum, hall⟩ :=
    h.run_spec ⟨world, .opened sinks, .zero⟩ (changes old new) hready
      fun kind hkind => htakes kind (by rw [← hsome]; exact hkind)
  obtain ⟨world', hfinish, hr', hs', hheld⟩ :=
    h.finish_spec p.world p.outputs hr
      fun kind hkind => htakes kind (by rw [← hsome, ← hsome']; exact hkind)
  refine ⟨p, world', hrun, hfinish, hr', hs'.trans hs, hsum, ?_⟩
  intro kind
  rw [hheld, hall, Outputs.collected_opened sinks (hempty kind), List.nil_append, hsome]

end View.Faithful

end CourseFeed
