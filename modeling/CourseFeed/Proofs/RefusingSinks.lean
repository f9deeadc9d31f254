import CourseFeed.Proofs.FeedLines
import CourseFeed.Proofs.MemoryPass

/-!
# Passes over sinks of which some refuse

A sink that refuses its deliveries does not show at once: its buffer takes the first rows, and the
pass goes on until a row does not fit.  What the other sinks hold at the end is not touched by that.

* **`Outputs.Keeps`** — how far the sinks are once some calls were handled: one that takes its
  deliveries has all its lines, and the buffer of one that refuses holds them back.
* **`Keeps.tell`** — telling one change more keeps that, or its line is the first that does not fit
  into the buffer of a sink that refuses.
* **`Keeps.run`** — by induction on the changes, how a run ends (**`Progress.Ends`**).
* **`Outputs.Holds.finish`** — finishing delivers what was collected for the sinks that take their
  deliveries, and reports the first buffer that could not be delivered.
* **`diffRows_refused`** — whole passes.
-/

namespace CourseFeed

open CourseFeed.Feed CourseFeed.Text

section

variable {σ : Type} (options : DiffOptions) (observer : Observer σ) {sinks : DiffSinks}
  {refused : List ChangeKind} {handled made : List Consultation}

/-- Each line has at least its line feed. -/
theorem linesTo_eq_nil_iff (kind : ChangeKind) (calls : List Consultation) :
    linesTo kind calls = [] ↔ ∀ call ∈ calls, ¬ call.tells kind = true := by
  have hline : ∀ r : Row, rowBytes r ≠ [] := by
    intro r hnil
    rw [rowBytes, encodeUtf8_append] at hnil
    exact absurd (List.append_eq_nil_iff.mp hnil).2 (by decide)
  rw [linesTo, List.flatMap_eq_nil_iff]
  constructor
  · intro h call hcall htells
    exact hline _ (h call (List.mem_filter.mpr ⟨hcall, htells⟩))
  · intro h call hcall
    obtain ⟨hmem, htells⟩ := List.mem_filter.mp hcall
    exact absurd htells (h call hmem)

/-! ## Deliveries -/

/-- A delivery of a kind that is refused is not taken, whatever it is. -/
theorem deliver_refused {kind : ChangeKind} {w : σ × Shelf} (h : kind ∈ w.2.refused)
    (bytes : List UInt8) :
    (memoryStage options observer).deliver kind w bytes = .error .refused := by
  obtain ⟨s, shelf⟩ := w
  have hcontains : shelf.refused.contains kind = true := by simpa using h
  simp only [memoryStage, Shelf.deliver, hcontains, if_true]
  rfl

/-! ## How far the sinks are -/

/-- What the sinks hold when some calls were handled: those that take their deliveries have all
    lines of their kind, delivered or held back, and those that refuse them hold nothing. -/
structure Outputs.Holds (sinks : DiffSinks) (refused : List ChangeKind)
    (handled : List Consultation) (shelf : Shelf) (o : Outputs) : Prop where
  refusing : shelf.refused = refused
  paths : ∀ kind, (o.get kind).map Buffer.path = sinks.get kind
  taken : ∀ kind, kind ∉ refused → o.collected shelf.get kind =
    if (sinks.get kind).isSome then linesTo kind handled else []
  nothing : ∀ kind ∈ refused, shelf.get kind = []

/-- How far the sinks are as long as the pass goes on: what is refused is all held back. -/
structure Outputs.Keeps (sinks : DiffSinks) (refused : List ChangeKind)
    (handled : List Consultation) (shelf : Shelf) (o : Outputs) : Prop
    extends o.Holds sinks refused handled shelf where
  waiting : ∀ kind ∈ refused, ∀ b, o.get kind = some b →
    b.pending = linesTo kind handled ∧ b.pending.length ≤ bufferSize

/-- How far the sinks are when the pass is over: what is refused is held back if some call that was
    made tells it. -/
structure Outputs.Left (sinks : DiffSinks) (refused : List ChangeKind)
    (handled made : List Consultation) (shelf : Shelf) (o : Outputs) : Prop
    extends o.Holds sinks refused handled shelf where
  waiting : ∀ kind ∈ refused, ∀ b, o.get kind = some b →
    (b.pending = [] ↔ ∀ call ∈ made, ¬ call.tells kind = true)

namespace Outputs

/-- Writing a row changes no path, and no buffer but that of the kind of the row. -/
theorem path_write {ω : Type} (stage : Stage ω) (world : ω) (o : Outputs) (kind : ChangeKind)
    (row : Row) (other : ChangeKind) :
    ((o.write stage world kind row).2.1.get other).map Buffer.path =
      (o.get other).map Buffer.path := by
  rw [write]
  cases hget : o.get kind with
  | none => rfl
  | some b =>
      show ((o.set kind (b.write (stage.deliver kind) world (rowBytes row)).2.1).get other).map
        Buffer.path = _
      rw [get_set]
      by_cases hk : other = kind
      · rw [if_pos hk, hk, hget]
        rfl
      · rw [if_neg hk]

theorem get_write_of_ne {ω : Type} (stage : Stage ω) (world : ω) (o : Outputs) {kind : ChangeKind}
    (row : Row) {other : ChangeKind} (h : other ≠ kind) :
    (o.write stage world kind row).2.1.get other = o.get other := by
  rw [write]
  cases hget : o.get kind with
  | none => rfl
  | some b =>
      show (o.set kind (b.write (stage.deliver kind) world (rowBytes row)).2.1).get other = _
      rw [get_set, if_neg h]

theorem Holds.isSome_eq {shelf : Shelf} {o : Outputs} (h : o.Holds sinks refused handled shelf)
    (kind : ChangeKind) : (o.get kind).isSome = (sinks.get kind).isSome := by
  rw [← h.paths, Option.isSome_map]

theorem Holds.path_eq {shelf : Shelf} {o : Outputs} (h : o.Holds sinks refused handled shelf)
    {kind : ChangeKind} {b : Buffer} (hget : o.get kind = some b) :
    sinks.get kind = some b.path := by
  rw [← h.paths, hget]
  rfl

/-- The lines for a sink that refuses its deliveries fit into its buffer. -/
theorem Keeps.length_le {shelf : Shelf} {o : Outputs} (h : o.Keeps sinks refused handled shelf)
    {kind : ChangeKind} (hrefused : kind ∈ refused) (hsome : (sinks.get kind).isSome) :
    (linesTo kind handled).length ≤ bufferSize := by
  rw [← h.isSome_eq] at hsome
  obtain ⟨b, hget⟩ := Option.isSome_iff_exists.mp hsome
  obtain ⟨hpending, hlength⟩ := h.waiting kind hrefused b hget
  rw [← hpending]
  exact hlength

/-- At the start nothing is handled and nothing is held back. -/
theorem keeps_opened (sinks : DiffSinks) (refused : List ChangeKind) :
    (opened sinks).Keeps sinks refused [] (.empty refused) where
  refusing := rfl
  paths := by
    intro kind
    rw [get_opened, Option.map_map]
    exact congrFun Option.map_id _
  taken := by
    intro kind _
    rw [collected_opened sinks (by cases kind <;> rfl)]
    exact (ite_self _).symm
  nothing := by
    intro kind _
    cases kind <;> rfl
  waiting := by
    intro kind _ b hget
    rw [get_opened] at hget
    obtain ⟨path, -, rfl⟩ := Option.map_eq_some_iff.mp hget
    exact ⟨rfl, Nat.zero_le _⟩

end Outputs

/-! ## One change -/

/-- A call changes nothing that is said of a kind if it does not tell the kind. -/
theorem linesTo_concat_of_quiet {kind : ChangeKind} {call : Consultation}
    (h : ¬ call.tells kind = true) :
    linesTo kind (handled ++ [call]) = linesTo kind handled := by
  rw [linesTo_concat, if_neg h, List.append_nil]

/-- What sinks hold after a call that tells nothing to one that takes its deliveries. -/
theorem Outputs.Holds.more {shelf : Shelf} {o : Outputs} (h : o.Holds sinks refused handled shelf)
    {call : Consultation}
    (hquiet : ∀ kind, kind ∉ refused → (sinks.get kind).isSome → ¬ call.tells kind = true) :
    o.Holds sinks refused (handled ++ [call]) shelf where
  refusing := h.refusing
  paths := h.paths
  taken := by
    intro kind hfree
    rw [h.taken kind hfree]
    by_cases hsome : (sinks.get kind).isSome = true
    · rw [if_pos hsome, if_pos hsome, linesTo_concat_of_quiet (hquiet kind hfree hsome)]
    · rw [if_neg hsome, if_neg hsome]
  nothing := h.nothing

/-- What a sink that refuses its deliveries has held back does not matter for what sinks hold. -/
theorem Outputs.Holds.set {shelf : Shelf} {o : Outputs} (h : o.Holds sinks refused handled shelf)
    {kind : ChangeKind} (hrefused : kind ∈ refused) {b : Buffer} (hget : o.get kind = some b)
    (pending : List UInt8) :
    (o.set kind { b with pending := pending }).Holds sinks refused handled shelf where
  refusing := h.refusing
  paths := by
    intro other
    rw [Outputs.get_set]
    by_cases hother : other = kind
    · rw [if_pos hother, hother, h.path_eq hget]
      rfl
    · rw [if_neg hother]
      exact h.paths other
  taken := by
    intro other hfree
    have hother : other ≠ kind := by
      rintro rfl
      exact hfree hrefused
    rw [Outputs.collected, Outputs.get_set, if_neg hother]
    exact h.taken other hfree
  nothing := h.nothing

/-- A call that tells nothing to a sink changes nothing. -/
theorem Outputs.Keeps.quiet {shelf : Shelf} {o : Outputs} (h : o.Keeps sinks refused handled shelf)
    {call : Consultation} (hquiet : ∀ kind, (sinks.get kind).isSome → ¬ call.tells kind = true) :
    o.Keeps sinks refused (handled ++ [call]) shelf := by
  refine ⟨h.more fun kind _ => hquiet kind, ?_⟩
  intro kind hrefused b hget
  have hsome : (sinks.get kind).isSome = true := by rw [h.path_eq hget]; rfl
  rw [linesTo_concat_of_quiet (hquiet kind hsome)]
  exact h.waiting kind hrefused b hget

/-- A row that is written for a kind that is not refused is collected. -/
theorem Outputs.Keeps.write {w : σ × Shelf} {o : Outputs} (h : o.Keeps sinks refused handled w.2)
    {call : Consultation} (htold : call.answer = .proceed) (hfree : call.change.kind ∉ refused) :
    ∃ w' o', o.write (memoryStage options observer) w call.change.kind call.row = (w', o', .none) ∧
      w'.1 = w.1 ∧ o'.Keeps sinks refused (handled ++ [call]) w'.2 := by
  obtain ⟨w', o', hwrite, hready, hstate, -, hall⟩ :=
    (faithful_refusing options observer refused).write_spec w o call.change.kind call.row
      h.refusing fun _ => hfree
  have hpaths := o.path_write (memoryStage options observer) w call.change.kind call.row
  rw [hwrite] at hpaths
  -- nothing is written for a kind that is refused
  have hother : ∀ kind ∈ refused, kind ≠ call.change.kind := by
    rintro kind hkind rfl
    exact hfree hkind
  have hsame : ∀ kind ∈ refused, o'.get kind = o.get kind := by
    intro kind hkind
    have hget := o.get_write_of_ne (memoryStage options observer) w call.row (hother kind hkind)
    rw [hwrite] at hget
    exact hget
  refine ⟨w', o', hwrite, hstate, ⟨hready, fun kind => (hpaths kind).trans (h.paths kind), ?_, ?_⟩,
    ?_⟩
  · intro kind hkind
    have hcollected : o'.collected w'.2.get kind = o.collected w.2.get kind ++
        if kind = call.change.kind ∧ (o.get kind).isSome then rowBytes call.row else [] := hall kind
    rw [hcollected, h.taken kind hkind, h.isSome_eq, linesTo_concat]
    by_cases hsome : (sinks.get kind).isSome = true
    · simp only [hsome, if_true, and_true, Consultation.tells_iff htold]
    · simp only [hsome, if_false, and_false, List.append_nil, Bool.false_eq_true]
  · intro kind hkind
    have hcollected : o'.collected w'.2.get kind = o.collected w.2.get kind ++
        if kind = call.change.kind ∧ (o.get kind).isSome then rowBytes call.row else [] := hall kind
    rw [if_neg (fun hc => hother kind hkind hc.1), List.append_nil, Outputs.collected,
      Outputs.collected, hsame kind hkind] at hcollected
    rw [List.append_cancel_right hcollected]
    exact h.nothing kind hkind
  · intro kind hkind b hget
    have hquiet : ¬ call.tells kind = true := by
      rw [Consultation.tells_iff htold]
      exact hother kind hkind
    rw [linesTo_concat_of_quiet hquiet]
    exact h.waiting kind hkind b ((hsame kind hkind).symm.trans hget)

/-- A row that is written to a sink that refuses its deliveries is held back, if it fits; otherwise
    it is cut off where the buffer is full. -/
theorem Outputs.Keeps.write_refused {w : σ × Shelf} {o : Outputs}
    (h : o.Keeps sinks refused handled w.2) {call : Consultation} (htold : call.answer = .proceed)
    {kind : ChangeKind} (hkind : call.change.kind = kind) (hrefused : kind ∈ refused) {b : Buffer}
    (hget : o.get kind = some b) :
    o.write (memoryStage options observer) w kind call.row =
      if (linesTo kind (handled ++ [call])).length ≤ bufferSize then
        (w, o.set kind { b with pending := linesTo kind (handled ++ [call]) }, .none)
      else
        (w, o.set kind { b with pending := (linesTo kind (handled ++ [call])).take bufferSize },
          some (.feed b.path (.storage .refused))) := by
  have hpending := (h.waiting kind hrefused b hget).1
  have htells : call.tells kind = true := (Consultation.tells_iff htold kind).mpr hkind.symm
  have hall : b.pending ++ rowBytes call.row = linesTo kind (handled ++ [call]) := by
    rw [linesTo_concat, if_pos htells, hpending]
  have hwrite := Buffer.write_refused
    (deliver_refused options observer (w := w) (by rw [h.refusing]; exact hrefused)) b
    (rowBytes call.row)
  rw [hall] at hwrite
  simp only [Outputs.write, hget, hwrite]
  split <;> rfl

/-- A sink that refuses its deliveries may have a row more held back. -/
theorem Outputs.Keeps.hold {shelf : Shelf} {o : Outputs} (h : o.Keeps sinks refused handled shelf)
    {call : Consultation} (htold : call.answer = .proceed) {kind : ChangeKind}
    (hkind : call.change.kind = kind) (hrefused : kind ∈ refused) {b : Buffer}
    (hget : o.get kind = some b)
    (hfit : (linesTo kind (handled ++ [call])).length ≤ bufferSize) :
    (o.set kind { b with pending := linesTo kind (handled ++ [call]) }).Keeps sinks refused
      (handled ++ [call]) shelf := by
  subst hkind
  have htells := Consultation.tells_iff htold
  refine ⟨(h.set hrefused hget _).more ?_, ?_⟩
  · intro other hfree _ hother
    exact hfree ((htells other).mp hother ▸ hrefused)
  · intro other hkept b' hb'
    rw [Outputs.get_set] at hb'
    by_cases hother : other = call.change.kind
    · rw [if_pos hother] at hb'
      rw [← Option.some.inj hb', hother]
      exact ⟨rfl, hfit⟩
    · rw [if_neg hother] at hb'
      rw [linesTo_concat_of_quiet (fun hc => hother ((htells other).mp hc))]
      exact h.waiting other hkept b' hb'

/-- How a run ends when some calls were handled: at the end of the changes or where the observer
    broke off, or at a call whose line does not fit into the buffer of a sink that refuses its
    deliveries, with the fault of that sink. -/
inductive Progress.Ends (sinks : DiffSinks) (refused : List ChangeKind)
    (handled : List Consultation) (p : Progress (σ × Shelf)) :
    List Change → Option Consultation → Option Fault → Prop where
  | passed (keeps : p.outputs.Keeps sinks refused handled p.world.2) :
      Ends sinks refused handled p [] none none
  | stopped {after : List Change} {call : Consultation} {o : Outputs} {b : Buffer}
      (keeps : o.Keeps sinks refused handled p.world.2) (told : call.answer = .proceed)
      (refuses : call.change.kind ∈ refused) (sink : o.get call.change.kind = some b)
      (full : bufferSize < (linesTo call.change.kind (handled ++ [call])).length)
      (outputs : p.outputs = o.set call.change.kind
        { b with pending := (linesTo call.change.kind (handled ++ [call])).take bufferSize }) :
      Ends sinks refused handled p after (some call) (some (.feed b.path (.storage .refused)))

/-- **Telling a change** adds its line to what the sinks keep, or the run ends at it. -/
theorem Outputs.Keeps.tell {w : σ × Shelf} {o : Outputs} (h : o.Keeps sinks refused handled w.2)
    (c : Change) (summary : DiffSummary) :
    (∃ w' o', Progress.tell (memoryStage options observer) options ⟨w, o, summary⟩ c =
        (⟨w', o', summary.tally ⟨c, options, .proceed⟩⟩, .none) ∧
      w'.1 = w.1 ∧ o'.Keeps sinks refused (handled ++ [⟨c, options, .proceed⟩]) w'.2) ∨
    ∃ o' fault, Progress.tell (memoryStage options observer) options ⟨w, o, summary⟩ c =
        (⟨w, o', summary⟩, some fault) ∧
      ∀ after, Progress.Ends sinks refused handled (⟨w, o', summary⟩ : Progress (σ × Shelf)) after
        (some ⟨c, options, .proceed⟩) (some fault) := by
  have hrow : (⟨c, options, .proceed⟩ : Consultation).row = c.format options := rfl
  have hproceed : (⟨c, options, .proceed⟩ : Consultation).answer = .proceed := rfl
  by_cases hrefused : c.kind ∈ refused
  · cases hget : o.get c.kind with
    | none =>
        -- a kind without a sink is told nowhere
        refine Or.inl ⟨w, o, ?_, rfl, h.quiet ?_⟩
        · simp only [Progress.tell, Outputs.write, hget]
          rfl
        · intro kind hsome htells
          have hkind : kind = c.kind := (Consultation.tells_iff rfl kind).mp htells
          rw [hkind, ← h.isSome_eq, hget] at hsome
          exact absurd hsome Bool.false_ne_true
    | some b =>
        have hwrite := h.write_refused options observer hproceed rfl hrefused hget
        rw [hrow] at hwrite
        by_cases hfit :
            (linesTo c.kind (handled ++ [⟨c, options, .proceed⟩])).length ≤ bufferSize
        · rw [if_pos hfit] at hwrite
          refine Or.inl ⟨w, _, ?_, rfl, h.hold rfl rfl hrefused hget hfit⟩
          simp only [Progress.tell, hwrite]
          rfl
        · rw [if_neg hfit] at hwrite
          refine Or.inr ⟨_, _, ?_, fun after =>
            .stopped h rfl hrefused hget (Nat.lt_of_not_le hfit) rfl⟩
          simp only [Progress.tell, hwrite]
          rfl
  · obtain ⟨w', o', hwrite, hstate, hkeeps⟩ :=
      h.write options observer hproceed hrefused
    rw [hrow] at hwrite
    refine Or.inl ⟨w', o', ?_, hstate, hkeeps⟩
    simp only [Progress.tell, hwrite]
    rfl

/-- **How a run ends.**  By induction on the changes: each change is one call, which adds its line
    to what the sinks keep, or is quiet, or ends the run. -/
theorem Outputs.Keeps.run {w : σ × Shelf} {o : Outputs} (h : o.Keeps sinks refused handled w.2)
    (summary : DiffSummary) (cs : List Change) :
    ∃ p fault before after more failing,
      Progress.run (memoryStage options observer) options ⟨w, o, summary⟩ cs = (p, fault) ∧
      cs = before ++ after ∧
      consult observer options w.1 before = (p.world.1, more ++ failing.toList) ∧
      p.summary = more.foldl DiffSummary.tally summary ∧
      p.Ends sinks refused (handled ++ more) after failing fault := by
  induction cs generalizing handled w o summary with
  | nil =>
      refine ⟨⟨w, o, summary⟩, .none, [], [], [], .none, rfl, rfl, rfl, rfl, .passed ?_⟩
      rw [List.append_nil]
      exact h
  | cons c rest ih =>
      obtain ⟨s, shelf⟩ := w
      obtain ⟨s', answer, hobs⟩ : ∃ s' answer, observer s c options = (s', answer) := ⟨_, _, rfl⟩
      have hobserve :
          (memoryStage options observer).observe (s, shelf) c = ((s', shelf), answer) := by
        simp only [memoryStage, hobs]
      -- a call that ends no run goes before those about the rest
      have hcons : ∀ {before : List Change} {state : σ} {calls : List Consultation},
          answer ≠ .abort → consult observer options s' before = (state, calls) →
          consult observer options s (c :: before) = (state, ⟨c, options, answer⟩ :: calls) := by
        intro before state calls hgo hbefore
        rw [consult_cons_of_ne before hobs hgo, hbefore]
      have hquiet : ∀ kind, answer ≠ .proceed →
          ¬ Consultation.tells kind ⟨c, options, answer⟩ = true := by
        intro kind hanswer htells
        rw [Consultation.tells, decide_eq_true_iff] at htells
        exact hanswer htells.1
      cases answer with
      | proceed =>
          rcases Outputs.Keeps.tell options observer (w := (s', shelf)) h c summary with
            ⟨w', o', htell, hstate, hkeeps⟩ | ⟨o', fault, htell, hends⟩
          · obtain ⟨p, fault, before, after, more, failing, hrun, hsplit, hcalls, hsum, hends⟩ :=
              ih hkeeps (summary.tally ⟨c, options, .proceed⟩)
            rw [List.append_assoc] at hends
            rw [show w'.1 = s' from hstate] at hcalls
            refine ⟨p, fault, c :: before, after, ⟨c, options, .proceed⟩ :: more, failing, ?_, ?_,
              hcons (by decide) hcalls, hsum, hends⟩
            · simp only [Progress.run, hobserve, htell, hrun]
            · rw [hsplit, List.cons_append]
          · refine ⟨⟨(s', shelf), o', summary⟩, some fault, [c], rest, [],
              some ⟨c, options, .proceed⟩, ?_, rfl, hcons (by decide) rfl, rfl, ?_⟩
            · simp only [Progress.run, hobserve, htell]
            · rw [List.append_nil]
              exact hends rest
      | skip =>
          obtain ⟨p, fault, before, after, more, failing, hrun, hsplit, hcalls, hsum, hends⟩ :=
            ih (w := (s', shelf)) (h.quiet fun kind _ => hquiet kind (by decide)) summary.skip
          rw [List.append_assoc] at hends
          refine ⟨p, fault, c :: before, after, ⟨c, options, .skip⟩ :: more, failing, ?_, ?_,
            hcons (by decide) hcalls, hsum, hends⟩
          · simp only [Progress.run, hobserve]
            exact hrun
          · rw [hsplit, List.cons_append]
      | abort =>
          refine ⟨Progress.abort (memoryStage options observer) ⟨(s', shelf), o, summary⟩ c, .none,
            c :: rest, [], [⟨c, options, .abort⟩], .none, ?_, (List.append_nil _).symm,
            consult_cons_of_abort rest hobs, rfl, .passed ?_⟩
          · simp only [Progress.run, hobserve]
          · exact h.quiet fun kind _ => hquiet kind (by decide)

/-! ## The end of a pass -/

/-- However a run ends, what is refused is held back if some call that was made tells it. -/
theorem Progress.Ends.left {p : Progress (σ × Shelf)} {after : List Change}
    {failing : Option Consultation} {fault : Option Fault}
    (h : p.Ends sinks refused handled after failing fault) :
    p.outputs.Left sinks refused handled (handled ++ failing.toList) p.world.2 := by
  cases h with
  | passed keeps =>
      refine ⟨keeps.toHolds, ?_⟩
      intro kind hrefused b hget
      rw [(keeps.waiting kind hrefused b hget).1, linesTo_eq_nil_iff, Option.toList_none,
        List.append_nil]
  | @stopped _ call o b keeps told refuses sink full outputs =>
      have htells := Consultation.tells_iff told
      rw [outputs]
      refine ⟨keeps.set refuses sink _, ?_⟩
      intro kind hrefused b' hget
      rw [Option.toList_some, ← linesTo_eq_nil_iff]
      rw [Outputs.get_set] at hget
      by_cases hkind : kind = call.change.kind
      · -- the buffer is full, and the call that filled it is one of those made
        rw [if_pos hkind] at hget
        rw [← Option.some.inj hget, hkind]
        have hfilled := List.length_take_of_le (Nat.le_of_lt full)
        constructor
        · intro hnil
          exact absurd (hfilled.symm.trans (congrArg List.length hnil)) (by decide)
        · intro hnil
          rw [hnil] at full
          exact absurd full (Nat.not_lt_zero _)
      · rw [if_neg hkind] at hget
        rw [linesTo_concat_of_quiet (fun hc => hkind ((htells kind).mp hc)),
          (keeps.waiting kind hrefused b' hget).1]

/-- The fault of finishing the buffer of a kind of which deliveries are refused. -/
def Outputs.refusal (o : Outputs) (refused : List ChangeKind) (kind : ChangeKind) :
    Option Fault :=
  if kind ∈ refused then
    (o.get kind).bind fun b =>
      if b.pending = [] then .none else some (.unwritable b.path .refused)
  else .none

/-- **Finishing the buffer of a kind** delivers what was collected, or reports that it was refused,
    unless something was reported before. -/
theorem Outputs.finishKind_memory (o : Outputs) {w : σ × Shelf} (h : w.2.refused = refused)
    (reported : Option Fault) (kind : ChangeKind) :
    ∃ w', o.finishKind (memoryStage options observer) (w, reported) kind =
        (w', reported.or (o.refusal refused kind)) ∧
      w'.2.refused = refused ∧ w'.1 = w.1 ∧
      ∀ k, w'.2.get k =
        if k = kind ∧ kind ∉ refused then o.collected w.2.get k else w.2.get k := by
  by_cases hrefused : kind ∈ refused
  · refine ⟨w, ?_, h, rfl, fun k => (if_neg fun hc => hc.2 hrefused).symm⟩
    rw [Outputs.refusal, if_pos hrefused]
    cases hget : o.get kind with
    | none => simp only [Outputs.finishKind, hget, Option.bind_none, Option.or_none]
    | some b =>
        have hfinish := Buffer.finish_refused
          (deliver_refused options observer (w := w) (by rw [h]; exact hrefused)) b
        simp only [Outputs.finishKind, hget, hfinish, Option.bind_some]
  · obtain ⟨w', hfinish, hready, hstate, hheld⟩ :=
      (faithful_refusing options observer refused).finishKind_spec w o reported kind h
        fun _ => hrefused
    refine ⟨w', ?_, hready, hstate, ?_⟩
    · rw [hfinish, Outputs.refusal, if_neg hrefused, Option.or_none]
    · intro k
      refine (hheld k).trans ?_
      by_cases hk : k = kind
      · rw [if_pos hk, if_pos ⟨hk, hrefused⟩]
        rfl
      · rw [if_neg hk, if_neg (fun hc => hk hc.1)]
        rfl

/-- Finishing the buffers of several kinds finishes each once, and reports the first fault. -/
theorem Outputs.foldl_finishKind (o : Outputs) {kinds : List ChangeKind} (hnodup : kinds.Nodup)
    {w : σ × Shelf} (h : w.2.refused = refused) (reported : Option Fault) :
    ∃ w', kinds.foldl (o.finishKind (memoryStage options observer)) (w, reported) =
        (w', reported.or (kinds.findSome? (o.refusal refused))) ∧ w'.1 = w.1 ∧
      ∀ k, w'.2.get k =
        if k ∈ kinds ∧ k ∉ refused then o.collected w.2.get k else w.2.get k := by
  induction kinds generalizing w reported with
  | nil =>
      refine ⟨w, ?_, rfl, fun k => (if_neg fun hc => nomatch hc.1).symm⟩
      rw [List.foldl_nil, List.findSome?_nil, Option.or_none]
  | cons kind rest ih =>
      obtain ⟨hkind, hrest⟩ := List.nodup_cons.mp hnodup
      obtain ⟨w₁, hfinish, hrefusing, hstate₁, hget₁⟩ :=
        o.finishKind_memory options observer h reported kind
      obtain ⟨w', hrun, hstate, hget⟩ := ih hrest hrefusing (reported.or (o.refusal refused kind))
      refine ⟨w', ?_, hstate.trans hstate₁, ?_⟩
      · rw [List.foldl_cons, hfinish, hrun, Option.or_assoc, List.findSome?_cons]
        cases o.refusal refused kind <;> rfl
      · intro k
        rw [hget]
        by_cases hk : k = kind
        · -- this buffer is not finished again
          rw [if_neg (fun hc => hkind (hk ▸ hc.1)), hget₁]
          simp only [hk, true_and, List.mem_cons, true_or]
        · have hsame : w₁.2.get k = w.2.get k := by
            rw [hget₁, if_neg (fun hc => hk hc.1)]
          rw [Outputs.collected, hsame, ← Outputs.collected]
          simp only [List.mem_cons, hk, false_or]

/-- **Finishing delivers all that was collected for the sinks that take it**, and reports the first
    of the others that has something held back. -/
theorem Outputs.Holds.finish {w : σ × Shelf} {o : Outputs} (h : o.Holds sinks refused handled w.2) :
    ∃ w', o.finish (memoryStage options observer) w =
        (w', ChangeKind.all.findSome? (o.refusal refused)) ∧ w'.1 = w.1 ∧
      ∀ kind, w'.2.get kind =
        if (sinks.get kind).isSome ∧ kind ∉ refused then linesTo kind handled else [] := by
  have hnodup : ChangeKind.all.Nodup := by decide
  obtain ⟨w', hfinish, hstate, hget⟩ :=
    o.foldl_finishKind options observer hnodup h.refusing .none
  refine ⟨w', hfinish, hstate, ?_⟩
  intro kind
  rw [hget]
  by_cases hrefused : kind ∈ refused
  · rw [if_neg (fun hc => hc.2 hrefused), if_neg (fun hc => hc.2 hrefused),
      h.nothing kind hrefused]
  · rw [if_pos ⟨kind.mem_all, hrefused⟩, h.taken kind hrefused]
    simp only [hrefused, not_false_eq_true, and_true]

/-- What is reported of a kind of which deliveries are refused. -/
theorem Outputs.Left.refusal_eq {shelf : Shelf} {o : Outputs}
    (h : o.Left sinks refused handled made shelf) (kind : ChangeKind) :
    o.refusal refused kind = (sinks.get kind).bind fun path =>
      if kind ∈ refused ∧ made.any (Consultation.tells kind) = true then
        some (.unwritable path .refused)
      else .none := by
  rw [Outputs.refusal, ← h.paths]
  cases hget : o.get kind with
  | none => exact ite_self _
  | some b =>
      by_cases hrefused : kind ∈ refused
      · have hempty : b.pending = [] ↔ ¬ made.any (Consultation.tells kind) = true := by
          rw [h.waiting kind hrefused b hget, List.any_eq_true]
          exact ⟨fun hall ⟨call, hmem, htells⟩ => hall call hmem htells,
            fun hnone call hmem htells => hnone ⟨call, hmem, htells⟩⟩
        by_cases htold : made.any (Consultation.tells kind) = true
        · simp [hrefused, htold, hempty]
        · simp [hrefused, htold, hempty]
      · simp [hrefused]

/-- What finishing reports when some calls were made: the first sink, in the order in which they are
    finished, that refuses its deliveries and to which some change was let through. -/
def DiffSinks.firstRefusal (sinks : DiffSinks) (refused : List ChangeKind)
    (made : List Consultation) : Option Fault :=
  ChangeKind.all.findSome? fun kind =>
    (sinks.get kind).bind fun path =>
      if kind ∈ refused ∧ made.any (Consultation.tells kind) = true then
        some (.unwritable path .refused)
      else none

/-- **A pass and its finishing succeed just if nothing was for a sink that refuses.** -/
theorem Progress.Ends.succeeds_iff {p : Progress (σ × Shelf)} {after : List Change}
    {failing : Option Consultation} {fault : Option Fault}
    (h : p.Ends sinks refused handled after failing fault) :
    fault = none ∧ sinks.firstRefusal refused (handled ++ failing.toList) = none ↔
      ∀ kind ∈ refused, (sinks.get kind).isSome →
        ¬ (handled ++ failing.toList).any (Consultation.tells kind) = true := by
  rw [DiffSinks.firstRefusal, List.findSome?_eq_none_iff]
  constructor
  · rintro ⟨-, hlost⟩ kind hrefused hsome htold
    obtain ⟨path, hpath⟩ := Option.isSome_iff_exists.mp hsome
    have hnone := hlost kind kind.mem_all
    rw [hpath, Option.bind_some, if_pos ⟨hrefused, htold⟩] at hnone
    exact nomatch hnone
  · intro hnone
    constructor
    · cases h with
      | passed keeps => rfl
      | @stopped _ call o b keeps told refuses sink full outputs =>
          -- the call that does not fit was let through
          refine absurd ?_ (hnone call.change.kind refuses (by rw [keeps.path_eq sink]; rfl))
          rw [List.any_append, Bool.or_eq_true]
          refine Or.inr (List.any_eq_true.mpr ⟨call, List.mem_singleton.mpr rfl, ?_⟩)
          exact (Consultation.tells_iff told _).mpr rfl
    · intro kind _
      cases hpath : sinks.get kind with
      | none => rfl
      | some path =>
          have hsome : (sinks.get kind).isSome = true := by rw [hpath]; rfl
          exact if_neg fun hc => hnone kind hc.1 hsome hc.2

end

variable {σ : Type}

/-- **A refusing sink does not damage the others.**  Whichever sinks there are and refuse, and
    whatever the observer answers, a pass handles the changes up to their end, up to where the
    observer breaks off, or up to the first whose line does not fit into the buffer of a sink that
    refuses it, which is then the fault of the pass.  Finishing leaves in each sink that takes its
    deliveries the lines of its kind that were handled, in order, and nothing in the others.  Both
    succeed just if no change that the observer let through was for a sink that refuses, and what
    finishing reports is the first such sink. -/
theorem diffRows_refused {old new : Keyed} (hold : old.Full) (hnew : new.Full)
    (options : DiffOptions) (observer : Observer σ) (s : σ) (sinks : DiffSinks)
    (refused : List ChangeKind) :
    ∃ p fault world lost before after handled failing,
      diffRows (memoryStage options observer) options old new (s, .empty refused)
        (.opened sinks) = (p, fault) ∧
      p.outputs.finish (memoryStage options observer) p.world = (world, lost) ∧
      changes old new = before ++ after ∧
      consult observer options s before = (p.world.1, handled ++ failing.toList) ∧
      p.summary.Accounts handled ∧
      (failing = none → after = [] ∧ fault = none) ∧
      (∀ call, failing = some call →
        call.answer = .proceed ∧ call.change.kind ∈ refused ∧
        bufferSize < (linesTo call.change.kind (handled ++ [call])).length ∧
        ∃ path, sinks.get call.change.kind = some path ∧
          fault = some (.feed path (.storage .refused))) ∧
      (∀ kind ∈ refused, (sinks.get kind).isSome →
        (linesTo kind handled).length ≤ bufferSize) ∧
      (∀ kind, world.2.get kind =
        if (sinks.get kind).isSome ∧ kind ∉ refused then
          (handled.filter (Consultation.tells kind)).flatMap
            fun call => encodeUtf8 (call.row.encode ++ "\n")
        else []) ∧
      (fault = none ∧ lost = none ↔
        ∀ kind ∈ refused, (sinks.get kind).isSome →
          ¬ (handled ++ failing.toList).any (Consultation.tells kind) = true) ∧
      lost = sinks.firstRefusal refused (handled ++ failing.toList) := by
  obtain ⟨p, fault, before, after, handled, failing, hrun, hsplit, hcalls, hsum, hends⟩ :=
    Outputs.Keeps.run options observer (w := (s, .empty refused))
      (Outputs.keeps_opened sinks refused) .zero (changes old new)
  rw [List.nil_append] at hends
  have hleft := hends.left
  obtain ⟨world, hfinish, -, hget⟩ := hleft.finish options observer
  rw [funext hleft.refusal_eq] at hfinish
  have hfull : ∀ call ∈ handled, call.row.Full := by
    intro call hcall
    have hmem : call.change ∈ before := by
      refine (consulted_consult observer options s before).mem_changes ?_
      rw [hcalls]
      exact List.mem_append_left _ hcall
    refine full_format_of_mem_changes hold hnew call.options ?_
    rw [hsplit]
    exact List.mem_append_left _ hmem
  refine ⟨p, fault, world, _, before, after, handled, failing, hrun, hfinish, hsplit, hcalls,
    ?_, ?_, ?_, ?_, ?_, ?_, rfl⟩
  · rw [hsum]
    exact DiffSummary.accounts_zero.foldl_tally handled
  · rintro rfl
    cases hends with
    | passed keeps => exact ⟨rfl, rfl⟩
  · rintro call rfl
    cases hends with
    | stopped keeps told refuses sink full outputs =>
        exact ⟨told, refuses, full, _, keeps.path_eq sink, rfl⟩
  · intro kind hrefused hsome
    cases hends with
    | passed keeps => exact keeps.length_le hrefused hsome
    | stopped keeps told refuses sink full outputs => exact keeps.length_le hrefused hsome
  · intro kind
    rw [hget, linesTo_of_full kind hfull]
  · exact hends.succeeds_iff

/-- One deletion and one creation, to sinks of which the first refuses. -/
theorem diffRows_refused_deletion :
    let old := Keyed.ofRows [Row.about "A" "1"]
    let new := Keyed.ofRows [Row.about "B" "1"]
    let observer : Observer Nat := .always
    let stage := memoryStage ⟨false⟩ observer
    old.Full ∧ new.Full ∧
      ∃ p fault world lost handled,
        diffRows stage ⟨false⟩ old new (0, .empty [.delete])
          (.opened ⟨some "create", some "delete", none⟩) = (p, fault) ∧
        p.outputs.finish stage p.world = (world, lost) ∧ p.summary.Accounts handled ∧
        world.2.get .delete = [] ∧
        world.2.get .create = (handled.filter (Consultation.tells .create)).flatMap
          fun call => encodeUtf8 (call.row.encode ++ "\n") := by
  intro old new observer stage
  have hold : old.Full := Keyed.full_ofRows (by decide)
  have hnew : new.Full := Keyed.full_ofRows (by decide)
  obtain ⟨p, fault, world, lost, -, -, handled, -, hrun, hfinish, -, -, hsummary, -, -, -, hget,
      -⟩ :=
    diffRows_refused hold hnew ⟨false⟩ observer 0 ⟨some "create", some "delete", none⟩ [.delete]
  exact ⟨hold, hnew, p, fault, world, lost, handled, hrun, hfinish, hsummary, hget .delete,
    hget .create⟩

end CourseFeed
