import CourseFeed.Reconcile.Memory

/-!
# What an observer is asked

An observer is asked about one change after the other until it breaks off.  This file says what it
is asked and answers, and what the counts of a pass have to do with it, without looking at where
anything is written.

* **`consult`** — the calls of an observer about a list of changes, in order, and the state it is
  left in.
* **`Consulted`** — the calls take up the list from its start, ask about each change once, and end
  at the first answer that breaks off, else at the end of the list (**`consulted_consult`**).
* **`consult_of_answers`** — the calls of an observer whose answers depend on the changes alone.
* **`DiffSummary.Accounts`** — a summary counts the calls by their answers; a call more keeps the
  accounts (**`Accounts.tally`**), and so the calls of a whole pass do.
* **`length_calls_eq_total`** — the number of calls is that of the changes told or skipped, and one
  more if the observer broke off.
* **`Observer.recorded`** — an observer that also keeps its calls; recording changes no answer
  (**`consult_recorded`**).
-/

namespace CourseFeed

variable {σ : Type}

/-- What an observer was asked, and its answer. -/
structure Consultation where
  change : Change
  options : DiffOptions
  answer : Flow
  deriving Repr, DecidableEq

/-- Whether a call lets a change of a kind be told. -/
def Consultation.tells (kind : ChangeKind) (call : Consultation) : Bool :=
  call.answer = .proceed ∧ call.change.kind = kind

theorem Consultation.tells_iff {call : Consultation} (h : call.answer = .proceed)
    (kind : ChangeKind) : call.tells kind = true ↔ kind = call.change.kind := by
  rw [Consultation.tells, decide_eq_true_iff]
  constructor
  · rintro ⟨-, hkind⟩
    exact hkind.symm
  · rintro rfl
    exact ⟨h, rfl⟩

/-- The row by which the change of a call is told. -/
def Consultation.row (call : Consultation) : Row := call.change.format call.options

/-- Asks an observer about changes up to the first at which it breaks off: the state it is left in,
    and the calls. -/
def consult (observer : Observer σ) (options : DiffOptions) :
    σ → List Change → σ × List Consultation
  | s, [] => (s, [])
  | s, c :: rest =>
    let (s, answer) := observer s c options
    if answer = .abort then (s, [⟨c, options, answer⟩])
    else
      let (s, calls) := consult observer options s rest
      (s, ⟨c, options, answer⟩ :: calls)

/-! ## One call -/

theorem consult_cons_of_abort {observer : Observer σ} {options : DiffOptions} {s s' : σ}
    {c : Change} (rest : List Change) (h : observer s c options = (s', .abort)) :
    consult observer options s (c :: rest) = (s', [⟨c, options, .abort⟩]) := by
  simp only [consult, h, if_true]

theorem consult_cons_of_ne {observer : Observer σ} {options : DiffOptions} {s s' : σ}
    {answer : Flow} {c : Change} (rest : List Change) (h : observer s c options = (s', answer))
    (hgo : answer ≠ .abort) :
    consult observer options s (c :: rest) =
      ((consult observer options s' rest).1,
        ⟨c, options, answer⟩ :: (consult observer options s' rest).2) := by
  simp only [consult, h, if_neg hgo]

/-! ## All calls -/

/-- The calls ask about a list of changes in order and once each, from its start up to the first
    answer that breaks off, and to its end if there is none. -/
structure Consulted (options : DiffOptions) (cs : List Change) (calls : List Consultation) :
    Prop where
  changes_eq : calls.map Consultation.change = cs.take calls.length
  options_eq : ∀ call ∈ calls, call.options = options
  abort_last : ∀ call ∈ calls.dropLast, call.answer ≠ .abort
  to_the_end : (∀ call ∈ calls, call.answer ≠ .abort) → calls.length = cs.length

/-- What is asked about is the list, or a part of it. -/
theorem Consulted.sublist {options : DiffOptions} {cs : List Change} {calls : List Consultation}
    (h : Consulted options cs calls) : (calls.map Consultation.change).Sublist cs := by
  rw [h.changes_eq]
  exact List.take_sublist _ _

/-- What is asked about is in the list. -/
theorem Consulted.mem_changes {options : DiffOptions} {cs : List Change}
    {calls : List Consultation} (h : Consulted options cs calls) {call : Consultation}
    (hcall : call ∈ calls) : call.change ∈ cs :=
  h.sublist.subset (List.mem_map.mpr ⟨call, hcall, rfl⟩)

/-- **An observer is asked in order, once about each change, and never after it broke off.** -/
theorem consulted_consult (observer : Observer σ) (options : DiffOptions) (s : σ)
    (cs : List Change) : Consulted options cs (consult observer options s cs).2 := by
  induction cs generalizing s with
  | nil =>
      refine ⟨rfl, ?_, ?_, fun _ => rfl⟩
      · intro call hcall; exact nomatch hcall
      · intro call hcall; exact nomatch hcall
  | cons c rest ih =>
      obtain ⟨s', answer, hobs⟩ : ∃ s' answer, observer s c options = (s', answer) :=
        ⟨_, _, rfl⟩
      by_cases habort : answer = .abort
      · subst habort
        rw [consult_cons_of_abort rest hobs]
        refine ⟨rfl, ?_, ?_, ?_⟩
        · intro call hcall
          rw [List.mem_singleton.mp hcall]
        · intro call hcall; exact nomatch hcall
        · intro hnone
          exact absurd rfl (hnone _ List.mem_cons_self)
      · rw [consult_cons_of_ne rest hobs habort]
        obtain ⟨hchanges, hoptions, hlast, hend⟩ := ih s'
        refine ⟨?_, ?_, ?_, ?_⟩
        · simp only [List.map_cons, List.length_cons, List.take_succ_cons, hchanges]
        · intro call hcall
          rcases List.mem_cons.mp hcall with heq | hmem
          · rw [heq]
          · exact hoptions call hmem
        · intro call hcall
          -- the call at the front is the last one only if nothing was asked after it
          cases hcalls : (consult observer options s' rest).2 with
          | nil =>
              rw [hcalls] at hcall
              exact nomatch hcall
          | cons call' calls' =>
              rw [hcalls, List.dropLast_cons_cons] at hcall
              rcases List.mem_cons.mp hcall with heq | hmem
              · rw [heq]; exact habort
              · exact hlast call (by rw [hcalls]; exact hmem)
        · intro hnone
          have htail : ∀ call ∈ (consult observer options s' rest).2, call.answer ≠ .abort :=
            fun call hcall => hnone call (List.mem_cons_of_mem _ hcall)
          simp only [List.length_cons, hend htail]

/-- **An observer whose answers depend on the changes alone**, and that never breaks off, is asked
    about all of them. -/
theorem consult_of_answers {observer : Observer σ} {options : DiffOptions} {answer : Change → Flow}
    (hanswer : ∀ s c, (observer s c options).2 = answer c) (hgo : ∀ c, answer c ≠ .abort) (s : σ)
    (cs : List Change) :
    (consult observer options s cs).2 = cs.map fun c => ⟨c, options, answer c⟩ := by
  induction cs generalizing s with
  | nil => rfl
  | cons c rest ih =>
      have hc : observer s c options = ((observer s c options).1, answer c) := by
        rw [← hanswer s c]
      rw [consult_cons_of_ne rest hc (hgo c), ih, List.map_cons]

/-! ## Counting calls -/

namespace DiffSummary

/-- The number of changes of a kind that were told. -/
def told (s : DiffSummary) : ChangeKind → Nat
  | .create => s.created
  | .delete => s.deleted
  | .update => s.updated

/-- A summary after one more call. -/
def tally (s : DiffSummary) (call : Consultation) : DiffSummary :=
  match call.answer with
  | .proceed => s.count call.change.kind call.row
  | .skip => s.skip
  | .abort => s.abort

/-- Whether a call tells a creation by a row that is marked as a rollover. -/
def rollsOver (call : Consultation) : Bool :=
  call.tells .create && call.row.operationCode = Operation.rollover.code

theorem told_tally (s : DiffSummary) (call : Consultation) (kind : ChangeKind) :
    (s.tally call).told kind = s.told kind + if call.tells kind then 1 else 0 := by
  obtain ⟨c, options, answer⟩ := call
  cases answer with
  | proceed =>
      cases hc : c.kind <;> cases kind <;>
        simp [tally, count, told, Consultation.tells, hc]
  | skip => cases kind <;> simp [tally, skip, told, Consultation.tells]
  | abort => cases kind <;> simp [tally, abort, told, Consultation.tells]

theorem skipped_tally (s : DiffSummary) (call : Consultation) :
    (s.tally call).skipped = s.skipped + if call.answer = .skip then 1 else 0 := by
  obtain ⟨c, options, answer⟩ := call
  cases answer with
  | proceed => cases hc : c.kind <;> simp [tally, count, hc]
  | skip => rfl
  | abort => rfl

theorem rolledOver_tally (s : DiffSummary) (call : Consultation) :
    (s.tally call).rolledOver = s.rolledOver + if rollsOver call then 1 else 0 := by
  obtain ⟨c, options, answer⟩ := call
  cases answer with
  | proceed =>
      cases hc : c.kind with
      | create =>
          by_cases hop : (Consultation.row ⟨c, options, .proceed⟩).operationCode =
            Operation.rollover.code
          · simp [tally, count, rollsOver, Consultation.tells, hc, hop]
          · simp [tally, count, rollsOver, Consultation.tells, hc, hop]
      | delete => simp [tally, count, rollsOver, Consultation.tells, hc]
      | update => simp [tally, count, rollsOver, Consultation.tells, hc]
  | skip => simp [tally, skip, rollsOver, Consultation.tells]
  | abort => simp [tally, abort, rollsOver, Consultation.tells]

theorem aborted_tally (s : DiffSummary) (call : Consultation) :
    (s.tally call).aborted = true ↔ s.aborted = true ∨ call.answer = .abort := by
  obtain ⟨c, options, answer⟩ := call
  cases answer with
  | proceed => cases hc : c.kind <;> simp [tally, count, hc]
  | skip => simp [tally, skip]
  | abort => simp [tally, abort]

/-- A summary counts calls: those of each kind that were told, those that were skipped and the
    rollovers, and it says whether some answer broke off. -/
structure Accounts (s : DiffSummary) (calls : List Consultation) : Prop where
  told : ∀ kind, s.told kind = calls.countP (Consultation.tells kind)
  skipped : s.skipped = calls.countP fun call => call.answer = .skip
  rolledOver : s.rolledOver = calls.countP rollsOver
  aborted : s.aborted = true ↔ ∃ call ∈ calls, call.answer = .abort

theorem accounts_zero : zero.Accounts [] where
  told := by
    intro kind
    cases kind <;> rfl
  skipped := rfl
  rolledOver := rfl
  aborted := by
    constructor
    · intro h; exact nomatch h
    · rintro ⟨call, hcall, -⟩; exact nomatch hcall

/-- One more call keeps the accounts. -/
theorem Accounts.tally {s : DiffSummary} {calls : List Consultation} (h : s.Accounts calls)
    (call : Consultation) : (s.tally call).Accounts (calls ++ [call]) where
  told := by
    intro kind
    rw [told_tally, h.told, List.countP_append, List.countP_singleton]
  skipped := by
    rw [skipped_tally, h.skipped, List.countP_append, List.countP_singleton]
    simp
  rolledOver := by
    rw [rolledOver_tally, h.rolledOver, List.countP_append, List.countP_singleton]
  aborted := by
    rw [aborted_tally, h.aborted]
    constructor
    · rintro (⟨call', hcall', habort⟩ | habort)
      · exact ⟨call', List.mem_append_left _ hcall', habort⟩
      · exact ⟨call, List.mem_append_right _ List.mem_cons_self, habort⟩
    · rintro ⟨call', hcall', habort⟩
      rcases List.mem_append.mp hcall' with hmem | hlast
      · exact Or.inl ⟨call', hmem, habort⟩
      · rw [List.mem_singleton.mp hlast] at habort
        exact Or.inr habort

/-- A summary is determined by the calls that it counts, in whatever order these are. -/
theorem Accounts.eq_of_perm {s s' : DiffSummary} {calls calls' : List Consultation}
    (h : s.Accounts calls) (h' : s'.Accounts calls') (hperm : calls.Perm calls') : s = s' := by
  have htold : ∀ kind, s.told kind = s'.told kind := by
    intro kind
    rw [h.told, h'.told, hperm.countP_eq]
  have hskipped : s.skipped = s'.skipped := by
    rw [h.skipped, h'.skipped, hperm.countP_eq]
  have hrolledOver : s.rolledOver = s'.rolledOver := by
    rw [h.rolledOver, h'.rolledOver, hperm.countP_eq]
  have haborted : s.aborted = s'.aborted := by
    rw [Bool.eq_iff_iff, h.aborted, h'.aborted]
    simp only [hperm.mem_iff]
  have hcreated : s.created = s'.created := htold .create
  have hdeleted : s.deleted = s'.deleted := htold .delete
  have hupdated : s.updated = s'.updated := htold .update
  obtain ⟨created, rolledOver, updated, deleted, skipped, aborted⟩ := s
  simp_all only

/-- All calls of a pass keep the accounts. -/
theorem Accounts.foldl_tally {s : DiffSummary} {calls : List Consultation} (h : s.Accounts calls)
    (more : List Consultation) : (more.foldl DiffSummary.tally s).Accounts (calls ++ more) := by
  induction more generalizing s calls with
  | nil => rw [List.append_nil]; exact h
  | cons call rest ih =>
      have := ih (h.tally call)
      rw [List.append_assoc] at this
      exact this

end DiffSummary

/-- Each call is told in one way, skipped, or breaks off. -/
theorem length_eq_countP (calls : List Consultation) :
    calls.length =
      calls.countP (Consultation.tells .create) + calls.countP (Consultation.tells .update) +
        calls.countP (Consultation.tells .delete) +
        calls.countP (fun call => call.answer = .skip) +
        calls.countP (fun call => call.answer = .abort) := by
  induction calls with
  | nil => rfl
  | cons call rest ih =>
      obtain ⟨c, options, answer⟩ := call
      have hone : 1 =
          (if Consultation.tells .create ⟨c, options, answer⟩ then 1 else 0) +
            (if Consultation.tells .update ⟨c, options, answer⟩ then 1 else 0) +
            (if Consultation.tells .delete ⟨c, options, answer⟩ then 1 else 0) +
            (if answer = .skip then 1 else 0) + (if answer = .abort then 1 else 0) := by
        cases answer with
        | proceed => cases hc : c.kind <;> simp [Consultation.tells, hc]
        | skip => simp [Consultation.tells]
        | abort => simp [Consultation.tells]
      simp only [List.length_cons, List.countP_cons, decide_eq_true_eq]
      omega

/-- An answer that breaks off is the last one, so there is at most one. -/
theorem Consulted.countP_abort {options : DiffOptions} {cs : List Change}
    {calls : List Consultation} (h : Consulted options cs calls) :
    (calls.countP fun call => call.answer = .abort) =
      if ∃ call ∈ calls, call.answer = .abort then 1 else 0 := by
  rcases List.eq_nil_or_concat calls with hnil | ⟨front, last, hconcat⟩
  · subst hnil
    simp
  · rw [List.concat_eq_append] at hconcat
    have hfront : (front.countP fun call => call.answer = .abort) = 0 := by
      rw [List.countP_eq_zero]
      intro call hcall
      have hne := h.abort_last call (by rw [hconcat, List.dropLast_concat]; exact hcall)
      simpa using hne
    have hany : (∃ call ∈ calls, call.answer = .abort) ↔ last.answer = .abort := by
      constructor
      · rintro ⟨call, hcall, habort⟩
        rw [hconcat] at hcall
        rcases List.mem_append.mp hcall with hmem | hlast
        · have hne := h.abort_last call (by rw [hconcat, List.dropLast_concat]; exact hmem)
          exact absurd habort hne
        · rw [List.mem_singleton.mp hlast] at habort
          exact habort
      · intro habort
        exact ⟨last, by rw [hconcat]; simp, habort⟩
    rw [hconcat, List.countP_append, hfront, List.countP_singleton, Nat.zero_add, ← hconcat]
    by_cases habort : last.answer = .abort
    · rw [if_pos (hany.mpr habort)]
      simp [habort]
    · rw [if_neg (fun hc => habort (hany.mp hc))]
      simp [habort]

/-- **The calls are the changes told or skipped, and the one at which the pass was broken off.** -/
theorem length_calls_eq_total {options : DiffOptions} {cs : List Change}
    {calls : List Consultation} {s : DiffSummary} (h : Consulted options cs calls)
    (hs : s.Accounts calls) : calls.length = s.total + if s.aborted then 1 else 0 := by
  have habort : (if s.aborted then 1 else 0) =
      if ∃ call ∈ calls, call.answer = .abort then 1 else 0 := by
    by_cases ha : s.aborted = true
    · rw [if_pos ha, if_pos (hs.aborted.mp ha)]
    · rw [if_neg ha, if_neg (fun hc => ha (hs.aborted.mpr hc))]
  rw [habort, ← h.countP_abort]
  have hcreate : s.created = _ := hs.told .create
  have hupdate : s.updated = _ := hs.told .update
  have hdelete : s.deleted = _ := hs.told .delete
  have hsplit := length_eq_countP calls
  rw [← hcreate, ← hupdate, ← hdelete, ← hs.skipped] at hsplit
  exact hsplit

/-! ## Keeping the calls -/

/-- An observer that keeps its calls beside its state. -/
def Observer.recorded (observer : Observer σ) : Observer (σ × List Consultation) :=
  fun (s, calls) c options =>
    let (s, answer) := observer s c options
    ((s, calls ++ [⟨c, options, answer⟩]), answer)

/-- Keeping the calls changes none of them, and the calls kept are those made. -/
theorem consult_recorded (observer : Observer σ) (options : DiffOptions) (s : σ)
    (kept : List Consultation) (cs : List Change) :
    consult observer.recorded options (s, kept) cs =
      (((consult observer options s cs).1, kept ++ (consult observer options s cs).2),
        (consult observer options s cs).2) := by
  induction cs generalizing s kept with
  | nil => simp [consult]
  | cons c rest ih =>
      obtain ⟨s', answer, hobs⟩ : ∃ s' answer, observer s c options = (s', answer) :=
        ⟨_, _, rfl⟩
      have hrec : observer.recorded (s, kept) c options =
          ((s', kept ++ [⟨c, options, answer⟩]), answer) := by
        simp only [Observer.recorded, hobs]
      by_cases habort : answer = .abort
      · subst habort
        rw [consult_cons_of_abort rest hrec, consult_cons_of_abort rest hobs]
      · rw [consult_cons_of_ne rest hrec habort, consult_cons_of_ne rest hobs habort, ih]
        simp

end CourseFeed
