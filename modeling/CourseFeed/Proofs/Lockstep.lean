import CourseFeed.Reconcile.Pass

/-!
# Passes in lockstep

Two stages may be of different make and still do the same step by step, as far as a relation between
their states says: they get the same answers, and no delivery to either is refused.  Then two passes
that start in related states end in related states, with the same buffers and the same summary.

* **`Stage.Lockstep`** — each act of one stage goes along with the same act of the other.
* **`Lockstep.drain`**, **`Lockstep.write`**, **`Lockstep.finish`** — so do writing a row and
  finishing all buffers.
* **`Lockstep.run`** — by induction on the changes, so do runs.
-/

namespace CourseFeed

open CourseFeed.Feed

/-- The acts of two stages go along with each other: they keep two states related, and no delivery
    is refused. -/
structure Stage.Lockstep {ω τ : Type} (related : ω → τ → Prop) (stage : Stage ω)
    (stage' : Stage τ) : Prop where
  observe : ∀ (w : ω) (t : τ) (c : Change), related w t →
    ∃ w' t' answer, stage.observe w c = (w', answer) ∧ stage'.observe t c = (t', answer) ∧
      related w' t'
  deliver : ∀ (kind : ChangeKind) (w : ω) (t : τ) (bytes : List UInt8), related w t →
    ∃ w' t', stage.deliver kind w bytes = .ok w' ∧ stage'.deliver kind t bytes = .ok t' ∧
      related w' t'
  note : ∀ (w : ω) (t : τ) (entry : JournalEntry), related w t →
    related (stage.note w entry) (stage'.note t entry)

namespace Stage.Lockstep

variable {ω τ : Type} {related : ω → τ → Prop} {stage : Stage ω} {stage' : Stage τ}

/-! ## One row -/

/-- Draining delivers the same and holds the same back. -/
theorem drain (h : stage.Lockstep related stage') (kind : ChangeKind) {w : ω} {t : τ}
    (hrelated : related w t) (bytes : List UInt8) :
    ∃ w' t' rest, Feed.drain (stage.deliver kind) w bytes = (w', rest, none) ∧
      Feed.drain (stage'.deliver kind) t bytes = (t', rest, none) ∧ related w' t' := by
  -- by induction on the number of bytes, since each round takes a whole block away
  induction hn : bytes.length using Nat.strongRecOn generalizing w t bytes with
  | ind n ih =>
      rw [Feed.drain, Feed.drain]
      by_cases hfit : bytes.length ≤ bufferSize
      · rw [dif_pos hfit, dif_pos hfit]
        exact ⟨w, t, bytes, rfl, rfl, hrelated⟩
      · rw [dif_neg hfit, dif_neg hfit]
        obtain ⟨w₁, t₁, hok, hok', hrelated₁⟩ :=
          h.deliver kind w t (bytes.take bufferSize) hrelated
        rw [hok, hok']
        have hless : (bytes.drop bufferSize).length < n := by
          rw [List.length_drop, ← hn]
          have hpos : 0 < bufferSize := by decide
          omega
        exact ih _ hless hrelated₁ (bytes.drop bufferSize) rfl

/-- Writing a row leaves the same buffers. -/
theorem write (h : stage.Lockstep related stage') {w : ω} {t : τ} (hrelated : related w t)
    (o : Outputs) (kind : ChangeKind) (row : Row) :
    ∃ w' t' o', o.write stage w kind row = (w', o', none) ∧
      o.write stage' t kind row = (t', o', none) ∧ related w' t' := by
  cases hget : o.get kind with
  | none =>
      refine ⟨w, t, o, ?_, ?_, hrelated⟩
      · simp only [Outputs.write, hget]
      · simp only [Outputs.write, hget]
  | some b =>
      obtain ⟨w', t', rest, hdrain, hdrain', hrelated'⟩ :=
        h.drain kind hrelated (b.pending ++ rowBytes row)
      refine ⟨w', t', o.set kind { b with pending := rest }, ?_, ?_, hrelated'⟩
      · simp only [Outputs.write, hget, Buffer.write, hdrain]
        rfl
      · simp only [Outputs.write, hget, Buffer.write, hdrain']
        rfl

/-! ## The end of a pass -/

/-- Finishing the buffer of a kind reports nothing. -/
theorem finishKind (h : stage.Lockstep related stage') {w : ω} {t : τ} (hrelated : related w t)
    (o : Outputs) (kind : ChangeKind) :
    ∃ w' t', o.finishKind stage (w, none) kind = (w', none) ∧
      o.finishKind stage' (t, none) kind = (t', none) ∧ related w' t' := by
  cases hget : o.get kind with
  | none =>
      refine ⟨w, t, ?_, ?_, hrelated⟩
      · simp only [Outputs.finishKind, hget]
      · simp only [Outputs.finishKind, hget]
  | some b =>
      by_cases hempty : b.pending.isEmpty = true
      · refine ⟨w, t, ?_, ?_, hrelated⟩
        · simp only [Outputs.finishKind, hget, Buffer.finish, if_pos hempty, Option.or]
        · simp only [Outputs.finishKind, hget, Buffer.finish, if_pos hempty, Option.or]
      · obtain ⟨w', t', hok, hok', hrelated'⟩ := h.deliver kind w t b.pending hrelated
        refine ⟨w', t', ?_, ?_, hrelated'⟩
        · simp only [Outputs.finishKind, hget, Buffer.finish, if_neg hempty, hok, Option.or]
        · simp only [Outputs.finishKind, hget, Buffer.finish, if_neg hempty, hok', Option.or]

/-- Finishing all buffers reports nothing. -/
theorem finish (h : stage.Lockstep related stage') {w : ω} {t : τ} (hrelated : related w t)
    (o : Outputs) :
    ∃ w' t', o.finish stage w = (w', none) ∧ o.finish stage' t = (t', none) ∧ related w' t' := by
  have hfold : ∀ (kinds : List ChangeKind) {w : ω} {t : τ}, related w t →
      ∃ w' t', kinds.foldl (o.finishKind stage) (w, none) = (w', none) ∧
        kinds.foldl (o.finishKind stage') (t, none) = (t', none) ∧ related w' t' := by
    intro kinds
    induction kinds with
    | nil => intro w t hrelated; exact ⟨w, t, rfl, rfl, hrelated⟩
    | cons kind rest ih =>
        intro w t hrelated
        obtain ⟨w₁, t₁, hfinish, hfinish', hrelated₁⟩ := h.finishKind hrelated o kind
        rw [List.foldl_cons, List.foldl_cons, hfinish, hfinish']
        exact ih hrelated₁
  exact hfold ChangeKind.all hrelated

/-! ## Whole runs -/

/-- **Two runs that start in related states end in related states**, with the same buffers and the
    same summary, and without a fault. -/
theorem run (h : stage.Lockstep related stage') (options : DiffOptions) {w : ω} {t : τ}
    (hrelated : related w t) (o : Outputs) (summary : DiffSummary) (cs : List Change) :
    ∃ w' t' o' summary',
      Progress.run stage options ⟨w, o, summary⟩ cs = (⟨w', o', summary'⟩, none) ∧
      Progress.run stage' options ⟨t, o, summary⟩ cs = (⟨t', o', summary'⟩, none) ∧
      related w' t' := by
  induction cs generalizing w t o summary with
  | nil => exact ⟨w, t, o, summary, rfl, rfl, hrelated⟩
  | cons c rest ih =>
      obtain ⟨w₁, t₁, answer, hobserve, hobserve', hrelated₁⟩ := h.observe w t c hrelated
      cases answer with
      | proceed =>
          obtain ⟨w₂, t₂, o₂, hwrite, hwrite', hrelated₂⟩ :=
            h.write hrelated₁ o c.kind (c.format options)
          obtain ⟨w', t', o', summary', hrun, hrun', hrelated'⟩ :=
            ih hrelated₂ o₂ (summary.count c.kind (c.format options))
          refine ⟨w', t', o', summary', ?_, ?_, hrelated'⟩
          · simp only [Progress.run, hobserve, Progress.tell, hwrite, hrun]
          · simp only [Progress.run, hobserve', Progress.tell, hwrite', hrun']
      | skip =>
          obtain ⟨w', t', o', summary', hrun, hrun', hrelated'⟩ :=
            ih (h.note w₁ t₁ (.plain .debug diffPart
              ("Skipping " ++ c.kind.name ++ " of " ++ c.key.text)) hrelated₁) o summary.skip
          refine ⟨w', t', o', summary', ?_, ?_, hrelated'⟩
          · simp only [Progress.run, hobserve]
            exact hrun
          · simp only [Progress.run, hobserve']
            exact hrun'
      | abort =>
          refine ⟨_, _, o, summary.abort, ?_, ?_, h.note w₁ t₁
            (.plain .info diffPart ("Diff aborted at " ++ c.key.text)) hrelated₁⟩
          · simp only [Progress.run, hobserve, Progress.abort]
          · simp only [Progress.run, hobserve', Progress.abort]

end Stage.Lockstep

end CourseFeed
