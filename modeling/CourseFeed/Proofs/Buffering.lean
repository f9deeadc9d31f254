import CourseFeed.Feed.Writer

/-!
# Buffers lose nothing

A buffer hands its bytes on in whole blocks and holds back the rest.  Where deliveries are taken,
what was delivered and what is held back make up, at every moment, all that was ever written:

* **`Takes`** — deliveries are taken in the states of some kind, and each adds its bytes to what
  the state holds.  The kind of state may say anything that deliveries keep, so it also carries what
  they leave alone.
* **`drain_spec`**, **`Buffer.write_spec`** — writing adds the bytes to what is delivered and held
  back together, and at most one block is held back.
* **`Buffer.finish_spec`** — finishing delivers what is held back.
* **`Writer.writeRows_spec`** — a writer writes all rows it is given, in order, and
  **`Writer.writeAll_spec`**: also where it marks them.

Where deliveries may fail, but those that do not are taken (**`Appends`**), what was delivered and
what is held back are bytes from the start of those written (**`Buffer.write_prefix`**,
**`Writer.writeRows_prefix`**).  Where they are refused, a buffer still takes one block
(**`Buffer.write_refused`**); what is held back is lost when it is finished, with a fault
(**`Buffer.finish_refused`**).
-/

namespace CourseFeed.Feed

variable {ω : Type} {deliver : Deliver ω} {ready : ω → Prop} {held : ω → List UInt8}

/-- Deliveries are taken in the states that are `ready`, and each adds its bytes to what the state
    `held`. -/
def Takes (deliver : Deliver ω) (ready : ω → Prop) (held : ω → List UInt8) : Prop :=
  ∀ (world : ω) (bytes : List UInt8), ready world →
    ∃ world', deliver world bytes = .ok world' ∧ ready world' ∧ held world' = held world ++ bytes

/-- In the states that are `ready` a delivery may fail, but one that does not adds its bytes to what
    the state `held`. -/
def Appends (deliver : Deliver ω) (ready : ω → Prop) (held : ω → List UInt8) : Prop :=
  ∀ (world world' : ω) (bytes : List UInt8), ready world → deliver world bytes = .ok world' →
    ready world' ∧ held world' = held world ++ bytes

theorem Takes.appends (h : Takes deliver ready held) : Appends deliver ready held := by
  intro world world' bytes hready hok
  obtain ⟨w, hw, hready', hheld⟩ := h world bytes hready
  rw [hw] at hok
  obtain rfl := Except.ok.inj hok
  exact ⟨hready', hheld⟩

/-- Noting things down leaves what is held as it is, if noting one down does. -/
theorem foldl_note {ω α β : Type} {note : ω → α → ω} {ready : ω → Prop} {held : ω → β}
    (hnote : ∀ world entry, ready world →
      ready (note world entry) ∧ held (note world entry) = held world)
    (entries : List α) (world : ω) (hready : ready world) :
    ready (entries.foldl note world) ∧ held (entries.foldl note world) = held world := by
  induction entries generalizing world with
  | nil => exact ⟨hready, rfl⟩
  | cons entry rest ih =>
      obtain ⟨hnext, hheld⟩ := hnote world entry hready
      obtain ⟨hlast, hall⟩ := ih (note world entry) hnext
      exact ⟨hlast, hall.trans hheld⟩

/-- **Draining loses nothing**: what is delivered and what is left over are all the bytes. -/
theorem drain_spec (h : Takes deliver ready held) (world : ω) (bytes : List UInt8)
    (hready : ready world) :
    ∃ world' rest, drain deliver world bytes = (world', rest, none) ∧ ready world' ∧
      held world' ++ rest = held world ++ bytes := by
  -- by induction on the number of bytes, since each round takes a whole block away
  induction hn : bytes.length using Nat.strongRecOn generalizing world bytes with
  | ind n ih =>
      rw [drain]
      by_cases hfit : bytes.length ≤ bufferSize
      · rw [dif_pos hfit]
        exact ⟨world, bytes, rfl, hready, rfl⟩
      · rw [dif_neg hfit]
        obtain ⟨middle, hok, hmiddle, hheld⟩ := h world (bytes.take bufferSize) hready
        rw [hok]
        have hless : (bytes.drop bufferSize).length < n := by
          rw [List.length_drop, ← hn]
          have hpos : 0 < bufferSize := by decide
          omega
        obtain ⟨world', rest, hrun, hworld', hall⟩ :=
          ih _ hless middle (bytes.drop bufferSize) hmiddle rfl
        refine ⟨world', rest, hrun, hworld', ?_⟩
        rw [hall, hheld, List.append_assoc, List.take_append_drop]

/-- Writing adds the bytes to what is delivered and held back. -/
theorem Buffer.write_spec (h : Takes deliver ready held) (world : ω) (b : Buffer)
    (bytes : List UInt8) (hready : ready world) :
    ∃ world' b', b.write deliver world bytes = (world', b', none) ∧ ready world' ∧
      b'.path = b.path ∧ held world' ++ b'.pending = held world ++ b.pending ++ bytes := by
  obtain ⟨world', rest, hrun, hworld', hall⟩ :=
    drain_spec h world (b.pending ++ bytes) hready
  refine ⟨world', { b with pending := rest }, ?_, hworld', rfl, ?_⟩
  · rw [Buffer.write, hrun]
    rfl
  · rw [hall, List.append_assoc]

/-- Finishing delivers what is held back. -/
theorem Buffer.finish_spec (h : Takes deliver ready held) (world : ω) (b : Buffer)
    (hready : ready world) :
    ∃ world', b.finish deliver world = (world', none) ∧ ready world' ∧
      held world' = held world ++ b.pending := by
  by_cases hempty : b.pending.isEmpty = true
  · refine ⟨world, ?_, hready, ?_⟩
    · rw [Buffer.finish, if_pos hempty]
    · rw [List.isEmpty_iff.mp hempty, List.append_nil]
  · obtain ⟨world', hok, hworld', hheld⟩ := h world b.pending hready
    refine ⟨world', ?_, hworld', hheld⟩
    rw [Buffer.finish, if_neg hempty, hok]

/-! ## Deliveries that may fail -/

/-- What is delivered and what is left over are bytes from the start, and all of them if no delivery
    failed. -/
theorem drain_prefix (h : Appends deliver ready held) {world world' : ω}
    {bytes rest : List UInt8} {fault : Option StorageFault} (hready : ready world)
    (hrun : drain deliver world bytes = (world', rest, fault)) :
    ready world' ∧ held world' ++ rest <+: held world ++ bytes ∧
      (fault = none → held world' ++ rest = held world ++ bytes) := by
  induction hn : bytes.length using Nat.strongRecOn generalizing world bytes with
  | ind n ih =>
      rw [drain] at hrun
      by_cases hfit : bytes.length ≤ bufferSize
      · rw [dif_pos hfit] at hrun
        obtain ⟨rfl, rfl, -⟩ := hrun
        exact ⟨hready, List.prefix_rfl, fun _ => rfl⟩
      · rw [dif_neg hfit] at hrun
        cases hdeliver : deliver world (bytes.take bufferSize) with
        | ok middle =>
            rw [hdeliver] at hrun
            obtain ⟨hmiddle, hheld⟩ := h world middle _ hready hdeliver
            have hless : (bytes.drop bufferSize).length < n := by
              rw [List.length_drop, ← hn]
              have hpos : 0 < bufferSize := by decide
              omega
            have hblocks := ih _ hless hmiddle hrun rfl
            rw [hheld, List.append_assoc, List.take_append_drop] at hblocks
            exact hblocks
        | error f =>
            rw [hdeliver] at hrun
            obtain ⟨rfl, rfl, rfl⟩ := hrun
            exact ⟨hready, (List.prefix_append_right_inj _).mpr (List.take_prefix _ _),
              fun hnone => nomatch hnone⟩

/-- A write adds bytes from the start, and all of them if it does not fail. -/
theorem Buffer.write_prefix (h : Appends deliver ready held) {world world' : ω} {b b' : Buffer}
    {bytes : List UInt8} {fault : Option Fault} (hready : ready world)
    (hrun : b.write deliver world bytes = (world', b', fault)) :
    ready world' ∧ held world' ++ b'.pending <+: held world ++ b.pending ++ bytes ∧
      (fault = none → held world' ++ b'.pending = held world ++ b.pending ++ bytes) := by
  obtain ⟨middle, rest, f, hdrain⟩ : ∃ middle rest f,
      drain deliver world (b.pending ++ bytes) = (middle, rest, f) := ⟨_, _, _, rfl⟩
  rw [Buffer.write, hdrain] at hrun
  obtain ⟨rfl, rfl, rfl⟩ := hrun
  rw [List.append_assoc]
  obtain ⟨hready', hstart, hall⟩ := drain_prefix h hready hdrain
  exact ⟨hready', hstart, fun hnone => hall (Option.map_eq_none_iff.mp hnone)⟩

/-! ## Refused deliveries -/

section

variable {fault : StorageFault}

/-- Draining delivers nothing where deliveries are refused, and fails just if there is more than one
    block to be held back. -/
theorem drain_refused {world : ω} (h : ∀ bytes, deliver world bytes = .error fault)
    (bytes : List UInt8) :
    drain deliver world bytes =
      if bytes.length ≤ bufferSize then (world, bytes, none)
      else (world, bytes.take bufferSize, some fault) := by
  rw [drain]
  by_cases hfit : bytes.length ≤ bufferSize
  · rw [dif_pos hfit, if_pos hfit]
  · rw [dif_neg hfit, if_neg hfit, h]

/-- **A buffer whose deliveries are refused takes what fits**, and a write that does not fit fails
    and leaves the buffer full. -/
theorem Buffer.write_refused {world : ω} (h : ∀ bytes, deliver world bytes = .error fault)
    (b : Buffer) (bytes : List UInt8) :
    b.write deliver world bytes =
      if (b.pending ++ bytes).length ≤ bufferSize then
        (world, { b with pending := b.pending ++ bytes }, none)
      else
        (world, { b with pending := (b.pending ++ bytes).take bufferSize },
          some (.feed b.path (.storage fault))) := by
  rw [Buffer.write, drain_refused h]
  by_cases hfit : (b.pending ++ bytes).length ≤ bufferSize
  · rw [if_pos hfit, if_pos hfit]
    rfl
  · rw [if_neg hfit, if_neg hfit]
    rfl

/-- Finishing a buffer whose deliveries are refused fails just if it holds something back. -/
theorem Buffer.finish_refused {world : ω} (h : ∀ bytes, deliver world bytes = .error fault)
    (b : Buffer) :
    b.finish deliver world =
      (world, if b.pending = [] then none else some (.unwritable b.path fault)) := by
  by_cases hempty : b.pending = []
  · rw [Buffer.finish, if_pos (List.isEmpty_iff.mpr hempty), if_pos hempty]
  · rw [Buffer.finish, if_neg (fun hnil => hempty (List.isEmpty_iff.mp hnil)), h, if_neg hempty]

end

namespace Writer

/-- Writes rows as they are, up to the first fault. -/
def writeRows (deliver : Deliver ω) : ω → Writer → List Row → ω × Writer × Option Fault
  | world, w, [] => (world, w, none)
  | world, w, r :: rest =>
    match w.write deliver world r with
    | (world, w, none) => writeRows deliver world w rest
    | (world, w, some fault) => (world, w, some fault)

/-- **All rows are written, in order, and counted.** -/
theorem writeRows_spec (h : Takes deliver ready held) (world : ω) (w : Writer)
    (rows : List Row) (hready : ready world) :
    ∃ world' w', writeRows deliver world w rows = (world', w', none) ∧ ready world' ∧
      w'.written = w.written + rows.length ∧
      held world' ++ w'.buffer.pending =
        held world ++ w.buffer.pending ++ rows.flatMap rowBytes := by
  induction rows generalizing world w with
  | nil => exact ⟨world, w, rfl, hready, rfl, (List.append_nil _).symm⟩
  | cons r rest ih =>
      obtain ⟨middle, b, hrun₁, hmiddle, -, hall₁⟩ :=
        w.buffer.write_spec h world (rowBytes r) hready
      obtain ⟨world', w', hrun, hworld', hcount, hall⟩ :=
        ih middle { w with buffer := b, written := w.written + 1 } hmiddle
      refine ⟨world', w', ?_, hworld', ?_, ?_⟩
      · simp only [writeRows, Writer.write, writeUncounted, hrun₁, hrun]
      · rw [hcount, List.length_cons, Nat.add_right_comm, Nat.add_assoc]
      · rw [hall, hall₁, List.flatMap_cons, List.append_assoc _ _ (List.flatMap _ _)]

/-- **Where deliveries may fail, rows are written from the start**, and all of them, each counted,
    if none fails. -/
theorem writeRows_prefix (h : Appends deliver ready held) {world world' : ω} {w w' : Writer}
    {rows : List Row} {fault : Option Fault} (hready : ready world)
    (hrun : writeRows deliver world w rows = (world', w', fault)) :
    ready world' ∧
      held world' ++ w'.buffer.pending <+:
        held world ++ w.buffer.pending ++ rows.flatMap rowBytes ∧
      (fault = none → w'.written = w.written + rows.length ∧
        held world' ++ w'.buffer.pending =
          held world ++ w.buffer.pending ++ rows.flatMap rowBytes) := by
  induction rows generalizing world w with
  | nil =>
      obtain ⟨rfl, rfl, -⟩ := hrun
      rw [List.flatMap_nil, List.append_nil]
      exact ⟨hready, List.prefix_rfl, fun _ => ⟨rfl, rfl⟩⟩
  | cons r rest ih =>
      obtain ⟨middle, b, f, hwrite⟩ : ∃ middle b f,
          w.buffer.write deliver world (rowBytes r) = (middle, b, f) := ⟨_, _, _, rfl⟩
      obtain ⟨hmiddle, hstart, hall⟩ := Buffer.write_prefix h hready hwrite
      rw [List.flatMap_cons, ← List.append_assoc]
      simp only [writeRows, Writer.write, writeUncounted, hwrite] at hrun
      cases f with
      | none =>
          obtain ⟨hready', hstart', hall'⟩ := ih hmiddle hrun
          rw [hall rfl] at hstart' hall'
          refine ⟨hready', hstart', ?_⟩
          intro hnone
          obtain ⟨hcount, hbytes⟩ := hall' hnone
          exact ⟨by rw [hcount, List.length_cons, Nat.add_right_comm, Nat.add_assoc], hbytes⟩
      | some f =>
          obtain ⟨rfl, rfl, rfl⟩ := hrun
          exact ⟨hmiddle, hstart.trans (List.prefix_append _ _),
            fun hnone => absurd hnone (Option.some_ne_none _)⟩

/-- Writing rows marked with an operation is writing the marked rows. -/
theorem writeAll_eq_writeRows (op : Operation) (world : ω) (w : Writer) (rows : List Row) :
    writeAll deliver op world w rows = writeRows deliver world w (rows.map fun r => r.mark op) := by
  induction rows generalizing world w with
  | nil => rfl
  | cons r rest ih =>
      rw [writeAll, writeMarked, List.map_cons, writeRows]
      rcases w.write deliver world (r.mark op) with ⟨world', w', fault | fault⟩
      · exact ih world' w'
      · rfl

/-- All rows are written, in order and marked. -/
theorem writeAll_spec (h : Takes deliver ready held) (op : Operation) (world : ω) (w : Writer)
    (rows : List Row) (hready : ready world) :
    ∃ world' w', writeAll deliver op world w rows = (world', w', none) ∧ ready world' ∧
      held world' ++ w'.buffer.pending =
        held world ++ w.buffer.pending ++ (rows.map fun r => r.mark op).flatMap rowBytes := by
  rw [writeAll_eq_writeRows]
  obtain ⟨world', w', hrun, hworld', -, hall⟩ :=
    writeRows_spec h world w (rows.map fun r => r.mark op) hready
  exact ⟨world', w', hrun, hworld', hall⟩

end Writer

end CourseFeed.Feed
