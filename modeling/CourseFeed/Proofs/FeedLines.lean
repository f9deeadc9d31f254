import CourseFeed.Feed.Reader
import CourseFeed.Proofs.Outcomes
import CourseFeed.Proofs.RowShape

/-!
# Lines read back

A feed has no way to write a tab or a line end inside a cell.  So rows come back from the bytes
that were written for them just if no cell has one:

* **`Row.Plain`** — no cell of a row has a tab or a line end.
* **`takeRecord_join`** and **`recordsFrom_join`** — plain fields between tabs are one record, and
  reading goes on behind the line end.
* **`rowsOfRecords_lines`** — the lines of plain rows are these rows.
* **`plain_of_rowsOfBytes`** — whatever bytes are read, the rows that come out are plain, and
  **`full_of_rowsOfBytes`**: they have a cell for each column.
* **`rowsOfBytes_iff`** — both together, for the bytes of a feed that begins with the names of the
  columns.
-/

namespace CourseFeed

open CourseFeed.Feed CourseFeed.Text

/-- A character that neither sets fields apart nor ends a line. -/
def IsPlain (c : Char) : Prop := c ≠ '\t' ∧ c ≠ '\n' ∧ c ≠ '\r'

instance (c : Char) : Decidable (IsPlain c) := inferInstanceAs (Decidable (_ ∧ _))

/-- A text without tabs and line ends. -/
def PlainText (text : List Char) : Prop := ∀ c ∈ text, IsPlain c

instance (text : List Char) : Decidable (PlainText text) := List.decidableBAll IsPlain text

/-- No cell of a row has a tab or a line end in it. -/
def Row.Plain (r : Row) : Prop := ∀ cell ∈ r.cells, PlainText cell.toList

instance (r : Row) : Decidable r.Plain :=
  inferInstanceAs (Decidable (∀ cell ∈ r.cells, PlainText cell.toList))

theorem IsPlain.isBreak_eq {c : Char} (h : IsPlain c) : charMarks.isBreak c = false := by
  show (decide (c = '\n') || decide (c = '\r')) = false
  rw [decide_eq_false h.2.1, decide_eq_false h.2.2]
  rfl

theorem isPlain_of_not {c : Char} (hbreak : ¬ charMarks.isBreak c = true)
    (htab : c ≠ charMarks.tab) : IsPlain c := by
  refine ⟨htab, ?_, ?_⟩
  · rintro rfl
    exact hbreak rfl
  · rintro rfl
    exact hbreak rfl

namespace Feed

/-! ## One record -/

/-- Plain characters are put before the first field of what follows. -/
theorem takeRecord_append {field : List Char} (hfield : PlainText field)
    {text first after : List Char} {fields : List (List Char)}
    (h : takeRecord charMarks text = (first :: fields, after)) :
    takeRecord charMarks (field ++ text) = ((field ++ first) :: fields, after) := by
  induction field with
  | nil => exact h
  | cons c field ih =>
      have hc := hfield c List.mem_cons_self
      rw [List.cons_append, takeRecord, hc.isBreak_eq, if_neg (by decide),
        ih fun d hd => hfield d (List.mem_cons_of_mem c hd)]
      simp only [if_neg (show ¬ c = charMarks.tab from hc.1)]
      rfl

/-- The fields of a record with tabs between them. -/
def joinFields (fields : List (List Char)) : List Char := List.intercalate ['\t'] fields

theorem joinFields_cons_cons (first second : List Char) (fields : List (List Char)) :
    joinFields (first :: second :: fields) = first ++ '\t' :: joinFields (second :: fields) := by
  rw [joinFields, List.intercalate_cons_cons, List.append_assoc]
  rfl

/-- **Plain fields between tabs are one record.** -/
theorem takeRecord_join {first : List Char} {fields : List (List Char)}
    (h : ∀ field ∈ first :: fields, PlainText field) (rest : List Char) :
    takeRecord charMarks (joinFields (first :: fields) ++ '\n' :: rest) =
      (first :: fields, rest) := by
  have hfirst : PlainText first := h first List.mem_cons_self
  induction fields generalizing first with
  | nil =>
      have hend : takeRecord charMarks ('\n' :: rest) = ([] :: [], rest) := rfl
      rw [joinFields, List.intercalate_singleton, takeRecord_append hfirst hend, List.append_nil]
  | cons second fields ih =>
      have htail : ∀ field ∈ second :: fields, PlainText field :=
        fun field hfield => h field (List.mem_cons_of_mem first hfield)
      have htab : takeRecord charMarks
          ('\t' :: (joinFields (second :: fields) ++ '\n' :: rest)) =
            ([] :: second :: fields, rest) := by
        rw [takeRecord, if_neg (by decide), ih htail (htail second List.mem_cons_self)]
        rfl
      rw [joinFields_cons_cons, List.append_assoc, List.cons_append,
        takeRecord_append hfirst htab, List.append_nil]

/-- Putting a plain character before the first field keeps fields plain. -/
theorem plain_consField {c : Char} (hc : IsPlain c) {fields : List (List Char)}
    (h : ∀ field ∈ fields, PlainText field) :
    ∀ field ∈ consField c fields, PlainText field := by
  cases fields with
  | nil =>
      intro field hfield d hd
      rw [List.mem_singleton.mp hfield, List.mem_singleton] at hd
      rw [hd]
      exact hc
  | cons first fields =>
      intro field hfield d hd
      rcases List.mem_cons.mp hfield with rfl | hmem
      · rcases List.mem_cons.mp hd with rfl | hd
        · exact hc
        · exact h first List.mem_cons_self d hd
      · exact h field (List.mem_cons_of_mem first hmem) d hd

/-- The fields of a record are plain, whatever text it is taken from. -/
theorem plain_takeRecord (text : List Char) :
    ∀ field ∈ (takeRecord charMarks text).1, PlainText field := by
  have hblank : ∀ field ∈ ([[]] : List (List Char)), PlainText field := by
    intro field hfield c hc
    rw [List.mem_singleton.mp hfield] at hc
    exact nomatch hc
  induction text with
  | nil => exact hblank
  | cons c rest ih =>
      by_cases hbreak : charMarks.isBreak c = true
      · rw [takeRecord, if_pos hbreak]
        exact hblank
      · rw [takeRecord, if_neg hbreak]
        by_cases htab : c = charMarks.tab
        · simp only [if_pos htab]
          intro field hfield
          rcases List.mem_cons.mp hfield with rfl | hmem
          · exact hblank [] List.mem_cons_self
          · exact ih field hmem
        · simp only [if_neg htab]
          exact plain_consField (isPlain_of_not hbreak htab) ih

/-! ## All records -/

/-- No line end stands in plain fields or between them. -/
theorem isBreak_of_mem_joinFields {fields : List (List Char)}
    (h : ∀ field ∈ fields, PlainText field) {c : Char} (hc : c ∈ joinFields fields) :
    charMarks.isBreak c = false := by
  induction fields with
  | nil => exact nomatch hc
  | cons first fields ih =>
      have hfirst := h first List.mem_cons_self
      cases fields with
      | nil =>
          rw [joinFields, List.intercalate_singleton] at hc
          exact (hfirst c hc).isBreak_eq
      | cons second fields =>
          rw [joinFields_cons_cons] at hc
          rcases List.mem_append.mp hc with hmem | hmem
          · exact (hfirst c hmem).isBreak_eq
          · rcases List.mem_cons.mp hmem with rfl | hmem
            · rfl
            · exact ih (fun field hfield => h field (List.mem_cons_of_mem first hfield)) hmem

theorem count_joinFields {fields : List (List Char)}
    (h : ∀ field ∈ fields, PlainText field) : (joinFields fields).count '\n' = 0 :=
  List.count_eq_zero.mpr fun hmem => nomatch isBreak_of_mem_joinFields h hmem

/-- **Two or more plain fields between tabs are the next record**, and reading goes on behind the
    line end, one line further. -/
theorem recordsFrom_join {first second : List Char} {fields : List (List Char)}
    (h : ∀ field ∈ first :: second :: fields, PlainText field) (line offset : Nat)
    (rest : List Char) :
    ∃ offset', recordsFrom charMarks line offset
        (joinFields (first :: second :: fields) ++ '\n' :: rest) =
      ⟨first :: second :: fields, line, offset⟩ ::
        recordsFrom charMarks (line + 1) offset' rest := by
  -- a tab stands between the fields, so the line is not empty even if they are
  obtain ⟨c, tail, hline, hc⟩ : ∃ c tail, joinFields (first :: second :: fields) = c :: tail ∧
      charMarks.isBreak c = false := by
    rw [joinFields_cons_cons]
    cases hfirst : first with
    | nil => exact ⟨'\t', _, rfl, rfl⟩
    | cons c tail =>
        exact ⟨c, _, rfl, (h first List.mem_cons_self c (hfirst ▸ List.mem_cons_self)).isBreak_eq⟩
  have hcount :
      (joinFields (first :: second :: fields) ++ ['\n']).count charMarks.lineFeed = 1 := by
    rw [List.count_append]
    exact congrArg (· + 1) (count_joinFields h)
  have htaken := takeRecord_join h rest
  generalize joinFields (first :: second :: fields) = joined at *
  have hstart : (joined ++ '\n' :: rest).dropWhile charMarks.isBreak = joined ++ '\n' :: rest := by
    rw [hline, List.cons_append, List.dropWhile_cons_of_neg (by rw [hc]; decide)]
  have hne : ¬ (joined ++ '\n' :: rest).dropWhile charMarks.isBreak = [] := by
    rw [hstart, hline]
    exact List.cons_ne_nil c _
  have htake : (joined ++ '\n' :: rest).take ((joined ++ '\n' :: rest).length - rest.length) =
      joined ++ ['\n'] := by
    have hlength : (joined ++ '\n' :: rest).length - rest.length = (joined ++ ['\n']).length := by
      simp only [List.length_append, List.length_cons, List.length_nil]
      omega
    rw [hlength, List.append_cons joined '\n' rest, List.take_left]
  -- the next record is looked for behind the characters that were taken
  refine ⟨offset + (joined ++ ['\n']).length, ?_⟩
  rw [recordsFrom, dif_neg hne]
  simp only [hstart, htaken, htake, hcount]

/-- The fields of all records are plain. -/
theorem plain_recordsFrom (line offset : Nat) (text : List Char) :
    ∀ record ∈ recordsFrom charMarks line offset text,
      ∀ field ∈ record.fields, PlainText field := by
  induction line, offset, text using recordsFrom.induct charMarks with
  | case1 line offset text start hnil =>
      rw [recordsFrom, dif_pos hnil]
      intro record hrecord
      exact nomatch hrecord
  | case2 line offset text start hne after taken ih =>
      rw [recordsFrom, dif_neg hne]
      intro record hrecord
      rcases List.mem_cons.mp hrecord with rfl | hmem
      · exact plain_takeRecord start
      · exact ih record hmem

/-! ## Rows -/

/-- The lines of some rows. -/
def linesOf (rows : List Row) : List Char := rows.flatMap fun r => r.encode.toList ++ ['\n']

theorem toList_encode (r : Row) : r.encode.toList = joinFields (r.cells.map String.toList) := by
  rw [Row.encode, String.toList_intercalate]
  rfl

theorem linesOf_cons (r : Row) (rows : List Row) :
    linesOf (r :: rows) = joinFields (r.cells.map String.toList) ++ '\n' :: linesOf rows := by
  rw [linesOf, List.flatMap_cons, toList_encode, List.append_assoc]
  rfl

/-- The cells of a plain row are plain fields. -/
theorem plain_cells {r : Row} (h : r.Plain) :
    ∀ field ∈ r.cells.map String.toList, PlainText field := by
  intro field hfield
  obtain ⟨cell, hcell, rfl⟩ := List.mem_map.mp hfield
  exact h cell hcell

/-- Cells are the texts of their characters. -/
theorem map_ofList_toList (cells : List String) :
    (cells.map String.toList).map String.ofList = cells := by
  rw [List.map_map]
  exact (List.map_congr_left fun cell _ => String.ofList_toList).trans (List.map_id _)

/-- Cells that fit a row make the row of these cells. -/
theorem ofCells_of_full {r : Row} (h : r.Full) (line : Nat) : Row.ofCells r.cells line = .ok r := by
  have hwidth : r.cells.length = columnCount := h
  rw [Row.ofCells, if_neg (by omega), hwidth, Nat.sub_self, List.replicate_zero, List.append_nil]

/-- The line of a plain row is read as this row, and reading goes on one line further. -/
theorem rowsOfRecords_cons {r : Row} (hfull : r.Full) (hplain : r.Plain) (line offset : Nat)
    (rows : List Row) :
    ∃ offset', rowsOfRecords (recordsFrom charMarks line offset (linesOf (r :: rows))) =
      (rowsOfRecords (recordsFrom charMarks (line + 1) offset' (linesOf rows))).map (r :: ·) := by
  have hcells := plain_cells hplain
  have hback := map_ofList_toList r.cells
  obtain ⟨first, second, rest, hrow⟩ := hfull.cells_eq
  have hfields : r.cells.map String.toList =
      first.toList :: second.toList :: rest.map String.toList := by
    rw [hrow, List.map_cons, List.map_cons]
  rw [linesOf_cons, hfields]
  rw [hfields] at hcells hback
  obtain ⟨offset', hrecords⟩ := recordsFrom_join hcells line offset (linesOf rows)
  refine ⟨offset', ?_⟩
  rw [hrecords, rowsOfRecords]
  simp only [hback, ofCells_of_full hfull]
  cases rowsOfRecords (recordsFrom charMarks (line + 1) offset' (linesOf rows)) <;> rfl

/-- **The lines of plain rows are these rows.** -/
theorem rowsOfRecords_lines {rows : List Row} (hfull : ∀ r ∈ rows, r.Full)
    (hplain : ∀ r ∈ rows, r.Plain) (line offset : Nat) :
    rowsOfRecords (recordsFrom charMarks line offset (linesOf rows)) = .ok rows := by
  induction rows generalizing line offset with
  | nil =>
      rw [recordsFrom]
      rfl
  | cons r rows ih =>
      obtain ⟨offset', hread⟩ := rowsOfRecords_cons (hfull r List.mem_cons_self)
        (hplain r List.mem_cons_self) line offset rows
      rw [hread, ih (fun r hmem => hfull r (List.mem_cons_of_mem _ hmem))
        (fun r hmem => hplain r (List.mem_cons_of_mem _ hmem))]
      rfl

/-- A row made of plain fields is plain; a cell that is filled up is empty. -/
theorem plain_ofCells {fields : List (List Char)} {line : Nat} {r : Row}
    (hplain : ∀ field ∈ fields, PlainText field)
    (h : Row.ofCells (fields.map String.ofList) line = .ok r) : r.Plain := by
  rw [Row.ofCells] at h
  by_cases hwide : columnCount < (fields.map String.ofList).length
  · rw [if_pos hwide] at h
    exact nomatch h
  · rw [if_neg hwide] at h
    rw [← Except.ok.inj h]
    intro cell hcell c hc
    -- a cell is a field that was read, or one that the row was filled up with
    rcases List.mem_append.mp hcell with hmem | hmem
    · obtain ⟨field, hfield, rfl⟩ := List.mem_map.mp hmem
      rw [String.toList_ofList] at hc
      exact hplain field hfield c hc
    · rw [(List.mem_replicate.mp hmem).2] at hc
      exact nomatch hc

/-- Rows have what each record gives its row. -/
theorem forall_rowsOfRecords {P : Row → Prop} {records : List (Record Char)} {rows : List Row}
    (hrow : ∀ record ∈ records, ∀ r,
      Row.ofCells (record.fields.map String.ofList) record.line = .ok r → P r)
    (h : rowsOfRecords records = .ok rows) : ∀ r ∈ rows, P r := by
  induction records generalizing rows with
  | nil =>
      rw [← Except.ok.inj h]
      intro r hr
      exact nomatch hr
  | cons record records ih =>
      obtain ⟨row, hfirst, hrest⟩ := bind_eq_ok_iff.mp h
      obtain ⟨rest, hrecords, hrows⟩ := bind_eq_ok_iff.mp hrest
      rw [← Except.ok.inj hrows]
      intro r hr
      rcases List.mem_cons.mp hr with rfl | hmem
      · exact hrow record List.mem_cons_self r hfirst
      · exact ih (fun record hmem => hrow record (List.mem_cons_of_mem _ hmem)) hrecords r hmem

/-- A row that is made of cells is full, since it is filled up. -/
theorem full_ofCells {cells : List String} {line : Nat} {r : Row}
    (h : Row.ofCells cells line = .ok r) : r.Full := by
  rw [Row.ofCells] at h
  by_cases hwide : columnCount < cells.length
  · rw [if_pos hwide] at h
    exact nomatch h
  · rw [if_neg hwide] at h
    rw [← Except.ok.inj h]
    show (cells ++ List.replicate (columnCount - cells.length) "").length = columnCount
    rw [List.length_append, List.length_replicate]
    omega

theorem mem_of_mem_dropHeader {rows : List Row} {r : Row} (h : r ∈ dropHeader rows) : r ∈ rows := by
  cases rows with
  | nil => exact h
  | cons first rest =>
      by_cases hheader : first.isHeader = true
      · rw [dropHeader, if_pos hheader] at h
        exact List.mem_cons_of_mem first h
      · rw [dropHeader, if_neg hheader] at h
        exact h

/-- Whatever text is read, the rows that come out are plain. -/
theorem plain_of_rowsOfText {text : String} {rows : List Row} (h : rowsOfText text = .ok rows) :
    ∀ r ∈ rows, r.Plain := by
  obtain ⟨all, hall, rfl⟩ := map_eq_ok_iff.mp h
  have hrecords : ∃ line offset text', recordsOfText text.toList =
      recordsFrom charMarks line offset text' := by
    rw [recordsOfText.eq_def]
    split
    · exact ⟨1, 3, _, rfl⟩
    · exact ⟨1, 0, _, rfl⟩
  obtain ⟨line, offset, text', heq⟩ := hrecords
  rw [heq] at hall
  intro r hr
  refine forall_rowsOfRecords ?_ hall r (mem_of_mem_dropHeader hr)
  intro record hrecord r
  exact plain_ofCells (plain_recordsFrom line offset text' record hrecord)

/-- Whatever text is read, the rows that come out are full. -/
theorem full_of_rowsOfText {text : String} {rows : List Row} (h : rowsOfText text = .ok rows) :
    ∀ r ∈ rows, r.Full := by
  obtain ⟨all, hall, rfl⟩ := map_eq_ok_iff.mp h
  intro r hr
  exact forall_rowsOfRecords (fun _ _ _ => full_ofCells) hall r (mem_of_mem_dropHeader hr)

/-! ## Bytes -/

theorem decodeUtf8?_encodeUtf8 (text : String) : decodeUtf8? (encodeUtf8 text) = some text := by
  have hbytes : (⟨(encodeUtf8 text).toArray⟩ : ByteArray) = text.toByteArray := by
    simp [encodeUtf8]
  rw [decodeUtf8?, hbytes, String.fromUTF8?, dif_pos text.isValidUTF8]
  rfl

theorem encodeUtf8_append (a b : String) : encodeUtf8 (a ++ b) = encodeUtf8 a ++ encodeUtf8 b := by
  simp [encodeUtf8]

/-- The bytes of full rows are those of their lines. -/
theorem flatMap_rowBytes {rows : List Row} (h : ∀ r ∈ rows, r.Full) :
    rows.flatMap rowBytes = encodeUtf8 (String.ofList (linesOf rows)) := by
  induction rows with
  | nil => rfl
  | cons r rows ih =>
      have hlines : String.ofList (linesOf (r :: rows)) =
          r.encode ++ "\n" ++ String.ofList (linesOf rows) := by
        rw [linesOf, List.flatMap_cons, String.ofList_append, String.ofList_append,
          String.ofList_toList]
        rfl
      rw [List.flatMap_cons, rowBytes_of_full (h r List.mem_cons_self),
        ih (fun r hmem => h r (List.mem_cons_of_mem _ hmem)), hlines,
        encodeUtf8_append (r.encode ++ "\n")]

/-- The bytes of a feed with the names of the columns before some rows. -/
def feedBytes (rows : List Row) : List UInt8 := (Row.header :: rows).flatMap rowBytes

/-- What is read from the bytes of a feed are the records of its lines behind the first. -/
theorem rowsOfBytes_feedBytes {rows : List Row} (h : ∀ r ∈ rows, r.Full) (path : String) :
    ∃ offset, rowsOfBytes path (feedBytes rows) =
      rowsOfRecords (recordsFrom charMarks 2 offset (linesOf rows)) := by
  have hheader : Row.header.Full := by decide
  have hplain : Row.header.Plain := by decide
  have hfull : ∀ r ∈ Row.header :: rows, r.Full := by
    intro r hr
    rcases List.mem_cons.mp hr with rfl | hmem
    · exact hheader
    · exact h r hmem
  obtain ⟨offset, hread⟩ := rowsOfRecords_cons hheader hplain 1 0 rows
  -- the names of the columns begin with a letter, so no byte order mark is taken off
  have hrecords : recordsOfText (linesOf (Row.header :: rows)) =
      recordsFrom charMarks 1 0 (linesOf (Row.header :: rows)) := by
    obtain ⟨tail, htail⟩ : ∃ tail, linesOf (Row.header :: rows) = 'C' :: tail := by
      rw [linesOf_cons]
      exact ⟨_, rfl⟩
    rw [htail]
    rfl
  refine ⟨offset, ?_⟩
  rw [feedBytes, flatMap_rowBytes hfull, rowsOfBytes, decodeUtf8?_encodeUtf8]
  show rowsOfText (String.ofList (linesOf (Row.header :: rows))) = _
  rw [rowsOfText, String.toList_ofList, hrecords, hread]
  cases rowsOfRecords (recordsFrom charMarks 2 offset (linesOf rows)) with
  | error fault => rfl
  | ok rest =>
      show Except.ok (dropHeader (Row.header :: rest)) = _
      rw [dropHeader, if_pos (by decide)]

/-- Rows that are read from bytes are those of a text, or there are none. -/
theorem text_of_rowsOfBytes {path : String} {bytes : List UInt8} {rows : List Row}
    (h : rowsOfBytes path bytes = .ok rows) : rows = [] ∨ ∃ text, rowsOfText text = .ok rows := by
  rw [rowsOfBytes] at h
  cases hdecode : decodeUtf8? bytes with
  | some text =>
      rw [hdecode] at h
      exact Or.inr ⟨text, h⟩
  | none =>
      -- bytes that are no text are a fault, or no rows at all
      rw [hdecode] at h
      cases hfault : firstFault path 0 (recordsOfBytes bytes) with
      | some fault =>
          simp only [hfault] at h
          cases h
      | none =>
          simp only [hfault] at h
          exact Or.inl (Except.ok.inj h).symm

/-- **Whatever bytes are read, the rows that come out are plain.** -/
theorem plain_of_rowsOfBytes {path : String} {bytes : List UInt8} {rows : List Row}
    (h : rowsOfBytes path bytes = .ok rows) : ∀ r ∈ rows, r.Plain := by
  rcases text_of_rowsOfBytes h with rfl | ⟨text, htext⟩
  · intro r hr
    exact nomatch hr
  · exact plain_of_rowsOfText htext

/-- Whatever bytes are read, the rows that come out are full. -/
theorem full_of_rowsOfBytes {path : String} {bytes : List UInt8} {rows : List Row}
    (h : rowsOfBytes path bytes = .ok rows) : ∀ r ∈ rows, r.Full := by
  rcases text_of_rowsOfBytes h with rfl | ⟨text, htext⟩
  · intro r hr
    exact nomatch hr
  · exact full_of_rowsOfText htext

/-- **Rows come back from the bytes that were written for them just if they are plain.** -/
theorem rowsOfBytes_iff {rows : List Row} (h : ∀ r ∈ rows, r.Full) (path : String) :
    rowsOfBytes path (feedBytes rows) = .ok rows ↔ ∀ r ∈ rows, r.Plain := by
  constructor
  · exact plain_of_rowsOfBytes
  · intro hplain
    obtain ⟨offset, hread⟩ := rowsOfBytes_feedBytes h path
    rw [hread]
    exact rowsOfRecords_lines h hplain 2 offset

end Feed

end CourseFeed
