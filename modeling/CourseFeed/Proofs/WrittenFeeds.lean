import CourseFeed.Proofs.FeedLines
import CourseFeed.Proofs.StoredFeeds

/-!
# Written feeds read back

What a writer is given is what a reader gets, as long as the reader takes nothing at the front of
the file for something else.  Two things it may take so: a first row with the names of the columns,
and a byte order mark with which the first cell begins.  A file that begins with the names of the
columns is safe from both.

* **`Row.HasOrderMark`** — the first cell of a row begins with a byte order mark.
* **`rowsOfText_lines_iff`** — the lines of plain rows are read as these rows just if the first
  row neither is that of the names nor has an order mark.
* **`FeedFile.writeFeed`** — makes a file, writes rows and finishes, and
  **`openEntry_writeFeed`**: what is stored then.
* **`readRows_writeFeed`** — what is read back, with the names of the columns and without.
-/

namespace CourseFeed

open CourseFeed.Feed CourseFeed.Text

/-! ## The front of a feed -/

/-- The first cell of a row begins with a byte order mark. -/
def Row.HasOrderMark (r : Row) : Prop := r.courseCode.toList.head? = some '\ufeff'

instance (r : Row) : Decidable r.HasOrderMark := inferInstanceAs (Decidable (_ = _))

/-- The row without the first character of its first cell. -/
def Row.chopFirst (r : Row) : Row :=
  r.set Column.courseCode (String.ofList r.courseCode.toList.tail)

namespace Feed

theorem recordsOfText_of_head {text : List Char} (h : text.head? ≠ some '\ufeff') :
    recordsOfText text = recordsFrom charMarks 1 0 text := by
  rw [recordsOfText.eq_def]
  split
  · exact absurd rfl h
  · rfl

/-- The first cell of a full row and a tab stand before the rest of its line. -/
theorem linesOf_cons_eq {first second : String} {cells : List String} (rows : List Row) :
    linesOf (⟨first :: second :: cells⟩ :: rows) =
      first.toList ++ '\t' :: (joinFields ((second :: cells).map String.toList) ++
        '\n' :: linesOf rows) := by
  rw [linesOf_cons, List.map_cons, List.map_cons, joinFields_cons_cons, List.append_assoc]
  rfl

/-- An order mark at the front of the lines is one of the first row. -/
theorem head_linesOf {r : Row} (h : r.Full) (rows : List Row) :
    (linesOf (r :: rows)).head? = some '\ufeff' ↔ r.HasOrderMark := by
  obtain ⟨cells⟩ := r
  obtain ⟨first, second, cells, rfl⟩ := h.cells_eq
  rw [linesOf_cons_eq]
  show _ ↔ first.toList.head? = some '\ufeff'
  cases first.toList with
  | nil => exact ⟨fun htab => absurd (Option.some.inj htab) (by decide), fun hnil => nomatch hnil⟩
  | cons c code => rfl

/-- Without an order mark the lines of plain rows are these rows, but for the names of the columns
    in front. -/
theorem rowsOfText_lines {rows : List Row} (hfull : ∀ r ∈ rows, r.Full)
    (hplain : ∀ r ∈ rows, r.Plain) (hmark : ∀ first ∈ rows.head?, ¬ first.HasOrderMark) :
    rowsOfText (String.ofList (linesOf rows)) = .ok (dropHeader rows) := by
  have hhead : (linesOf rows).head? ≠ some '\ufeff' := by
    cases rows with
    | nil => exact fun h => nomatch h
    | cons r rest =>
        intro h
        exact hmark r rfl ((head_linesOf (hfull r List.mem_cons_self) rest).mp h)
  rw [rowsOfText, String.toList_ofList, recordsOfText_of_head hhead,
    rowsOfRecords_lines hfull hplain 1 0]
  rfl

/-- The lines of a row with an order mark are those of the row without it, behind an order mark. -/
theorem linesOf_of_mark {r : Row} (h : r.Full) (hmark : r.HasOrderMark) (rows : List Row) :
    linesOf (r :: rows) = '\ufeff' :: linesOf (r.chopFirst :: rows) := by
  obtain ⟨cells⟩ := r
  obtain ⟨first, second, cells, rfl⟩ := h.cells_eq
  obtain ⟨code, hcode⟩ := List.head?_eq_some_iff.mp (show first.toList.head? = _ from hmark)
  show _ = '\ufeff' :: linesOf (⟨String.ofList first.toList.tail :: second :: cells⟩ :: rows)
  rw [linesOf_cons_eq, linesOf_cons_eq, String.toList_ofList, hcode]
  rfl

/-- A row without the first character of its first cell is as plain as with it. -/
theorem plain_chopFirst {r : Row} (hfull : r.Full) (h : r.Plain) : r.chopFirst.Plain := by
  obtain ⟨cells⟩ := r
  obtain ⟨first, second, cells, rfl⟩ := hfull.cells_eq
  intro cell hcell
  rcases List.mem_cons.mp hcell with rfl | hmem
  · intro c hc
    rw [String.toList_ofList] at hc
    exact h first List.mem_cons_self c (List.mem_of_mem_tail hc)
  · exact h cell (List.mem_cons_of_mem _ hmem)

/-- A row with an order mark is another one without it. -/
theorem chopFirst_ne {r : Row} (hfull : r.Full) (hmark : r.HasOrderMark) : r.chopFirst ≠ r := by
  obtain ⟨cells⟩ := r
  obtain ⟨first, second, cells, rfl⟩ := hfull.cells_eq
  obtain ⟨code, hcode⟩ := List.head?_eq_some_iff.mp (show first.toList.head? = _ from hmark)
  intro h
  have hfirst : String.ofList first.toList.tail = first := (List.cons.inj (Row.mk.inj h)).1
  have hchars : first.toList.tail = first.toList := by
    rw [← String.toList_ofList (l := first.toList.tail), hfirst]
  rw [hcode] at hchars
  exact List.ne_cons_self hchars

/-- An order mark is lost. -/
theorem rowsOfText_lines_of_mark {r : Row} {rows : List Row} (hfull : ∀ r' ∈ r :: rows, r'.Full)
    (hplain : ∀ r' ∈ r :: rows, r'.Plain) (hmark : r.HasOrderMark) :
    rowsOfText (String.ofList (linesOf (r :: rows))) = .ok (dropHeader (r.chopFirst :: rows)) := by
  have hr := hfull r List.mem_cons_self
  have hread : rowsOfRecords (recordsFrom charMarks 1 3 (linesOf (r.chopFirst :: rows))) =
      .ok (r.chopFirst :: rows) := by
    refine rowsOfRecords_lines ?_ ?_ 1 3
    · intro r' hr'
      rcases List.mem_cons.mp hr' with rfl | hmem
      · exact hr.set _ _
      · exact hfull r' (List.mem_cons_of_mem _ hmem)
    · intro r' hr'
      rcases List.mem_cons.mp hr' with rfl | hmem
      · exact plain_chopFirst hr (hplain r List.mem_cons_self)
      · exact hplain r' (List.mem_cons_of_mem _ hmem)
  rw [rowsOfText, String.toList_ofList, linesOf_of_mark hr hmark, recordsOfText, hread]
  rfl

/-- **What the lines of plain rows are read as.**  They are read as these rows just if the first of
    them neither is that of the names of the columns nor has an order mark. -/
theorem rowsOfText_lines_iff {rows : List Row} (hfull : ∀ r ∈ rows, r.Full)
    (hplain : ∀ r ∈ rows, r.Plain) :
    rowsOfText (String.ofList (linesOf rows)) = .ok rows ↔
      ∀ first ∈ rows.head?, first ≠ Row.header ∧ ¬ first.HasOrderMark := by
  cases rows with
  | nil =>
      constructor
      · intro _ first hfirst
        exact nomatch hfirst
      · intro h
        exact rowsOfText_lines hfull hplain fun first hfirst => (h first hfirst).2
  | cons r rows =>
      by_cases hmark : r.HasOrderMark
      · rw [rowsOfText_lines_of_mark hfull hplain hmark]
        refine ⟨fun h => ?_, fun h => absurd hmark (h r rfl).2⟩
        -- either a row is missing or the first one is another
        have hread := Except.ok.inj h
        rw [dropHeader] at hread
        by_cases hheader : r.chopFirst.isHeader = true
        · rw [if_pos hheader] at hread
          exact absurd hread List.ne_cons_self
        · rw [if_neg hheader] at hread
          exact absurd (List.cons.inj hread).1 (chopFirst_ne (hfull r List.mem_cons_self) hmark)
      · have hfirst : ∀ first ∈ (r :: rows).head?, ¬ first.HasOrderMark := by
          intro first hmem
          rw [← Option.some.inj hmem]
          exact hmark
        rw [rowsOfText_lines hfull hplain hfirst, dropHeader]
        constructor
        · intro h first hmem
          obtain rfl := Option.some.inj hmem
          refine ⟨?_, hmark⟩
          rintro rfl
          rw [if_pos (by decide)] at h
          exact List.ne_cons_self (Except.ok.inj h)
        · intro h
          rw [if_neg]
          exact fun hheader => (h r rfl).1 (beq_iff_eq.mp hheader)

/-- The bytes of full rows are read as their lines. -/
theorem rowsOfBytes_rowBytes {rows : List Row} (h : ∀ r ∈ rows, r.Full) (path : String) :
    rowsOfBytes path (rows.flatMap rowBytes) = rowsOfText (String.ofList (linesOf rows)) := by
  rw [flatMap_rowBytes h, rowsOfBytes, decodeUtf8?_encodeUtf8]

/-! ## Files -/

theorem readRows_of_openEntry {s : Storage} {path : String} {content : List UInt8}
    (h : s.openEntry path = .ok (.file content)) :
    readRows s path = rowsOfBytes path content := by
  rw [readRows, h]

namespace FeedFile

/-- Makes a file for a feed, writes rows to it and delivers all of them. -/
def writeFeed (s : Session) (path : String) (withNames : Bool) (rows : List Row) :
    Except Fault Session := do
  let (file, w) ← create s path withNames
  match w.writeRows deliver file rows with
  | (_, _, some fault) => .error fault
  | (file, w, none) =>
    match w.finish deliver file with
    | (_, some fault) => .error fault
    | (file, none) => .ok file.session

/-- The bytes with which a file for a feed begins. -/
def frontBytes (withNames : Bool) : List UInt8 := if withNames then rowBytes Row.header else []

theorem frontBytes_append (rows : List Row) :
    frontBytes true ++ rows.flatMap rowBytes = feedBytes rows := by
  rw [feedBytes, List.flatMap_cons, frontBytes, if_pos rfl]

/-- Where a file can be made, so can one for a feed; it is open at its end and begins as it
    should. -/
theorem atEnd_of_create_feed {s session : Session} {path : String} {handle : Handle}
    (h : s.create path = .ok (session, handle)) (withNames : Bool) :
    ∃ file w, create s path withNames = .ok (file, w) ∧ file.AtEnd path handle.location ∧
      file.content ++ w.buffer.pending = frontBytes withNames := by
  obtain ⟨hend, hempty⟩ := atEnd_of_create h
  cases withNames with
  | true =>
      refine ⟨_, _, create_eq_ok h, hend, ?_⟩
      rw [hempty, List.nil_append, frontBytes, if_pos rfl]
  | false =>
      refine ⟨_, _, create_nameless_eq_ok h, hend, ?_⟩
      rw [hempty]
      rfl

/-- **Where a file can be made, rows can be written to it**, and they are what is stored then. -/
theorem openEntry_writeFeed {s session : Session} {path : String} {handle : Handle}
    (h : s.create path = .ok (session, handle)) (withNames : Bool) (rows : List Row) :
    ∃ s', writeFeed s path withNames rows = .ok s' ∧
      s'.storage.openEntry path =
        .ok (.file (frontBytes withNames ++ rows.flatMap rowBytes)) := by
  obtain ⟨file, w, hcreate, hend, hfront⟩ := atEnd_of_create_feed h withNames
  have htakes := takes_atEnd path handle.location
  obtain ⟨file', w', hwrite, hend', -, hall⟩ := w.writeRows_spec htakes file rows hend
  obtain ⟨file'', hfinish, hend'', hcontent⟩ := w'.buffer.finish_spec htakes file' hend'
  refine ⟨file''.session, ?_, ?_⟩
  · have hfinish' : w'.finish deliver file' = (file'', none) := hfinish
    refine bind_eq_ok_iff.mpr ⟨(file, w), hcreate, ?_⟩
    simp only [hwrite, hfinish']
  · rw [hend''.openEntry_eq, hcontent, hall, hfront]

end FeedFile

/-- **Written feeds are read back.**  Where a file can be made, plain rows that are written to it
    behind the names of the columns are read back as they are, whatever they hold.  Without the
    names they are read back just if the first of them neither is that of the names nor has an
    order mark.  So the rows of any text that can be read come back from a file with the names. -/
theorem readRows_writeFeed {s session : Session} {path : String} {handle : Handle}
    (h : s.create path = .ok (session, handle)) :
    (∀ rows : List Row, (∀ r ∈ rows, r.Full) → (∀ r ∈ rows, r.Plain) →
      ∃ s', FeedFile.writeFeed s path true rows = .ok s' ∧ readRows s'.storage path = .ok rows) ∧
    (∀ rows : List Row, (∀ r ∈ rows, r.Full) → (∀ r ∈ rows, r.Plain) →
      ∃ s', FeedFile.writeFeed s path false rows = .ok s' ∧
        (readRows s'.storage path = .ok rows ↔
          ∀ first ∈ rows.head?, first ≠ Row.header ∧ ¬ first.HasOrderMark)) ∧
    ∀ (text : String) (rows : List Row), rowsOfText text = .ok rows →
      ∃ s', FeedFile.writeFeed s path true rows = .ok s' ∧ readRows s'.storage path = .ok rows := by
  have hnamed : ∀ rows : List Row, (∀ r ∈ rows, r.Full) → (∀ r ∈ rows, r.Plain) →
      ∃ s', FeedFile.writeFeed s path true rows = .ok s' ∧
        readRows s'.storage path = .ok rows := by
    intro rows hfull hplain
    obtain ⟨s', hwrite, hstored⟩ := FeedFile.openEntry_writeFeed h true rows
    refine ⟨s', hwrite, ?_⟩
    rw [readRows_of_openEntry hstored, FeedFile.frontBytes_append]
    exact (rowsOfBytes_iff hfull path).mpr hplain
  refine ⟨hnamed, ?_, ?_⟩
  · intro rows hfull hplain
    obtain ⟨s', hwrite, hstored⟩ := FeedFile.openEntry_writeFeed h false rows
    refine ⟨s', hwrite, ?_⟩
    rw [readRows_of_openEntry hstored, ← rowsOfText_lines_iff hfull hplain,
      ← rowsOfBytes_rowBytes hfull path]
    exact Iff.rfl
  · intro text rows htext
    exact hnamed rows (full_of_rowsOfText htext) (plain_of_rowsOfText htext)

/-- Rows that are easily taken for something else: the names of the columns, nothing at all, and
    quotes behind an order mark. -/
theorem readRows_writeFeed_names_blank_quotes :
    let s : Session := ⟨⟨[], []⟩, none⟩
    let rows := [Row.header, Row.blank, Row.about "\ufeff\"A\"" "\""]
    ∃ session handle, s.create "feed.tsv" = .ok (session, handle) ∧
      (∃ s', FeedFile.writeFeed s "feed.tsv" true rows = .ok s' ∧
        readRows s'.storage "feed.tsv" = .ok rows) ∧
      ∃ s', FeedFile.writeFeed s "feed.tsv" false rows = .ok s' ∧
        readRows s'.storage "feed.tsv" ≠ .ok rows := by
  intro s rows
  have hmade : s.create "feed.tsv" = .ok (s.put ["feed.tsv"] (.file []), ⟨["feed.tsv"], 0⟩) := by
    rfl
  have hfull : ∀ r ∈ rows, r.Full := by decide
  have hplain : ∀ r ∈ rows, r.Plain := by decide
  obtain ⟨hnamed, hnameless, -⟩ := readRows_writeFeed hmade
  obtain ⟨s', hwrite, hread⟩ := hnameless rows hfull hplain
  refine ⟨_, _, hmade, hnamed rows hfull hplain, s', hwrite, ?_⟩
  intro hsame
  exact (hread.mp hsame Row.header rfl).1 rfl

end Feed

end CourseFeed
