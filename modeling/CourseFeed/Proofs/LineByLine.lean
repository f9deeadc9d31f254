import CourseFeed.Proofs.ChangeList
import CourseFeed.Proofs.DecodedLines
import CourseFeed.Proofs.WrittenFeeds

/-!
# Feeds read line by line

A feed is read as records, and a row alone is decoded from a line.  Both come to the same where
carriage returns stand at line ends only: the rows of a text are those of its lines, one by one,
without the blank ones and without the names of the columns in front.

* **`fields_recordsFrom`** — whatever the text, the records are its stretches between line ends,
  as far as they are not empty, each split at tabs.
* **`Tidy`** — no order mark in front, and carriage returns at line ends only.  Then the stretches
  are the filled lines (**`stretches_eq_filledLines`**).
* **`rowsOfLines`** — the rows of lines, each decoded by itself, and **`rowsOfText_eq`**: the rows
  of a tidy text are those of its lines.
* **`rowsOfText_fault`** and **`rowsOfText_fault_iff`** — where there are no rows, it is for the
  first line that is too wide.
* **`Relaid`** — lines that differ in their ends, in blank lines, in the names of the columns or in
  tabs behind short lines, and **`Relaid.rowsOfLines_eq`**: they hold the same rows.
* **`rowsOfText_line_by_line`** — all of it.
-/

namespace CourseFeed.Feed

/-! ## Splitting -/

theorem not_mem_of_mem_splitOn {c : Char} {text line : List Char} (h : line ∈ text.splitOn c) :
    c ∉ line := by
  induction text generalizing line with
  | nil =>
      rw [List.splitOn_nil, List.mem_singleton] at h
      rw [h]
      exact List.not_mem_nil
  | cons d rest ih =>
      rw [List.splitOn_cons_eq_if_modifyHead] at h
      by_cases hd : d = c
      · rw [if_pos (beq_iff_eq.mpr hd)] at h
        rcases List.mem_cons.mp h with rfl | hmem
        · exact List.not_mem_nil
        · exact ih hmem
      · rw [if_neg (by simpa using hd)] at h
        cases hsplit : rest.splitOn c with
        | nil => exact absurd hsplit (List.splitOn_ne_nil c rest)
        | cons first others =>
            rw [hsplit] at h ih
            rcases List.mem_cons.mp h with rfl | hmem
            · have hfirst := ih List.mem_cons_self
              simp [hfirst, Ne.symm hd]
            · exact ih (List.mem_cons_of_mem _ hmem)

/-- A text is split at any kind of mark where lines that end in one of them are split one by one. -/
theorem splitOnP_intercalate {p : Char → Bool} {c : Char} (hc : p c = true)
    {lines : List (List Char)} (hne : lines ≠ []) :
    (List.intercalate [c] lines).splitOnP p = lines.flatMap (·.splitOnP p) := by
  induction lines with
  | nil => exact absurd rfl hne
  | cons line rest ih =>
      cases rest with
      | nil => rw [List.intercalate_singleton, List.flatMap_singleton]
      | cons second others =>
          rw [List.intercalate_cons_cons, List.append_assoc, List.singleton_append,
            List.splitOnP_append_cons line _ hc, ih (List.cons_ne_nil _ _)]
          rfl

/-! ## Records as stretches between line ends -/

/-- The stretches of a text between line ends, without the empty ones. -/
def stretches (text : List Char) : List (List Char) :=
  (text.splitOnP charMarks.isBreak).filter (· ≠ [])

/-- Line ends in front of a text are no part of its stretches. -/
theorem stretches_dropWhile (text : List Char) :
    stretches (text.dropWhile charMarks.isBreak) = stretches text := by
  induction text with
  | nil => rfl
  | cons c rest ih =>
      by_cases hc : charMarks.isBreak c = true
      · rw [List.dropWhile_cons_of_pos hc, ih, stretches, stretches,
          List.splitOnP_cons_eq_if_modifyHead, if_pos hc, List.filter_cons_of_neg (by simp)]
      · rw [List.dropWhile_cons_of_neg hc]

/-- No line end stands in a line. -/
def Clean (line : List Char) : Prop := ∀ c ∈ line, charMarks.isBreak c = false

instance (line : List Char) : Decidable (Clean line) :=
  List.decidableBAll (charMarks.isBreak · = false) line

/-- A line without line ends is one stretch, or none if nothing is in it. -/
theorem stretches_of_clean {line : List Char} (h : Clean line) :
    stretches line = [line].filter (· ≠ []) := by
  rw [stretches, List.splitOnP_eq_singleton h]

/-- Behind a line and its end the stretches go on. -/
theorem stretches_append {line : List Char} (h : Clean line) {c : Char}
    (hc : charMarks.isBreak c = true) (rest : List Char) :
    stretches (line ++ c :: rest) = [line].filter (· ≠ []) ++ stretches rest := by
  rw [stretches, List.splitOnP_append_cons_of_forall_mem h c hc, ← List.singleton_append,
    List.filter_append]
  rfl

theorem consField_eq_modifyHead (c : Char) {fields : List (List Char)} (h : fields ≠ []) :
    consField c fields = fields.modifyHead (c :: ·) := by
  cases fields with
  | nil => exact absurd rfl h
  | cons first rest => rfl

/-- A character that ends no line is the next one of the record, or the end of its first field. -/
theorem takeRecord_cons {c : Char} (hc : charMarks.isBreak c = false) (rest : List Char) :
    takeRecord charMarks (c :: rest) =
      (if c = '\t' then [] :: (takeRecord charMarks rest).1
        else consField c (takeRecord charMarks rest).1, (takeRecord charMarks rest).2) := by
  rw [takeRecord, hc, if_neg Bool.false_ne_true]
  by_cases htab : c = '\t'
  · simp only [if_pos htab, if_pos (show c = charMarks.tab from htab)]
  · simp only [if_neg htab, if_neg (show ¬ c = charMarks.tab from htab)]

/-- A record is what stands before the first line end, split at tabs, and what is behind it is left
    over. -/
theorem takeRecord_spec (text : List Char) :
    ∃ body, Clean body ∧ (takeRecord charMarks text).1 = body.splitOn '\t' ∧
      ((text = body ∧ (takeRecord charMarks text).2 = []) ∨
        ∃ c, charMarks.isBreak c = true ∧ text = body ++ c :: (takeRecord charMarks text).2) := by
  induction text with
  | nil => exact ⟨[], by decide, rfl, Or.inl ⟨rfl, rfl⟩⟩
  | cons c rest ih =>
      cases hc : charMarks.isBreak c with
      | true =>
          refine ⟨[], by decide, ?_, Or.inr ⟨c, hc, ?_⟩⟩
          · rw [takeRecord, if_pos hc]
            rfl
          · rw [takeRecord, if_pos hc]
            rfl
      | false =>
          obtain ⟨body, hclean, hfields, hafter⟩ := ih
          have hclean' : Clean (c :: body) := by
            intro d hd
            rcases List.mem_cons.mp hd with rfl | hmem
            · exact hc
            · exact hclean d hmem
          rw [takeRecord_cons hc]
          refine ⟨c :: body, hclean', ?_, ?_⟩
          · rw [hfields, List.splitOn_cons_eq_if_modifyHead,
              consField_eq_modifyHead c (List.splitOn_ne_nil _ _)]
            by_cases htab : c = '\t'
            · rw [if_pos htab, if_pos (beq_iff_eq.mpr htab)]
            · rw [if_neg htab, if_neg (by simpa using htab)]
          · rcases hafter with ⟨hrest, hnil⟩ | ⟨d, hd, hrest⟩
            · exact Or.inl ⟨congrArg (c :: ·) hrest, hnil⟩
            · exact Or.inr ⟨d, hd, congrArg (c :: ·) hrest⟩

/-- A record that is taken from a text with no line end in front is its first stretch, and the
    others are left over. -/
theorem stretches_takeRecord {c : Char} (hc : charMarks.isBreak c = false) (text : List Char) :
    (stretches (c :: text)).map (·.splitOn '\t') =
      (takeRecord charMarks (c :: text)).1 ::
        (stretches (takeRecord charMarks (c :: text)).2).map (·.splitOn '\t') := by
  obtain ⟨body, hclean, hfields, hafter⟩ := takeRecord_spec (c :: text)
  have hne : body ≠ [] := by
    rintro rfl
    rcases hafter with ⟨hnil, -⟩ | ⟨d, hd, hcons⟩
    · exact nomatch hnil
    · rw [(List.cons.inj hcons).1, hd] at hc
      exact nomatch hc
  have hbody : [body].filter (· ≠ []) = [body] := List.filter_cons_of_pos (by simpa using hne)
  rw [hfields]
  rcases hafter with ⟨htext, hnil⟩ | ⟨d, hd, htext⟩
  · rw [hnil, htext, stretches_of_clean hclean, hbody]
    rfl
  · generalize (takeRecord charMarks (c :: text)).2 = after at htext ⊢
    rw [htext, stretches_append hclean hd, hbody]
    rfl

/-- **The records of a text are its stretches, each split at tabs.** -/
theorem fields_recordsFrom (line offset : Nat) (text : List Char) :
    (recordsFrom charMarks line offset text).map Record.fields =
      (stretches text).map (·.splitOn '\t') := by
  induction line, offset, text using recordsFrom.induct charMarks with
  | case1 line offset text start hnil =>
      rw [recordsFrom, dif_pos hnil, ← stretches_dropWhile,
        show text.dropWhile charMarks.isBreak = [] from hnil]
      rfl
  | case2 line offset text start hne after taken ih =>
      rw [recordsFrom, dif_neg hne, ← stretches_dropWhile, List.map_cons, ih]
      -- the first character that is left is no line end
      cases hstart : text.dropWhile charMarks.isBreak with
      | nil => exact absurd hstart hne
      | cons c rest =>
          have hc : charMarks.isBreak c = false := by
            have hhead := List.head?_dropWhile_not charMarks.isBreak text
            rw [hstart] at hhead
            simpa using hhead
          have hafter : after = (takeRecord charMarks (c :: rest)).2 := by
            rw [← hstart]
          rw [hafter, stretches_takeRecord hc rest]

/-! ## Lines of tidy texts -/

/-- Carriage returns stand at line ends only: before a line feed, or at the end of the text. -/
def ReturnsAtEnds : List Char → Prop
  | [] => True
  | c :: rest => (c = '\r' → rest = [] ∨ rest.head? = some '\n') ∧ ReturnsAtEnds rest

instance decidableReturnsAtEnds : (text : List Char) → Decidable (ReturnsAtEnds text)
  | [] => inferInstanceAs (Decidable True)
  | c :: rest =>
    have := decidableReturnsAtEnds rest
    inferInstanceAs (Decidable ((c = '\r' → rest = [] ∨ rest.head? = some '\n') ∧ _))

/-- A text begins with no order mark, and its carriage returns stand at line ends only. -/
structure Tidy (text : List Char) : Prop where
  no_mark : text.head? ≠ some '\ufeff'
  returns : ReturnsAtEnds text

/-- A line with what is in it: nothing but a carriage return may stand behind that. -/
def LineOf (body line : List Char) : Prop := Clean body ∧ (line = body ∨ line = body ++ ['\r'])

/-- Up to a line feed or the end, a text whose carriage returns stand at line ends is a line. -/
theorem lineOf_of_returns {line : List Char} (hline : '\n' ∉ line) {after : List Char}
    (h : ReturnsAtEnds (line ++ after)) :
    (∃ body, LineOf body line) ∧ ReturnsAtEnds after := by
  induction line with
  | nil => exact ⟨⟨[], by decide, Or.inl rfl⟩, h⟩
  | cons c rest ih =>
      obtain ⟨hreturn, hrest⟩ := h
      have hrest' : '\n' ∉ rest := fun hmem => hline (List.mem_cons_of_mem c hmem)
      obtain ⟨⟨body, hclean, hbody⟩, hreturns⟩ := ih hrest' hrest
      refine ⟨?_, hreturns⟩
      by_cases hc : c = '\r'
      · -- a line feed cannot follow inside the line, so this is its end
        have hnil : rest = [] := by
          cases rest with
          | nil => rfl
          | cons d more =>
              rcases hreturn hc with hnil | hhead
              · exact nomatch hnil
              · exact absurd (Option.some.inj hhead) fun hd => hrest' (hd ▸ List.mem_cons_self)
        rw [hnil, hc]
        exact ⟨[], by decide, Or.inr rfl⟩
      · have hclean' : Clean (c :: body) := by
          intro d hd
          rcases List.mem_cons.mp hd with rfl | hmem
          · have hd : d ≠ '\n' := fun hd => hline (hd ▸ List.mem_cons_self)
            show (decide (d = '\n') || decide (d = '\r')) = false
            rw [decide_eq_false hd, decide_eq_false hc]
            rfl
          · exact hclean d hmem
        refine ⟨c :: body, hclean', ?_⟩
        rcases hbody with rfl | rfl
        · exact Or.inl rfl
        · exact Or.inr rfl

/-- The lines of a text whose carriage returns stand at line ends. -/
theorem lineOf_of_mem_splitOn {text : List Char} (h : ReturnsAtEnds text) :
    ∀ line ∈ text.splitOn '\n', ∃ body, LineOf body line := by
  have hlines : ∀ line ∈ text.splitOn '\n', '\n' ∉ line := fun line => not_mem_of_mem_splitOn
  have hjoin : List.intercalate ['\n'] (text.splitOn '\n') = text := List.intercalate_splitOn '\n'
  rw [← hjoin] at h
  generalize text.splitOn '\n' = lines at h hlines
  induction lines with
  | nil =>
      intro line hline
      exact nomatch hline
  | cons first rest ih =>
      have hfirst := hlines first List.mem_cons_self
      cases rest with
      | nil =>
          rw [List.intercalate_singleton] at h
          intro line hline
          rw [List.mem_singleton.mp hline]
          exact (lineOf_of_returns hfirst (by rw [List.append_nil]; exact h)).1
      | cons second others =>
          rw [List.intercalate_cons_cons, List.append_assoc] at h
          obtain ⟨hline, hreturns⟩ := lineOf_of_returns hfirst h
          have hothers := ih hreturns.2 fun line hmem => hlines line (List.mem_cons_of_mem _ hmem)
          intro line hmem
          rcases List.mem_cons.mp hmem with rfl | hmem
          · exact hline
          · exact hothers line hmem

/-- The lines in which something stands besides a carriage return at the end. -/
def filledLines (lines : List (List Char)) : List (List Char) :=
  lines.filter fun line => Row.chopLine line ≠ []

theorem Clean.getLast?_ne {line : List Char} (h : Clean line) {c : Char}
    (hc : charMarks.isBreak c = true) : line.getLast? ≠ some c := by
  intro hlast
  rw [h c (List.mem_of_getLast? hlast)] at hc
  exact nomatch hc

/-- A line without its end is what is in it. -/
theorem LineOf.chopLine_eq {body line : List Char} (h : LineOf body line) :
    Row.chopLine line = body := by
  obtain ⟨hclean, rfl | rfl⟩ := h
  · rw [Row.chopLine, if_neg (hclean.getLast?_ne rfl), if_neg (hclean.getLast?_ne rfl)]
  · have hfeed : (body ++ ['\r']).getLast? ≠ some '\n' := by
      rw [List.getLast?_concat]
      decide
    rw [Row.chopLine, if_neg hfeed, if_pos List.getLast?_concat, List.dropLast_concat]

theorem Clean.chopLine_eq {line : List Char} (h : Clean line) : Row.chopLine line = line :=
  LineOf.chopLine_eq ⟨h, Or.inl rfl⟩

/-- The stretches of a line are what is in it. -/
theorem LineOf.stretches_eq {body line : List Char} (h : LineOf body line) :
    stretches line = [body].filter (· ≠ []) := by
  obtain ⟨hclean, rfl | rfl⟩ := h
  · exact stretches_of_clean hclean
  · rw [stretches_append hclean rfl]
    exact List.append_nil _

/-- **The stretches of a text whose carriage returns stand at line ends are its filled lines.** -/
theorem stretches_eq_filledLines {text : List Char} (h : ReturnsAtEnds text) :
    stretches text = (filledLines (text.splitOn '\n')).map Row.chopLine := by
  have hlines := lineOf_of_mem_splitOn h
  have hjoin : List.intercalate ['\n'] (text.splitOn '\n') = text := List.intercalate_splitOn '\n'
  have hsplit : stretches text = (text.splitOn '\n').flatMap stretches := by
    conv => lhs; rw [← hjoin]
    rw [stretches, splitOnP_intercalate rfl (List.splitOn_ne_nil _ _), List.filter_flatMap]
    rfl
  rw [hsplit]
  generalize text.splitOn '\n' = lines at hlines ⊢
  induction lines with
  | nil => rfl
  | cons line rest ih =>
      obtain ⟨body, hbody⟩ := hlines line List.mem_cons_self
      have hrest := ih fun line hmem => hlines line (List.mem_cons_of_mem _ hmem)
      rw [List.flatMap_cons, hrest, hbody.stretches_eq]
      by_cases hnil : body = []
      · rw [List.filter_cons_of_neg (by simpa using hnil), filledLines, filledLines,
          List.filter_cons_of_neg (by simpa [hbody.chopLine_eq] using hnil)]
        rfl
      · rw [List.filter_cons_of_pos (by simpa using hnil), filledLines, filledLines,
          List.filter_cons_of_pos (by simpa [hbody.chopLine_eq] using hnil), List.map_cons,
          hbody.chopLine_eq]
        rfl

/-! ## Rows of lines -/

/-- A fault as it is told about another line. -/
def atLine (line : Nat) : Fault → Fault
  | .tooWide _ fields => .tooWide line fields
  | fault => fault

/-- The rows of some lines, each decoded by itself. -/
def decodeLines (lines : List (List Char)) : Except Fault (List Row) :=
  lines.mapM fun line => Row.decode (String.ofList line)

/-- The rows of the filled lines, without the names of the columns in front. -/
def rowsOfLines (lines : List (List Char)) : Except Fault (List Row) :=
  (decodeLines (filledLines lines)).map dropHeader

theorem decodeLines_cons (line : List Char) (rest : List (List Char)) :
    decodeLines (line :: rest) =
      (do let row ← Row.decode (String.ofList line)
          return row :: (← decodeLines rest)) :=
  List.mapM_cons

theorem mapError_ofCells (cells : List String) (line line' : Nat) :
    (Row.ofCells cells line).mapError (atLine line') = Row.ofCells cells line' := by
  rw [Row.ofCells, Row.ofCells]
  by_cases hwide : columnCount < cells.length
  · rw [if_pos hwide, if_pos hwide]
    rfl
  · rw [if_neg hwide, if_neg hwide]
    rfl

/-- Records that have the fields of lines have their rows. -/
theorem mapError_rowsOfRecords {records : List (Record Char)} {lines : List (List Char)}
    (h : records.map Record.fields = lines.map fun line => (Row.chopLine line).splitOn '\t') :
    (rowsOfRecords records).mapError (atLine 1) = decodeLines lines := by
  induction lines generalizing records with
  | nil =>
      rw [List.map_eq_nil_iff.mp h]
      rfl
  | cons line rest ih =>
      obtain ⟨record, records, rfl, hfirst, hrest⟩ := List.map_eq_cons_iff.mp h
      have hfields : record.fields = (Row.chopLine line).splitOn '\t' := hfirst
      rw [decodeLines_cons, ← ih hrest, decode_ofList, ← hfields,
        ← mapError_ofCells _ record.line 1, rowsOfRecords]
      cases Row.ofCells (record.fields.map String.ofList) record.line with
      | error fault => rfl
      | ok row => cases rowsOfRecords records <;> rfl

/-- **The rows of a tidy text are those of its lines.** -/
theorem rowsOfText_eq {text : String} (h : Tidy text.toList) :
    (rowsOfText text).mapError (atLine 1) = rowsOfLines (text.toList.splitOn '\n') := by
  have hfields := fields_recordsFrom 1 0 text.toList
  rw [stretches_eq_filledLines h.returns, List.map_map] at hfields
  rw [rowsOfText, recordsOfText_of_head h.no_mark, rowsOfLines, ← mapError_rowsOfRecords hfields]
  cases rowsOfRecords (recordsFrom charMarks 1 0 text.toList) <;> rfl

/-- No line end stands in the line of a plain row. -/
theorem clean_encode {r : Row} (h : r.Plain) : Clean r.encode.toList := by
  intro c hc
  rw [toList_encode] at hc
  exact isBreak_of_mem_joinFields (plain_cells h) hc

/-! ## Lines that are too wide -/

/-- Lines that are not too wide are decoded, and otherwise the first that is too wide is the
    fault. -/
theorem decodeLines_spec (lines : List (List Char)) :
    match (lines.map fieldCount).find? (columnCount < ·) with
    | some fields => decodeLines lines = .error (.tooWide 1 fields)
    | none => ∃ rows, decodeLines lines = .ok rows := by
  induction lines with
  | nil => exact ⟨[], rfl⟩
  | cons line rest ih =>
      rw [decodeLines_cons, decode_eq_ite, List.map_cons]
      by_cases hwide : columnCount < fieldCount line
      · rw [if_pos hwide, List.find?_cons_of_pos (by simpa using hwide)]
        rfl
      · rw [if_neg hwide, List.find?_cons_of_neg (by simpa using hwide)]
        cases hfind : (rest.map fieldCount).find? (columnCount < ·) with
        | some fields =>
            simp only [hfind] at ih ⊢
            rw [ih]
            rfl
        | none =>
            simp only [hfind] at ih ⊢
            obtain ⟨rows, hrows⟩ := ih
            rw [hrows]
            exact ⟨_, rfl⟩

/-- Blank lines are not too wide. -/
theorem find?_filledLines (lines : List (List Char)) :
    ((filledLines lines).map fieldCount).find? (columnCount < ·) =
      (lines.map fieldCount).find? (columnCount < ·) := by
  induction lines with
  | nil => rfl
  | cons line rest ih =>
      by_cases hnil : Row.chopLine line = []
      · have hblank : fieldCount line = 1 := by
          rw [← fieldCount_chopLine, hnil]
          rfl
        rw [filledLines, List.filter_cons_of_neg (by simpa using hnil), List.map_cons,
          List.find?_cons_of_neg (by rw [hblank]; decide)]
        exact ih
      · rw [filledLines, List.filter_cons_of_pos (by simpa using hnil), List.map_cons,
          List.map_cons, List.find?_cons, List.find?_cons, ← ih, filledLines]

/-- **A tidy text is at fault for the first line that is too wide**, and for nothing else. -/
theorem rowsOfText_spec {text : String} (h : Tidy text.toList) :
    match ((text.toList.splitOn '\n').map fieldCount).find? (columnCount < ·) with
    | some fields => ∃ line, rowsOfText text = .error (.tooWide line fields)
    | none => ∃ rows, rowsOfText text = .ok rows := by
  have hrows := rowsOfText_eq h
  have hlines := decodeLines_spec (filledLines (text.toList.splitOn '\n'))
  rw [find?_filledLines] at hlines
  cases hfind : ((text.toList.splitOn '\n').map fieldCount).find? (columnCount < ·) with
  | some fields =>
      simp only [hfind] at hlines ⊢
      rw [rowsOfLines, hlines] at hrows
      cases htext : rowsOfText text with
      | ok rows =>
          rw [htext] at hrows
          exact nomatch hrows
      | error fault =>
          rw [htext] at hrows
          have hfault : atLine 1 fault = .tooWide 1 fields := Except.error.inj hrows
          cases fault with
          | tooWide line n =>
              cases hfault
              exact ⟨line, rfl⟩
          | _ => exact nomatch hfault
  | none =>
      simp only [hfind] at hlines ⊢
      obtain ⟨rows, hok⟩ := hlines
      rw [rowsOfLines, hok] at hrows
      cases htext : rowsOfText text with
      | ok rows => exact ⟨rows, rfl⟩
      | error fault =>
          rw [htext] at hrows
          exact nomatch hrows

/-- A tidy text is at fault for its first line that is too wide. -/
theorem rowsOfText_fault {text : String} (h : Tidy text.toList) {fault : Fault}
    (hfault : rowsOfText text = .error fault) :
    ∃ line fields, fault = .tooWide line fields ∧
      ((text.toList.splitOn '\n').map fieldCount).find? (columnCount < ·) = some fields := by
  have hspec := rowsOfText_spec h
  cases hfind : ((text.toList.splitOn '\n').map fieldCount).find? (columnCount < ·) with
  | some fields =>
      simp only [hfind] at hspec
      obtain ⟨line, hline⟩ := hspec
      exact ⟨line, fields, Except.error.inj (hfault.symm.trans hline), rfl⟩
  | none =>
      simp only [hfind] at hspec
      obtain ⟨rows, hrows⟩ := hspec
      cases hfault.symm.trans hrows

/-- A tidy text is at fault just if one of its lines is too wide. -/
theorem rowsOfText_fault_iff {text : String} (h : Tidy text.toList) :
    (∃ fault, rowsOfText text = .error fault) ↔
      ∃ line ∈ text.toList.splitOn '\n', columnCount < fieldCount line := by
  constructor
  · rintro ⟨fault, hfault⟩
    obtain ⟨-, fields, -, hfind⟩ := rowsOfText_fault h hfault
    obtain ⟨line, hmem, hcount⟩ := List.mem_map.mp (List.mem_of_find?_eq_some hfind)
    exact ⟨line, hmem, by simpa [hcount] using List.find?_some hfind⟩
  · rintro ⟨line, hmem, hwide⟩
    have hspec := rowsOfText_spec h
    cases hfind : ((text.toList.splitOn '\n').map fieldCount).find? (columnCount < ·) with
    | some fields =>
        simp only [hfind] at hspec
        obtain ⟨line', hline⟩ := hspec
        exact ⟨_, hline⟩
    | none =>
        have hnone := List.find?_eq_none.mp hfind _ (List.mem_map_of_mem hmem)
        exact absurd (decide_eq_true hwide) hnone

/-! ## Lines laid out in another way -/

/-- Lines that hold the same rows in another layout. -/
inductive Relaid : List (List Char) → List (List Char) → Prop
  | refl (lines : List (List Char)) : Relaid lines lines
  | symm {lines lines' : List (List Char)} : Relaid lines lines' → Relaid lines' lines
  | trans {lines lines' lines'' : List (List Char)} :
      Relaid lines lines' → Relaid lines' lines'' → Relaid lines lines''
  /-- A line ends in a line feed alone or in a carriage return and a line feed. -/
  | lineEnd (above below : List (List Char)) {line : List Char} : Clean line →
      Relaid (above ++ line :: below) (above ++ (line ++ ['\r']) :: below)
  /-- A blank line may stand anywhere.  At the end it stands for a line feed behind the last
      line. -/
  | blank (above below : List (List Char)) : Relaid (above ++ below) (above ++ [] :: below)
  /-- The names of the columns may stand in front, unless they stand there already. -/
  | names {lines : List (List Char)} :
      (∀ first ∈ (filledLines lines).head?, Row.decode (String.ofList first) ≠ .ok Row.header) →
      Relaid lines (Row.header.encode.toList :: lines)
  /-- A tab may stand behind a line that has too few fields. -/
  | pad (above below : List (List Char)) {line : List Char} : Clean line → line ≠ [] →
      fieldCount line < columnCount →
      Relaid (above ++ line :: below) (above ++ (line ++ ['\t']) :: below)

/-- One more tab is one more field, an empty one. -/
theorem splitOn_concat_tab (line : List Char) :
    (line ++ ['\t']).splitOn '\t' = line.splitOn '\t' ++ [[]] :=
  List.splitOnP_append_cons line [] (beq_self_eq_true '\t')

theorem Clean.concat_tab {line : List Char} (h : Clean line) : Clean (line ++ ['\t']) := by
  intro c hc
  rcases List.mem_append.mp hc with hmem | hmem
  · exact h c hmem
  · rw [List.mem_singleton.mp hmem]
    rfl

/-- A line that has too few fields is filled up, with a tab behind it or without. -/
theorem decode_concat_tab {line : List Char} (h : Clean line)
    (hshort : fieldCount line < columnCount) :
    Row.decode (String.ofList (line ++ ['\t'])) = Row.decode (String.ofList line) := by
  have hcount : fieldCount (line ++ ['\t']) = fieldCount line + 1 := by
    rw [fieldCount, splitOn_concat_tab, List.length_append]
    rfl
  -- what the tab is in front of is the first of the cells that are missing
  have hmissing : columnCount - fieldCount line =
      (columnCount - (fieldCount line + 1)) + 1 := by omega
  rw [decode_eq_ite, decode_eq_ite, hcount, if_neg (by omega), if_neg (by omega),
    h.concat_tab.chopLine_eq, h.chopLine_eq, splitOn_concat_tab, hmissing, List.replicate_succ,
    List.map_append, List.append_assoc]
  rfl

/-- The rows of lines are the same where one line is exchanged for another that is decoded alike. -/
theorem rowsOfLines_exchange (above below : List (List Char)) {line line' : List Char}
    (hblank : Row.chopLine line = [] ↔ Row.chopLine line' = [])
    (hdecode : Row.decode (String.ofList line) = Row.decode (String.ofList line')) :
    rowsOfLines (above ++ line :: below) = rowsOfLines (above ++ line' :: below) := by
  rw [rowsOfLines, rowsOfLines, filledLines, filledLines, List.filter_append, List.filter_append]
  by_cases hnil : Row.chopLine line = []
  · rw [List.filter_cons_of_neg (by simpa using hnil),
      List.filter_cons_of_neg (by simpa using hblank.mp hnil)]
  · rw [List.filter_cons_of_pos (by simpa using hnil),
      List.filter_cons_of_pos (by simpa using fun h => hnil (hblank.mpr h)), decodeLines,
      decodeLines, List.mapM_append, List.mapM_append, List.mapM_cons, List.mapM_cons, hdecode]

/-- The names of the columns in front are left out, if they do not stand there already. -/
theorem rowsOfLines_names {lines : List (List Char)}
    (h : ∀ first ∈ (filledLines lines).head?,
      Row.decode (String.ofList first) ≠ .ok Row.header) :
    rowsOfLines (Row.header.encode.toList :: lines) = rowsOfLines lines := by
  have hfull : Row.header.Full := by decide
  have hplain : Row.header.Plain := by decide
  have hne : Row.chopLine Row.header.encode.toList ≠ [] := by
    rw [(clean_encode hplain).chopLine_eq]
    exact fun hnil => hfull.encode_ne_empty (String.toList_eq_nil_iff.mp hnil)
  have hfilled : filledLines (Row.header.encode.toList :: lines) =
      Row.header.encode.toList :: filledLines lines :=
    List.filter_cons_of_pos (by simpa using hne)
  have hnames : rowsOfLines (Row.header.encode.toList :: lines) =
      decodeLines (filledLines lines) := by
    rw [rowsOfLines, hfilled, decodeLines_cons, String.ofList_toList,
      decode_encode hfull hplain]
    cases decodeLines (filledLines lines) with
    | error fault => rfl
    | ok rows =>
        show Except.ok (dropHeader (Row.header :: rows)) = _
        rw [dropHeader, if_pos (by decide)]
  rw [hnames, rowsOfLines]
  cases hlines : filledLines lines with
  | nil => rfl
  | cons first rest =>
      have hfirst := h first (by rw [hlines]; rfl)
      rw [decodeLines_cons]
      cases hrow : Row.decode (String.ofList first) with
      | error fault => rfl
      | ok row =>
          have hne : ¬ row.isHeader = true := by
            intro hheader
            rw [hrow, beq_iff_eq.mp hheader] at hfirst
            exact hfirst rfl
          cases decodeLines rest with
          | error fault => rfl
          | ok rows =>
              show Except.ok (row :: rows) = Except.ok (dropHeader (row :: rows))
              rw [dropHeader, if_neg hne]

/-- **Another layout of lines holds the same rows.** -/
theorem Relaid.rowsOfLines_eq {lines lines' : List (List Char)} (h : Relaid lines lines') :
    rowsOfLines lines = rowsOfLines lines' := by
  induction h with
  | refl lines => rfl
  | symm _ ih => exact ih.symm
  | trans _ _ ih ih' => exact ih.trans ih'
  | @lineEnd above below line hclean =>
      have hchop : Row.chopLine line = Row.chopLine (line ++ ['\r']) :=
        hclean.chopLine_eq.trans (LineOf.chopLine_eq ⟨hclean, Or.inr rfl⟩).symm
      refine rowsOfLines_exchange above below (by rw [hchop]) ?_
      rw [decode_ofList, decode_ofList, hchop]
  | blank above below =>
      have hblank : filledLines ([] :: below) = filledLines below :=
        List.filter_cons_of_neg (by decide)
      rw [rowsOfLines, rowsOfLines, filledLines, filledLines, List.filter_append,
        List.filter_append]
      exact congrArg (fun filled => (decodeLines (_ ++ filled)).map dropHeader) hblank.symm
  | names hfirst => exact (rowsOfLines_names hfirst).symm
  | @pad above below line hclean hne hshort =>
      refine rowsOfLines_exchange above below ?_ (decode_concat_tab hclean hshort).symm
      rw [hclean.chopLine_eq, hclean.concat_tab.chopLine_eq]
      exact iff_of_false hne (List.append_ne_nil_of_right_ne_nil line (List.cons_ne_nil _ _))

/-- **Feeds are read line by line.**  The rows of a tidy text are those of its lines: each line that
    is not blank is decoded by itself, and the names of the columns are left out in front.  The
    text is at fault just if a line is too wide, and then for the first of these.  Another tidy text
    with another layout of the same lines has the same rows, so between the two nothing changes. -/
theorem rowsOfText_line_by_line {text : String} (h : Tidy text.toList) :
    let lines := text.toList.splitOn '\n'
    (rowsOfText text).mapError (atLine 1) = rowsOfLines lines ∧
    ((∃ fault, rowsOfText text = .error fault) ↔ ∃ line ∈ lines, columnCount < fieldCount line) ∧
    (∀ fault, rowsOfText text = .error fault → ∃ line fields, fault = .tooWide line fields ∧
      (lines.map fieldCount).find? (columnCount < ·) = some fields) ∧
    ∀ other : String, Tidy other.toList → Relaid lines (other.toList.splitOn '\n') →
      (rowsOfText other).mapError (atLine 1) = (rowsOfText text).mapError (atLine 1) ∧
      ∀ rows rows', rowsOfText text = .ok rows → rowsOfText other = .ok rows' →
        rows' = rows ∧ changes (Keyed.ofRows rows) (Keyed.ofRows rows') = [] := by
  intro lines
  refine ⟨rowsOfText_eq h, rowsOfText_fault_iff h, fun _ => rowsOfText_fault h, ?_⟩
  intro other hother hrelaid
  have hsame : (rowsOfText other).mapError (atLine 1) = (rowsOfText text).mapError (atLine 1) := by
    rw [rowsOfText_eq h, rowsOfText_eq hother]
    exact hrelaid.rowsOfLines_eq.symm
  refine ⟨hsame, ?_⟩
  intro rows rows' hrows hrows'
  rw [hrows, hrows'] at hsame
  obtain rfl := Except.ok.inj hsame
  exact ⟨rfl, changes_self (Keyed.proper_ofRows _)⟩

/-- A short line, and the same one behind a blank one that ends otherwise, with a tab behind it and
    no line end there. -/
theorem rowsOfText_line_by_line_relaid :
    let text := "A\tT\n"
    let other := "\r\nA\tT\t"
    Tidy text.toList ∧ Tidy other.toList ∧
      Relaid (text.toList.splitOn '\n') (other.toList.splitOn '\n') ∧
      ∃ rows, rowsOfText text = .ok rows ∧ rowsOfText other = .ok rows := by
  intro text other
  have htext : Tidy text.toList := ⟨by decide, by decide⟩
  have hother : Tidy other.toList := ⟨by decide, by decide⟩
  have hrelaid : Relaid (text.toList.splitOn '\n') (other.toList.splitOn '\n') := by
    have hlines : text.toList.splitOn '\n' = [['A', '\t', 'T'], []] := by decide
    have hlines' : other.toList.splitOn '\n' = [['\r'], ['A', '\t', 'T', '\t']] := by decide
    rw [hlines, hlines']
    refine (Relaid.blank [_] []).symm.trans ?_
    refine (Relaid.pad [] [] (by decide) (by decide) (by decide)).trans ?_
    exact (Relaid.blank [] _).trans (Relaid.lineEnd [] _ (by decide))
  obtain ⟨-, hfault, -, hsame⟩ := rowsOfText_line_by_line htext
  have hrows := (hsame other hother hrelaid).1
  refine ⟨htext, hother, hrelaid, ?_⟩
  cases hread : rowsOfText text with
  | error fault =>
      have hwide := hfault.mp ⟨fault, hread⟩
      exact absurd hwide (by decide)
  | ok rows =>
      rw [hread] at hrows
      cases hread' : rowsOfText other with
      | error fault =>
          rw [hread'] at hrows
          exact nomatch hrows
      | ok rows' =>
          rw [hread'] at hrows
          exact ⟨rows, rfl, congrArg Except.ok (Except.ok.inj hrows)⟩

end CourseFeed.Feed
