import CourseFeed.Proofs.LineByLine

/-!
# The line that a fault names

A text is at fault for its first line that is too wide, and the fault says how many fields that line
has.  It also says on which line reading the record began, and that is right behind the end of the
record before it.  Blank lines in front are read with the record, and so is the line feed of a line
that ends in a carriage return and a line feed, since the carriage return ends the record.  So the
line that is named may lie above the one that is too wide.

* **`toldAfter`** — the line on which reading a record begins behind some lines
  (**`toldAfter_concat`** for one line more); it is the next line just if the last one has something
  in it and ends in a line feed alone (**`toldAfter_eq_iff`**).
* **`recordsFrom_clean`** — line ends in front of a record count for the line of the one after it.
* **`rowsOfRecords_tooWide`** — so the fault names that line.
* **`rowsOfText_tooWide`** — what a text is at fault for, and **`fault_above_wide_line`**: texts
  whose fault names a line above the one that is too wide.
-/

namespace CourseFeed.Feed

/-! ## Where reading begins -/

/-- The line on which reading the next record begins behind some lines.  The first of them is that
    of number `line`; in front of them, reading the next record began on the line `told`. -/
def toldAfter (told line : Nat) : List (List Char) → Nat
  | [] => told
  | text :: rest =>
    if Row.chopLine text = [] then toldAfter told (line + 1) rest
    else toldAfter (if text.getLast? = some '\r' then line else line + 1) (line + 1) rest

/-- A line that is not blank is what counts for reading the next record. -/
theorem toldAfter_concat (told line : Nat) (before : List (List Char)) (last : List Char) :
    toldAfter told line (before ++ [last]) =
      if Row.chopLine last = [] then toldAfter told line before
      else if last.getLast? = some '\r' then line + before.length
      else line + before.length + 1 := by
  induction before generalizing told line with
  | nil => rfl
  | cons text rest ih =>
      have hlength : line + (text :: rest).length = line + 1 + rest.length := by
        rw [List.length_cons]
        omega
      rw [hlength, List.cons_append, toldAfter, toldAfter]
      by_cases hblank : Row.chopLine text = []
      · rw [if_pos hblank, if_pos hblank, ih]
      · rw [if_neg hblank, if_neg hblank, ih]

/-- Reading begins on the next line or above it. -/
theorem toldAfter_le {told line : Nat} (h : told ≤ line) (before : List (List Char)) :
    toldAfter told line before ≤ line + before.length := by
  induction before generalizing told line with
  | nil => exact h
  | cons text rest ih =>
      have hlength : line + (text :: rest).length = line + 1 + rest.length := by
        rw [List.length_cons]
        omega
      rw [hlength, toldAfter]
      by_cases hblank : Row.chopLine text = []
      · rw [if_pos hblank]
        exact ih (Nat.le_succ_of_le h)
      · rw [if_neg hblank]
        refine ih ?_
        show (if text.getLast? = some '\r' then line else line + 1) ≤ line + 1
        split
        · exact Nat.le_succ line
        · exact Nat.le_refl (line + 1)

/-- **Reading begins on the next line just if the last one has something in it and ends in a line
    feed alone**, or if there is none. -/
theorem toldAfter_eq_iff (before : List (List Char)) :
    toldAfter 1 1 before = before.length + 1 ↔
      ∀ last ∈ before.getLast?, Row.chopLine last ≠ [] ∧ last.getLast? ≠ some '\r' := by
  rcases List.eq_nil_or_concat before with rfl | ⟨front, last, rfl⟩
  · exact iff_of_true rfl fun last hlast => nomatch hlast
  · have hlast : ∀ {P : List Char → Prop}, (∀ l ∈ (front ++ [last]).getLast?, P l) ↔ P last := by
      intro P
      rw [List.getLast?_concat]
      exact ⟨fun h => h last rfl, fun h l hl => Option.some.inj hl ▸ h⟩
    have hle : toldAfter 1 1 front ≤ 1 + front.length := toldAfter_le (Nat.le_refl 1) front
    rw [List.concat_eq_append, hlast, toldAfter_concat, List.length_append, List.length_singleton]
    by_cases hblank : Row.chopLine last = []
    · rw [if_pos hblank]
      exact iff_of_false (by omega) fun h => h.1 hblank
    · by_cases hreturn : last.getLast? = some '\r'
      · rw [if_neg hblank, if_pos hreturn]
        exact iff_of_false (by omega) fun h => h.2 hreturn
      · rw [if_neg hblank, if_neg hreturn]
        exact iff_of_true (by omega) ⟨hblank, hreturn⟩

/-! ## One record -/

/-- Line ends only. -/
def Breaks (text : List Char) : Prop := ∀ c ∈ text, charMarks.isBreak c = true

theorem breaks_nil : Breaks [] := fun _ hc => nomatch hc

theorem breaks_singleton {c : Char} (hc : charMarks.isBreak c = true) : Breaks [c] := by
  intro d hd
  rw [List.mem_singleton.mp hd]
  exact hc

theorem Breaks.append {text more : List Char} (h : Breaks text) (hmore : Breaks more) :
    Breaks (text ++ more) := by
  intro c hc
  rcases List.mem_append.mp hc with hmem | hmem
  · exact h c hmem
  · exact hmore c hmem

/-- What stands up to a line end, or to the end of the text, is the record, split at tabs. -/
theorem takeRecord_clean {body : List Char} (h : Clean body) {rest after : List Char}
    (hend : takeRecord charMarks rest = ([[]], after)) :
    takeRecord charMarks (body ++ rest) = (body.splitOn '\t', after) := by
  induction body with
  | nil => exact hend
  | cons c body ih =>
      rw [List.cons_append, takeRecord_cons (h c List.mem_cons_self),
        ih fun d hd => h d (List.mem_cons_of_mem c hd), List.splitOn_cons_eq_if_modifyHead,
        consField_eq_modifyHead c (List.splitOn_ne_nil _ _)]
      by_cases htab : c = '\t'
      · rw [if_pos htab, if_pos (beq_iff_eq.mpr htab)]
      · rw [if_neg htab, if_neg (by simpa using htab)]

/-- **Reading a record behind some line ends begins before these**; the characters up to what is
    left over are counted for the record after it. -/
theorem recordsFrom_clean {gap body : List Char} (hgap : Breaks gap) (hbody : Clean body)
    (hne : body ≠ []) {rest after : List Char}
    (hend : takeRecord charMarks rest = ([[]], after)) (line offset : Nat) :
    ∃ offset', recordsFrom charMarks line offset (gap ++ (body ++ rest)) =
      ⟨body.splitOn '\t', line, offset⟩ ::
        recordsFrom charMarks (line + ((gap ++ (body ++ rest)).take
          ((gap ++ (body ++ rest)).length - after.length)).count '\n') offset' after := by
  have hstart : (gap ++ (body ++ rest)).dropWhile charMarks.isBreak = body ++ rest := by
    rw [List.dropWhile_append_of_pos hgap]
    cases body with
    | nil => exact absurd rfl hne
    | cons c body =>
        rw [List.cons_append, List.dropWhile_cons_of_neg]
        rw [hbody c List.mem_cons_self]
        exact Bool.false_ne_true
  have hfilled : ¬ (gap ++ (body ++ rest)).dropWhile charMarks.isBreak = [] := by
    rw [hstart]
    exact List.append_ne_nil_of_left_ne_nil hne rest
  rw [recordsFrom, dif_neg hfilled]
  simp only [hstart, takeRecord_clean hbody hend]
  exact ⟨_, rfl⟩

/-- A record that a line end follows: of the line ends in front of it and of this one, those that
    are line feeds are counted. -/
theorem recordsFrom_break {gap body : List Char} (hgap : Breaks gap) (hbody : Clean body)
    (hne : body ≠ []) {c : Char} (hc : charMarks.isBreak c = true) (line offset : Nat)
    (after : List Char) :
    ∃ offset', recordsFrom charMarks line offset (gap ++ (body ++ c :: after)) =
      ⟨body.splitOn '\t', line, offset⟩ ::
        recordsFrom charMarks (line + gap.count '\n' + [c].count '\n') offset' after := by
  have hend : takeRecord charMarks (c :: after) = ([[]], after) := by
    rw [takeRecord, if_pos hc]
  obtain ⟨offset', hrecords⟩ := recordsFrom_clean hgap hbody hne hend line offset
  have htaken : (gap ++ (body ++ c :: after)).take
      ((gap ++ (body ++ c :: after)).length - after.length) = gap ++ (body ++ [c]) := by
    have htext : gap ++ (body ++ c :: after) = (gap ++ (body ++ [c])) ++ after := by simp
    rw [htext, List.length_append, Nat.add_sub_cancel, List.take_left]
  have hfeeds : body.count '\n' = 0 := by
    refine List.count_eq_zero.mpr ?_
    intro hmem
    cases hbody _ hmem
  refine ⟨offset', ?_⟩
  rw [hrecords, htaken, List.count_append, List.count_append, hfeeds, Nat.zero_add, Nat.add_assoc]

/-! ## Lines one after the other -/

theorem intercalate_cons_append (line : List Char) (before : List (List Char)) (wide : List Char)
    (after : List (List Char)) :
    List.intercalate ['\n'] (line :: (before ++ wide :: after)) =
      line ++ '\n' :: List.intercalate ['\n'] (before ++ wide :: after) := by
  cases before with
  | nil =>
      rw [List.nil_append, List.intercalate_cons_cons, List.append_assoc]
      rfl
  | cons second before =>
      rw [List.cons_append, List.intercalate_cons_cons, List.append_assoc]
      rfl

/-- A blank line has no line feed in it, but perhaps a carriage return. -/
theorem LineOf.breaks {line : List Char} (h : LineOf [] line) :
    Breaks line ∧ line.count '\n' = 0 := by
  obtain ⟨-, rfl | rfl⟩ := h
  · exact ⟨breaks_nil, rfl⟩
  · exact ⟨breaks_singleton rfl, rfl⟩

/-- Behind what is in a line stands a line end, or nothing. -/
theorem LineOf.exists_end {body line : List Char} (h : LineOf body line)
    (after : List (List Char)) :
    ∃ rest left, List.intercalate ['\n'] (line :: after) = body ++ rest ∧
      takeRecord charMarks rest = ([[]], left) := by
  cases after with
  | nil =>
      rw [List.intercalate_singleton]
      obtain ⟨-, rfl | rfl⟩ := h
      · exact ⟨[], [], (List.append_nil line).symm, rfl⟩
      · exact ⟨['\r'], [], rfl, rfl⟩
  | cons second others =>
      rw [List.intercalate_cons_cons, List.append_assoc]
      obtain ⟨-, rfl | rfl⟩ := h
      · exact ⟨'\n' :: List.intercalate ['\n'] (second :: others), _, rfl, rfl⟩
      · rw [List.append_assoc]
        exact ⟨'\r' :: '\n' :: List.intercalate ['\n'] (second :: others), _, rfl, rfl⟩

/-- The record of a line has as many fields as the line. -/
theorem LineOf.length_splitOn {body line : List Char} (h : LineOf body line) :
    (body.splitOn '\t').length = fieldCount line := by
  rw [← fieldCount_chopLine line, h.chopLine_eq]
  rfl

/-- A record that is not too wide leaves the fault to the records behind it. -/
theorem rowsOfRecords_cons_error {record : Record Char} {records : List (Record Char)}
    {fault : Fault} (hnarrow : record.fields.length ≤ columnCount)
    (h : rowsOfRecords records = .error fault) :
    rowsOfRecords (record :: records) = .error fault := by
  rw [rowsOfRecords, Row.ofCells, List.length_map, if_neg (Nat.not_lt_of_le hnarrow), h]
  rfl

/-- A record that is too wide is the fault. -/
theorem rowsOfRecords_cons_tooWide {record : Record Char} (records : List (Record Char))
    (hwide : columnCount < record.fields.length) :
    rowsOfRecords (record :: records) = .error (.tooWide record.line record.fields.length) := by
  rw [rowsOfRecords, Row.ofCells, List.length_map, if_pos hwide]
  rfl

/-- **The fault of the first line that is too wide names the line on which reading it began.**  The
    line ends that are still to be read in front of the lines stand on lines above them. -/
theorem rowsOfRecords_tooWide {before after : List (List Char)} {wide : List Char}
    (hlines : ∀ line ∈ before ++ wide :: after, ∃ body, LineOf body line)
    (hnarrow : ∀ line ∈ before, fieldCount line ≤ columnCount)
    (hwide : columnCount < fieldCount wide) (gap : List Char) (hgap : Breaks gap)
    (told offset : Nat) :
    rowsOfRecords (recordsFrom charMarks told offset
        (gap ++ List.intercalate ['\n'] (before ++ wide :: after))) =
      .error (.tooWide (toldAfter told (told + gap.count '\n') before) (fieldCount wide)) := by
  induction before generalizing gap told offset with
  | nil =>
      obtain ⟨body, hbody⟩ := hlines wide List.mem_cons_self
      rw [← hbody.length_splitOn] at hwide ⊢
      have hne : body ≠ [] := by
        rintro rfl
        exact absurd hwide (by decide)
      obtain ⟨rest, left, htext, hend⟩ := hbody.exists_end after
      obtain ⟨offset', hrecords⟩ := recordsFrom_clean hgap hbody.1 hne hend told offset
      rw [List.nil_append, htext, hrecords]
      exact rowsOfRecords_cons_tooWide _ hwide
  | cons line rest ih =>
      obtain ⟨body, hbody⟩ := hlines line List.mem_cons_self
      have hrest := ih (fun l hl => hlines l (List.mem_cons_of_mem line hl))
        fun l hl => hnarrow l (List.mem_cons_of_mem line hl)
      have hcount : (body.splitOn '\t').length ≤ columnCount := by
        rw [hbody.length_splitOn]
        exact hnarrow line List.mem_cons_self
      have hfeed : charMarks.isBreak '\n' = true := rfl
      have hreturn : charMarks.isBreak '\r' = true := rfl
      rw [List.cons_append, intercalate_cons_append, toldAfter, hbody.chopLine_eq]
      generalize List.intercalate ['\n'] (rest ++ wide :: after) = text at hrest ⊢
      by_cases hnil : body = []
      · -- a blank line is read with the record behind it
        rw [hnil] at hbody
        obtain ⟨hbreaks, hfeeds⟩ := hbody.breaks
        have hread := hrest (gap ++ (line ++ ['\n']))
          (hgap.append (hbreaks.append (breaks_singleton hfeed))) told offset
        rw [List.count_append, List.count_append, hfeeds, List.append_assoc, List.append_assoc,
          List.singleton_append] at hread
        rw [if_pos hnil]
        exact hread
      · rw [if_neg hnil]
        obtain ⟨hclean, rfl | rfl⟩ := hbody
        · -- a line feed ends the record, and the next one is read from the next line on
          obtain ⟨offset', hrecords⟩ := recordsFrom_break hgap hclean hnil hfeed told offset text
          rw [hrecords, if_neg (hclean.getLast?_ne hreturn)]
          exact rowsOfRecords_cons_error hcount
            (hrest [] breaks_nil (told + gap.count '\n' + 1) offset')
        · -- a carriage return ends the record, and the line feed is read with the next one
          obtain ⟨offset', hrecords⟩ :=
            recordsFrom_break hgap hclean hnil hreturn told offset ('\n' :: text)
          rw [List.append_assoc, List.singleton_append, hrecords, if_pos List.getLast?_concat]
          exact rowsOfRecords_cons_error hcount
            (hrest ['\n'] (breaks_singleton hfeed) (told + gap.count '\n') offset')

/-! ## Texts -/

/-- A text without the order mark in front. -/
def withoutMark (text : List Char) : List Char :=
  if text.head? = some '\ufeff' then text.tail else text

theorem recordsOfText_eq (text : List Char) :
    ∃ offset, recordsOfText text = recordsFrom charMarks 1 offset (withoutMark text) := by
  by_cases hmark : text.head? = some '\ufeff'
  · obtain ⟨rest, rfl⟩ := List.head?_eq_some_iff.mp hmark
    exact ⟨3, rfl⟩
  · refine ⟨0, ?_⟩
    rw [recordsOfText_of_head hmark, withoutMark, if_neg hmark]

/-- **A text is at fault for the first of its lines that is too wide.** -/
theorem rowsOfText_of_lines {text : String} (hreturns : ReturnsAtEnds (withoutMark text.toList))
    {before after : List (List Char)} {wide : List Char}
    (hlines : (withoutMark text.toList).splitOn '\n' = before ++ wide :: after)
    (hnarrow : ∀ line ∈ before, fieldCount line ≤ columnCount)
    (hwide : columnCount < fieldCount wide) :
    rowsOfText text = .error (.tooWide (toldAfter 1 1 before) (fieldCount wide)) := by
  have hbodies := lineOf_of_mem_splitOn hreturns
  have hjoin : List.intercalate ['\n'] ((withoutMark text.toList).splitOn '\n') =
      withoutMark text.toList := List.intercalate_splitOn '\n'
  rw [hlines] at hbodies hjoin
  obtain ⟨offset, hrecords⟩ := recordsOfText_eq text.toList
  have hread := rowsOfRecords_tooWide hbodies hnarrow hwide [] breaks_nil 1 offset
  rw [List.nil_append, hjoin] at hread
  rw [rowsOfText, hrecords, hread]
  rfl

/-- Of lines some of which is too wide, one is the first. -/
theorem exists_first_wide {lines : List (List Char)}
    (h : ∃ line ∈ lines, columnCount < fieldCount line) :
    ∃ before wide after, lines = before ++ wide :: after ∧
      (∀ line ∈ before, fieldCount line ≤ columnCount) ∧ columnCount < fieldCount wide := by
  obtain ⟨wide, hfind⟩ : ∃ wide, lines.find? (columnCount < fieldCount ·) = some wide := by
    rw [← Option.isSome_iff_exists, List.find?_isSome]
    simpa using h
  obtain ⟨hwide, before, after, hlines, hbefore⟩ := List.find?_eq_some_iff_append.mp hfind
  refine ⟨before, wide, after, hlines, ?_, of_decide_eq_true hwide⟩
  intro line hline
  simpa using hbefore line hline

/-- **A text with a line that is too wide is at fault for the first of these**, and the fault has
    the number of its fields.  The line that it names is the one on which reading the record began:
    never below that line, and this line itself just if the line before it, if there is one, has
    something in it and ends in a line feed alone. -/
theorem rowsOfText_tooWide {text : String} (hreturns : ReturnsAtEnds (withoutMark text.toList))
    (hwide : ∃ line ∈ (withoutMark text.toList).splitOn '\n', columnCount < fieldCount line) :
    ∃ before wide after, (withoutMark text.toList).splitOn '\n' = before ++ wide :: after ∧
      (∀ line ∈ before, fieldCount line ≤ columnCount) ∧ columnCount < fieldCount wide ∧
      rowsOfText text = .error (.tooWide (toldAfter 1 1 before) (fieldCount wide)) ∧
      toldAfter 1 1 before ≤ before.length + 1 ∧
      (toldAfter 1 1 before = before.length + 1 ↔
        ∀ last ∈ before.getLast?, Row.chopLine last ≠ [] ∧ last.getLast? ≠ some '\r') := by
  obtain ⟨before, wide, after, hlines, hnarrow, hwide⟩ := exists_first_wide hwide
  have hle := toldAfter_le (Nat.le_refl 1) before
  exact ⟨before, wide, after, hlines, hnarrow, hwide,
    rowsOfText_of_lines hreturns hlines hnarrow hwide, by omega, toldAfter_eq_iff before⟩

/-- A line of 32 fields behind one that ends in a carriage return and a line feed. -/
theorem rowsOfText_tooWide_second_line :
    let text := String.ofList ('A' :: '\r' :: '\n' :: List.replicate 31 '\t')
    ReturnsAtEnds (withoutMark text.toList) ∧
      (∃ line ∈ (withoutMark text.toList).splitOn '\n', columnCount < fieldCount line) ∧
      ∃ line fields, rowsOfText text = .error (.tooWide line fields) ∧ columnCount < fields := by
  intro text
  have hreturns : ReturnsAtEnds (withoutMark text.toList) := by decide
  have hwide : ∃ line ∈ (withoutMark text.toList).splitOn '\n', columnCount < fieldCount line := by
    decide
  obtain ⟨before, wide, -, -, -, hfields, hfault, -⟩ := rowsOfText_tooWide hreturns hwide
  exact ⟨hreturns, hwide, _, _, hfault, hfields⟩

/-- The line that is too wide is the second one, but the fault names the first, where that ends in a
    carriage return and a line feed or has nothing in it. -/
theorem fault_above_wide_line :
    let wide := List.replicate 31 '\t'
    let ended := String.ofList ('A' :: '\r' :: '\n' :: wide)
    let spaced := String.ofList ('\n' :: wide)
    fieldCount wide = 32 ∧
      ended.toList.splitOn '\n' = [['A', '\r'], wide] ∧
      rowsOfText ended = .error (.tooWide 1 32) ∧
      spaced.toList.splitOn '\n' = [[], wide] ∧
      rowsOfText spaced = .error (.tooWide 1 32) := by
  intro wide ended spaced
  have hended : (withoutMark ended.toList).splitOn '\n' = [['A', '\r']] ++ wide :: [] := by decide
  have hspaced : (withoutMark spaced.toList).splitOn '\n' = [[]] ++ wide :: [] := by decide
  exact ⟨by decide, by decide, rowsOfText_of_lines (by decide) hended (by decide) (by decide),
    by decide, rowsOfText_of_lines (by decide) hspaced (by decide) (by decide)⟩

end CourseFeed.Feed
