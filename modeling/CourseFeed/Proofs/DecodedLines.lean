import CourseFeed.Proofs.RowWidth

/-!
# Rows and their lines

The line of a row has a tab between two cells and none behind the last one, and a line is taken
apart at its tabs once its end is taken off.  So a tab in a cell makes two fields of it, and the end
of the last cell is all that can be taken for the end of the line.  Nothing else is lost.

* **`joinFields_concat`** — the last field stands behind a tab, so that empty fields behind others
  are just tabs (**`joinFields_append_replicate`**).
* **`chopLine_append_tab`** — behind a tab the end of a line is that of its last field.
* **`decode_eq_ite`** — a line is decoded if it has no more fields than a row has columns.
* **`fieldCount_encode`** — a line has a field for each cell, and one more for each tab in a cell.
* **`decode_encode_of_tabFree`** — the row of the line of a row, if there are no such tabs;
  **`decode_encode_iff`**: when it is the same row.
* **`encode_of_decode`** — the line of the row of a line.
* **`decode_inverts_encode`** — when each of the two undoes the other, and what is there otherwise.
-/

namespace CourseFeed.Feed

/-! ## Joined fields -/

/-- The last field stands behind a tab. -/
theorem joinFields_concat {fields : List (List Char)} (hne : fields ≠ []) (last : List Char) :
    joinFields (fields ++ [last]) = joinFields fields ++ '\t' :: last := by
  induction fields with
  | nil => exact absurd rfl hne
  | cons first rest ih =>
      cases rest with
      | nil =>
          show joinFields [first, last] = joinFields [first] ++ '\t' :: last
          rw [joinFields_cons_cons, joinFields, joinFields, List.intercalate_singleton,
            List.intercalate_singleton]
      | cons second others =>
          show joinFields (first :: second :: (others ++ [last])) = _
          rw [joinFields_cons_cons, joinFields_cons_cons, List.append_assoc]
          exact congrArg (first ++ '\t' :: ·) (ih (List.cons_ne_nil second others))

/-- Empty fields behind others are tabs. -/
theorem joinFields_append_replicate {fields : List (List Char)} (hne : fields ≠ []) (n : Nat) :
    joinFields (fields ++ List.replicate n []) =
      joinFields fields ++ List.replicate n '\t' := by
  induction n with
  | zero =>
      show joinFields (fields ++ []) = joinFields fields ++ []
      rw [List.append_nil, List.append_nil]
  | succ n ih =>
      have hfront : fields ++ List.replicate n [] ≠ [] := List.append_ne_nil_of_left_ne_nil hne _
      rw [List.replicate_succ', List.replicate_succ', ← List.append_assoc,
        joinFields_concat hfront, ih, List.append_assoc]

/-! ## Ends of lines -/

/-- A text without a character, if that is the last one. -/
def withoutEnd (c : Char) (text : List Char) : List Char :=
  if text.getLast? = some c then text.dropLast else text

/-- The end of a line is taken off in two steps. -/
theorem chopLine_eq_withoutEnd (line : List Char) :
    Row.chopLine line = withoutEnd '\r' (withoutEnd '\n' line) := rfl

theorem withoutEnd_concat (c : Char) (text : List Char) : withoutEnd c (text ++ [c]) = text := by
  rw [withoutEnd, if_pos List.getLast?_concat, List.dropLast_concat]

theorem count_withoutEnd {c d : Char} (h : c ≠ d) (text : List Char) :
    (withoutEnd c text).count d = text.count d := by
  by_cases hlast : text.getLast? = some c
  · obtain ⟨start, rfl⟩ := List.getLast?_eq_some_iff.mp hlast
    rw [withoutEnd_concat, List.count_append, List.count_cons_of_ne h]
    rfl
  · rw [withoutEnd, if_neg hlast]

/-- What is taken off behind a tab is taken off the last field. -/
theorem withoutEnd_append_tab {c : Char} (hc : c ≠ '\t') (front last : List Char) :
    withoutEnd c (front ++ '\t' :: last) = front ++ '\t' :: withoutEnd c last := by
  rcases List.eq_nil_or_concat last with rfl | ⟨start, d, rfl⟩
  · have hlast : (front ++ ['\t']).getLast? ≠ some c := by
      rw [List.getLast?_concat]
      exact fun h => hc (Option.some.inj h).symm
    rw [withoutEnd, if_neg hlast]
    rfl
  · rw [List.concat_eq_append, ← List.cons_append, ← List.append_assoc]
    by_cases hd : d = c
    · rw [hd, withoutEnd_concat, withoutEnd_concat]
    · have hother : ∀ text, withoutEnd c (text ++ [d]) = text ++ [d] := by
        intro text
        rw [withoutEnd, List.getLast?_concat, if_neg fun h => hd (Option.some.inj h)]
      rw [hother, hother, List.append_assoc]
      rfl

theorem chopLine_append_tab (front last : List Char) :
    Row.chopLine (front ++ '\t' :: last) = front ++ '\t' :: Row.chopLine last := by
  rw [chopLine_eq_withoutEnd, withoutEnd_append_tab (by decide), withoutEnd_append_tab (by decide)]
  rfl

/-- A text keeps its length just if the character is not taken off. -/
theorem length_withoutEnd (c : Char) (text : List Char) :
    (withoutEnd c text).length + (if text.getLast? = some c then 1 else 0) = text.length := by
  by_cases hlast : text.getLast? = some c
  · obtain ⟨start, rfl⟩ := List.getLast?_eq_some_iff.mp hlast
    rw [withoutEnd_concat, if_pos hlast, List.length_append]
    rfl
  · rw [withoutEnd, if_neg hlast, if_neg hlast]
    rfl

/-- Nothing is taken off a text just if it does not end in a line end. -/
theorem chopLine_eq_self_iff (text : List Char) :
    Row.chopLine text = text ↔ text.getLast? ≠ some '\n' ∧ text.getLast? ≠ some '\r' := by
  constructor
  · intro hkept
    have hlength := congrArg List.length hkept
    have hfirst := length_withoutEnd '\n' text
    have hsecond := length_withoutEnd '\r' (withoutEnd '\n' text)
    rw [chopLine_eq_withoutEnd] at hlength
    have hfeed : text.getLast? ≠ some '\n' := by
      intro hlast
      rw [if_pos hlast] at hfirst
      omega
    have hsame : withoutEnd '\n' text = text := if_neg hfeed
    refine ⟨hfeed, ?_⟩
    intro hlast
    rw [hsame, if_pos hlast] at hsecond
    rw [hsame] at hlength
    omega
  · rintro ⟨hfeed, hreturn⟩
    rw [Row.chopLine, if_neg hfeed, if_neg hreturn]

/-! ## Fields of lines -/

/-- The number of fields of a line. -/
def fieldCount (line : List Char) : Nat := (line.splitOn '\t').length

theorem length_splitOn (c : Char) (text : List Char) :
    (text.splitOn c).length = text.count c + 1 := by
  induction text with
  | nil => rfl
  | cons d rest ih =>
      rw [List.splitOn_cons_eq_if_modifyHead]
      by_cases hd : d = c
      · rw [if_pos (beq_iff_eq.mpr hd), List.length_cons, ih, hd, List.count_cons_self]
      · rw [if_neg (by simpa using hd), List.length_modifyHead, ih, List.count_cons_of_ne hd]

/-- A line without its end has as many fields as with it. -/
theorem fieldCount_chopLine (line : List Char) :
    fieldCount (Row.chopLine line) = fieldCount line := by
  -- what is taken off is no tab
  rw [fieldCount, fieldCount, length_splitOn, length_splitOn, chopLine_eq_withoutEnd,
    count_withoutEnd (by decide), count_withoutEnd (by decide)]

theorem decode_ofList (line : List Char) :
    Row.decode (String.ofList line) =
      Row.ofCells (((Row.chopLine line).splitOn '\t').map String.ofList) 1 := by
  rw [Row.decode, String.toList_ofList]

/-- A line is decoded just if it is not too wide. -/
theorem decode_eq_ite (line : List Char) :
    Row.decode (String.ofList line) =
      if columnCount < fieldCount line then .error (.tooWide 1 (fieldCount line))
      else .ok ⟨((Row.chopLine line).splitOn '\t').map String.ofList ++
        List.replicate (columnCount - fieldCount line) ""⟩ := by
  have hlength : (((Row.chopLine line).splitOn '\t').map String.ofList).length =
      fieldCount line := by
    rw [List.length_map]
    exact fieldCount_chopLine line
  rw [decode_ofList, Row.ofCells, hlength]

/-! ## The row of the line of a row -/

/-- **A line has a field for each cell of its row**, and one more for each tab in a cell. -/
theorem fieldCount_encode {r : Row} (h : r.Full) : fieldCount r.encode.toList = 31 + r.tabs := by
  have hwidth : r.cells.length = 31 := h
  rw [fieldCount, length_splitOn, Row.count_tab_line, hwidth]
  omega

/-- **The row of the line of a row without tabs in its cells** has the same cells, but for the end
    of the last one if that is a line end. -/
theorem decode_encode_of_tabFree {r : Row} (hfull : r.Full) (htabs : r.TabFree)
    {init : List String} {last : String} (hcells : r.cells = init ++ [last]) :
    Row.decode r.encode = .ok ⟨init ++ [String.ofList (Row.chopLine last.toList)]⟩ := by
  have hwidth : (init ++ [last]).length = columnCount := by
    rw [← hcells]
    exact hfull
  have hinit : init.map String.toList ≠ [] := by
    intro hnil
    rw [List.map_eq_nil_iff.mp hnil] at hwidth
    exact absurd (show 1 = columnCount from hwidth) (by decide)
  have hline : r.encode.toList = joinFields (init.map String.toList) ++ '\t' :: last.toList := by
    rw [toList_encode, hcells, List.map_append]
    exact joinFields_concat hinit last.toList
  have hchopped : Row.chopLine r.encode.toList =
      joinFields (init.map String.toList ++ [Row.chopLine last.toList]) := by
    rw [hline, chopLine_append_tab, joinFields_concat hinit]
  have hfree : ∀ field ∈ init.map String.toList ++ [Row.chopLine last.toList], '\t' ∉ field := by
    intro field hfield
    rw [Row.TabFree, hcells] at htabs
    rcases List.mem_append.mp hfield with hmem | hmem
    · obtain ⟨cell, hcell, rfl⟩ := List.mem_map.mp hmem
      exact htabs cell (List.mem_append_left _ hcell)
    · have hcount := fieldCount_chopLine last.toList
      have hlast := htabs last (List.mem_append_right _ List.mem_cons_self)
      rw [fieldCount, fieldCount, length_splitOn, length_splitOn] at hcount
      rw [List.mem_singleton.mp hmem, ← List.count_eq_zero, Nat.succ.inj hcount]
      exact List.count_eq_zero.mpr hlast
  have hsplit := List.splitOn_intercalate '\t' hfree (List.append_ne_nil_of_left_ne_nil hinit _)
  have hfields : ((Row.chopLine r.encode.toList).splitOn '\t').map String.ofList =
      init ++ [String.ofList (Row.chopLine last.toList)] := by
    rw [hchopped, joinFields, hsplit, List.map_append, map_ofList_toList]
    rfl
  have hmade : (Row.mk (init ++ [String.ofList (Row.chopLine last.toList)])).Full := by
    rw [List.length_append] at hwidth
    show (init ++ [_]).length = columnCount
    rw [List.length_append]
    exact hwidth
  rw [Row.decode, hfields]
  exact ofCells_of_full hmade 1

/-- The line of a row with a tab in a cell is too wide, by one field for each tab. -/
theorem decode_encode_of_tab {r : Row} (hfull : r.Full)
    (htab : ∃ cell ∈ r.cells, '\t' ∈ cell.toList) :
    Row.decode r.encode = .error (.tooWide 1 (31 + r.tabs)) := by
  obtain ⟨cell, hcell, htab⟩ := htab
  have hsome : 0 < r.tabs :=
    Nat.pos_of_ne_zero fun hzero => r.tabs_eq_zero_iff.mp hzero cell hcell htab
  have hwide : columnCount < 31 + r.tabs := Nat.lt_add_of_pos_right hsome
  have hdecode := decode_eq_ite r.encode.toList
  rw [String.ofList_toList, fieldCount_encode hfull, if_pos hwide] at hdecode
  exact hdecode

/-- **The line of a row is decoded as this row** just if no cell has a tab in it and the last one
    does not end in a line end. -/
theorem decode_encode_iff {r : Row} (hfull : r.Full) :
    Row.decode r.encode = .ok r ↔ r.TabFree ∧ ∀ last ∈ r.cells.getLast?,
      last.toList.getLast? ≠ some '\n' ∧ last.toList.getLast? ≠ some '\r' := by
  constructor
  · intro hback
    have htabs : r.TabFree := by
      intro cell hcell htab
      exact nomatch hback.symm.trans (decode_encode_of_tab hfull ⟨cell, hcell, htab⟩)
    refine ⟨htabs, ?_⟩
    intro last hlast
    obtain ⟨init, hcells⟩ := List.getLast?_eq_some_iff.mp hlast
    have hsame := hback.symm.trans (decode_encode_of_tabFree hfull htabs hcells)
    -- the cells before the last one are the same, and so is the last one
    have hcut : init ++ [last] = init ++ [String.ofList (Row.chopLine last.toList)] :=
      hcells.symm.trans (congrArg Row.cells (Except.ok.inj hsame))
    have hkept := congrArg String.toList (List.singleton_inj.mp (List.append_cancel_left hcut))
    rw [String.toList_ofList] at hkept
    exact (chopLine_eq_self_iff last.toList).mp hkept.symm
  · rintro ⟨htabs, hend⟩
    have hne : r.cells ≠ [] := by
      intro hnil
      have hwidth : r.cells.length = columnCount := hfull
      rw [hnil] at hwidth
      exact absurd hwidth (by decide)
    have hlast : r.cells.getLast? = some (r.cells.getLast hne) := List.getLast?_eq_some_getLast hne
    obtain ⟨init, hcells⟩ := List.getLast?_eq_some_iff.mp hlast
    have hkept := (chopLine_eq_self_iff _).mpr (hend _ hlast)
    rw [decode_encode_of_tabFree hfull htabs hcells, hkept, String.ofList_toList, ← hcells]

/-- The line of a plain row is decoded as this row. -/
theorem decode_encode {r : Row} (hfull : r.Full) (hplain : r.Plain) :
    Row.decode r.encode = .ok r := by
  refine (decode_encode_iff hfull).mpr ⟨?_, ?_⟩
  · intro cell hcell htab
    exact (hplain cell hcell _ htab).1 rfl
  · intro last hlast
    have hcell := hplain last (List.mem_of_getLast? hlast)
    exact ⟨fun hend => (hcell _ (List.mem_of_getLast? hend)).2.1 rfl,
      fun hend => (hcell _ (List.mem_of_getLast? hend)).2.2 rfl⟩

/-! ## The line of the row of a line -/

/-- A line is decoded just if it has no more fields than there are columns. -/
theorem exists_decode_iff (line : String) :
    (∃ r, Row.decode line = .ok r) ↔ fieldCount (Row.chopLine line.toList) ≤ 31 := by
  have hdecode := decode_eq_ite line.toList
  rw [String.ofList_toList, ← fieldCount_chopLine] at hdecode
  constructor
  · rintro ⟨r, hr⟩
    refine Nat.le_of_not_lt ?_
    intro hwide
    rw [hr, if_pos (show columnCount < fieldCount (Row.chopLine line.toList) from hwide)] at hdecode
    exact nomatch hdecode
  · intro hfits
    exact ⟨_, hdecode.trans (if_neg (Nat.not_lt.mpr hfits))⟩

/-- **The line of the row of a line** is this line without its end, with a tab behind it for each
    column for which it has no field. -/
theorem encode_of_decode {line : String} {r : Row} (h : Row.decode line = .ok r) :
    r.Full ∧ r.encode.toList = Row.chopLine line.toList ++
      List.replicate (31 - fieldCount (Row.chopLine line.toList)) '\t' := by
  refine ⟨full_ofCells h, ?_⟩
  have hcells := decode_eq_ite line.toList
  rw [String.ofList_toList, h, ← fieldCount_chopLine] at hcells
  by_cases hwide : columnCount < fieldCount (Row.chopLine line.toList)
  · rw [if_pos hwide] at hcells
    exact nomatch hcells
  · rw [if_neg hwide] at hcells
    have hempty : ∀ n, (List.replicate n "").map String.toList = List.replicate n [] :=
      fun n => List.map_replicate
    have hback : (((Row.chopLine line.toList).splitOn '\t').map String.ofList).map String.toList =
        (Row.chopLine line.toList).splitOn '\t' := by
      rw [List.map_map]
      exact (List.map_congr_left fun field _ => String.toList_ofList).trans (List.map_id _)
    rw [toList_encode, Except.ok.inj hcells, List.map_append, hback, hempty,
      joinFields_append_replicate (List.splitOn_ne_nil _ _), joinFields,
      List.intercalate_splitOn '\t']
    rfl

/-- **Rows and lines turn into each other where they can.**  The line of a full row is decoded as
    this row just if no cell has a tab in it and the last one does not end in a line end; if there
    are tabs in its cells, it is too wide, by one field for each of them.  A line is decoded just if
    it has no more fields than a row has columns, and the line of its row is what it is without its
    end, with the tabs behind it that are missing. -/
theorem decode_inverts_encode :
    (∀ r : Row, r.Full →
      (Row.decode r.encode = .ok r ↔
        (∀ cell ∈ r.cells, '\t' ∉ cell.toList) ∧ ∀ last ∈ r.cells.getLast?,
          last.toList.getLast? ≠ some '\n' ∧ last.toList.getLast? ≠ some '\r') ∧
      ((∃ cell ∈ r.cells, '\t' ∈ cell.toList) →
        Row.decode r.encode = .error (.tooWide 1 (31 + r.tabs)))) ∧
    ∀ line : String,
      let kept := Row.chopLine line.toList
      ((∃ r, Row.decode line = .ok r) ↔ fieldCount kept ≤ 31) ∧
      ∀ r, Row.decode line = .ok r →
        r.Full ∧ r.encode.toList = kept ++ List.replicate (31 - fieldCount kept) '\t' := by
  constructor
  · intro r hfull
    exact ⟨decode_encode_iff hfull, decode_encode_of_tab hfull⟩
  · intro line kept
    exact ⟨exists_decode_iff line, fun r hr => encode_of_decode hr⟩

/-- A line feed in the first cell is kept and a carriage return at the end of the last one is not;
    two tabs in a cell are two fields too many; and a line of two fields with its end. -/
theorem decode_inverts_encode_ends :
    let inside := Row.about "A\n" "S"
    let behind := inside.set 30 "x\r"
    let tabbed := inside.set 1 "a\tb\t"
    inside.Full ∧ behind.Full ∧ tabbed.Full ∧
      Row.decode inside.encode = .ok inside ∧ Row.decode behind.encode ≠ .ok behind ∧
      (∃ cell ∈ tabbed.cells, '\t' ∈ cell.toList) ∧
      Row.decode tabbed.encode = .error (.tooWide 1 33) ∧
      ∃ r, Row.decode "A\tB\r\n" = .ok r ∧ r.Full ∧
        r.encode.toList = ['A', '\t', 'B'] ++ List.replicate 29 '\t' := by
  intro inside behind tabbed
  obtain ⟨hrows, hlines⟩ := decode_inverts_encode
  have hinside : inside.Full := rfl
  have hbehind : behind.Full := rfl
  have htabbed : tabbed.Full := rfl
  have htab : ∃ cell ∈ tabbed.cells, '\t' ∈ cell.toList :=
    ⟨"a\tb\t", by decide, by decide⟩
  have hreturn : ∃ last ∈ behind.cells.getLast?, last.toList.getLast? = some '\r' :=
    ⟨"x\r", by decide, by decide⟩
  obtain ⟨hdecoded, hsame⟩ := hlines "A\tB\r\n"
  obtain ⟨r, hr⟩ := hdecoded.mpr (by decide)
  refine ⟨hinside, hbehind, htabbed, ?_, ?_, htab, (hrows tabbed htabbed).2 htab, r, hr, hsame r hr⟩
  · exact (hrows inside hinside).1.mpr ⟨by decide, by decide⟩
  · intro hback
    obtain ⟨last, hlast, hend⟩ := hreturn
    exact (((hrows behind hbehind).1.mp hback).2 last hlast).2 hend

end CourseFeed.Feed
