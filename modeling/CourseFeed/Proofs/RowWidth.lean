import CourseFeed.Proofs.ElementRows
import CourseFeed.Proofs.FeedLines
import CourseFeed.Row.Json

/-!
# The width of rows

No edit adds a cell to a row or takes one away, so a row keeps the width that it was made with.  The
rows that are made here have a cell for each column.  A row that is read from JSON has the cells
that are listed there, however many, and what is set in a cell that is not there is lost.

* **`RowEdit`** — what can be done to a row.  One edit keeps the number of cells
  (**`length_apply`**), and so do many (**`length_edited`**).
* **`Row.Built`** — the rows that are made here; they are full (**`Built.full`**).
* **`operationCode_mark_eq`** and **`count_tab_encode`** — what the width of a row has to do with
  marking it and with its line, in which there may be tabs of its cells too (**`count_tab_line`**).
* **`edited_row_width`** — when a row that is edited has all its cells, and what that does, and
  **`narrow_row_loses_operation`**: a row from JSON that is no wider than its only cell.
-/

namespace CourseFeed

/-! ## Edits -/

/-- What can be done to a row. -/
inductive RowEdit where
  | set (column : Nat) (text : String)
  | setSlots (start slots : Nat) (texts : List String)
  | clearPrevious
  | mark (op : Operation)
  deriving Repr, DecidableEq

/-- A row after an edit. -/
def RowEdit.apply (r : Row) : RowEdit → Row
  | .set column text => r.set column text
  | .setSlots start slots texts => r.setSlots start slots texts
  | .clearPrevious => r.clearPrevious
  | .mark op => r.mark op

namespace Row

/-- A row after some edits. -/
def edited (r : Row) (edits : List RowEdit) : Row := edits.foldl RowEdit.apply r

theorem length_set (r : Row) (column : Nat) (text : String) :
    (r.set column text).cells.length = r.cells.length :=
  List.length_set

theorem length_setSlots (r : Row) (start slots : Nat) (texts : List String) :
    (r.setSlots start slots texts).cells.length = r.cells.length := by
  rw [setSlots]
  generalize (texts.take slots).zipIdx start = cells
  induction cells generalizing r with
  | nil => rfl
  | cons hd tl ih => rw [List.foldl_cons, ih, length_set]

theorem length_clearPrevious (r : Row) : r.clearPrevious.cells.length = r.cells.length := by
  rw [clearPrevious, length_set, length_set]

theorem length_mark (r : Row) (op : Operation) : (r.mark op).cells.length = r.cells.length := by
  by_cases hop : op = .rollover
  · rw [mark, if_pos hop, length_set]
  · rw [mark, if_neg hop, length_clearPrevious, length_set]

/-- **An edit keeps the number of cells.** -/
theorem length_apply (r : Row) (edit : RowEdit) :
    (edit.apply r).cells.length = r.cells.length := by
  cases edit with
  | set column text => exact r.length_set column text
  | setSlots start slots texts => exact r.length_setSlots start slots texts
  | clearPrevious => exact r.length_clearPrevious
  | mark op => exact r.length_mark op

/-- Edits keep the number of cells. -/
theorem length_edited (r : Row) (edits : List RowEdit) :
    (r.edited edits).cells.length = r.cells.length := by
  induction edits generalizing r with
  | nil => rfl
  | cons edit rest ih => exact (ih (edit.apply r)).trans (r.length_apply edit)

/-! ## Rows that are made here -/

/-- The rows that are made here: without any text, of the names of the columns, of given cells, of a
    line, or of an element of a catalog. -/
inductive Built : Row → Prop where
  | blank : Built blank
  | header : Built header
  | ofCells {cells : List String} {line : Nat} {r : Row} (h : ofCells cells line = .ok r) : Built r
  | decode {line : String} {r : Row} (h : decode line = .ok r) : Built r
  | element (e : Element) : Built e.row

/-- **Rows that are made here have a cell for each column.** -/
theorem Built.full {r : Row} (h : r.Built) : r.Full := by
  cases h with
  | blank => rfl
  | header => rfl
  | ofCells h => exact Feed.full_ofCells h
  | decode h => exact Feed.full_ofCells h
  | element e => exact e.full_row

/-! ## What the width is for -/

/-- **A marked row has the code of its operation just as far as it has a cell for it.** -/
theorem operationCode_mark_eq (r : Row) (op : Operation) :
    (r.mark op).operationCode = if Column.operation < r.cells.length then op.code else "" := by
  -- the columns that are cleared are others
  have hset : (r.mark op).operationCode = (r.set Column.operation op.code).operationCode := by
    by_cases hop : op = .rollover
    · rw [mark, if_pos hop]
    · rw [mark, if_neg hop, operationCode, clearPrevious, get_set_of_ne _ _ (by decide),
        get_set_of_ne _ _ (by decide)]
      rfl
  rw [hset]
  show (r.cells.set Column.operation op.code).getD Column.operation "" = _
  rw [List.getD_eq_getElem?_getD]
  by_cases hwide : Column.operation < r.cells.length
  · rw [List.getElem?_set_self hwide, if_pos hwide]
    rfl
  · have hnone : (r.cells.set Column.operation op.code)[Column.operation]? = none := by
      rw [List.getElem?_eq_none_iff, List.length_set]
      exact Nat.le_of_not_lt hwide
    rw [hnone, if_neg hwide]
    rfl

/-- A row without a tab in any cell. -/
def TabFree (r : Row) : Prop := ∀ cell ∈ r.cells, '\t' ∉ cell.toList

instance (r : Row) : Decidable r.TabFree :=
  inferInstanceAs (Decidable (∀ cell ∈ r.cells, '\t' ∉ cell.toList))

/-- The number of tabs in the cells of a row. -/
def tabs (r : Row) : Nat := (r.cells.map String.toList).flatten.count '\t'

theorem tabs_eq_zero_iff (r : Row) : r.tabs = 0 ↔ r.TabFree := by
  rw [tabs, List.count_eq_zero, List.mem_flatten]
  constructor
  · intro hnone cell hcell htab
    exact hnone ⟨cell.toList, List.mem_map_of_mem hcell, htab⟩
  · rintro hfree ⟨field, hfield, htab⟩
    obtain ⟨cell, hcell, rfl⟩ := List.mem_map.mp hfield
    exact hfree cell hcell htab

/-- Between fields there is one tab less than there are fields, and others may be in them. -/
theorem count_tab_joinFields (fields : List (List Char)) :
    (Feed.joinFields fields).count '\t' = fields.flatten.count '\t' + (fields.length - 1) := by
  induction fields with
  | nil => rfl
  | cons first fields ih =>
      cases fields with
      | nil =>
          rw [Feed.joinFields, List.intercalate_singleton, List.flatten_singleton]
          rfl
      | cons second fields =>
          rw [Feed.joinFields_cons_cons, List.count_append, List.count_cons_self, ih]
          simp only [List.flatten_cons, List.count_append, List.length_cons]
          omega

/-- The line of a row has one tab less than the row has cells, and those that are in the cells. -/
theorem count_tab_line (r : Row) :
    r.encode.toList.count '\t' = r.tabs + (r.cells.length - 1) := by
  rw [Feed.toList_encode, count_tab_joinFields, List.length_map]
  rfl

/-- **The line of a row has one tab less than the row has cells**, if there is none in a cell. -/
theorem count_tab_encode {r : Row} (h : r.TabFree) :
    r.encode.toList.count '\t' = r.cells.length - 1 := by
  rw [count_tab_line, (tabs_eq_zero_iff r).mpr h, Nat.zero_add]

end Row

/-- **Edited rows are as wide as they were made.**  Take any row, also one that was read from JSON
    with fewer cells than there are columns or with more, and any edits.  A row that is made here
    has a cell for each of the 31 columns; and a row has 31 cells after the edits just if it had 31
    before.  It takes the code of each operation just if it has a cell for it, and if there is no
    tab in a cell, 30 tabs stand in its line just if it has 31 cells. -/
theorem edited_row_width (r : Row) (edits : List RowEdit) :
    (r.Built → r.cells.length = 31) ∧
    ((r.edited edits).cells.length = 31 ↔ r.cells.length = 31) ∧
    ((∀ op, ((r.edited edits).mark op).operationCode = op.code) ↔
      Column.operation < r.cells.length) ∧
    ((r.edited edits).TabFree →
      ((r.edited edits).encode.toList.count '\t' = 30 ↔ r.cells.length = 31)) := by
  have hlength := r.length_edited edits
  have hcode : ∀ op, ((r.edited edits).mark op).operationCode =
      if Column.operation < r.cells.length then op.code else "" := by
    intro op
    rw [Row.operationCode_mark_eq, hlength]
  refine ⟨Row.Built.full, ?_, ?_, ?_⟩
  · rw [hlength]
  · constructor
    · intro hcodes
      refine Decidable.byContradiction ?_
      intro hnarrow
      -- the code of a deletion is not empty
      have hdelete := (hcode .delete).symm.trans (hcodes .delete)
      rw [if_neg hnarrow] at hdelete
      exact absurd hdelete (by decide)
    · intro hwide op
      rw [hcode op, if_pos hwide]
  · intro htabs
    rw [Row.count_tab_encode htabs, hlength]
    omega

/-- A line of two fields is decoded and edited, also where there are no columns; a row of one cell
    is read and edited. -/
theorem edited_row_width_two_fields :
    let edits : List RowEdit :=
      [.set 40 "x", .setSlots 29 9 ["OLD", "1", "2"], .clearPrevious, .mark .rollover]
    (∃ r, Row.decode "A\tB" = .ok r ∧ (r.edited edits).TabFree ∧
      (r.edited edits).cells.length = 31 ∧
      (∀ op, ((r.edited edits).mark op).operationCode = op.code) ∧
      (r.edited edits).encode.toList.count '\t' = 30) ∧
    ∃ r, Row.ofJson "\x7b\"cells\":[\"A\"]\x7d" = .ok r ∧ (r.edited edits).cells.length ≠ 31 := by
  intro edits
  constructor
  · have hdecode : Row.decode "A\tB" = .ok ⟨"A" :: "B" :: List.replicate 29 ""⟩ := rfl
    obtain ⟨hbuilt, hlength, hcode, htabs⟩ := edited_row_width _ edits
    have hfull := hbuilt (.decode hdecode)
    have hfree : ((⟨"A" :: "B" :: List.replicate 29 ""⟩ : Row).edited edits).TabFree := by
      decide +kernel
    exact ⟨_, hdecode, hfree, hlength.mpr hfull, hcode.mpr (by decide), (htabs hfree).mpr hfull⟩
  · obtain ⟨-, hlength, -, -⟩ := edited_row_width ⟨["A"]⟩ edits
    exact ⟨_, rfl, fun hwide => absurd (hlength.mp hwide) (by decide)⟩

/-- Reading a row of one cell from JSON does not fill it up, and marking it for deletion leaves no
    trace. -/
theorem narrow_row_loses_operation :
    ∃ r, Row.ofJson "\x7b\"cells\":[\"A\"]\x7d" = .ok r ∧ r.cells.length ≠ 31 ∧
      (r.mark .delete).operationCode ≠ Operation.delete.code ∧ r.mark .delete = r := by
  refine ⟨⟨["A"]⟩, rfl, ?_, ?_, ?_⟩ <;> decide

end CourseFeed
