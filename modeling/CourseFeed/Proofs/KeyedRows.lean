import CourseFeed.Proofs.RowShape
import Mathlib.Data.List.Nodup

/-!
# Rows by key as a map

A list of rows by key is a map that remembers the order of its keys.

* **`mem_entries_iff`** — its entries are what is found by look-up, and none of its keys is left out
  of them (**`keys_eq_order`**).
* **`Proper`** — each row stands under its own key.  Every list that is made of rows is proper
  (**`proper_ofRows`**).
* **`get?_insert`** — putting a row in changes what stands under its key and nothing else; for a
  list of rows, **`get?_insertAll_of_mem`** and **`get?_insertAll_of_forall_ne`**.
* **`get?_ofRows`** — what is found under a key is the last row with it.
* **`keys_ofRows`** — the keys stand in the order in which they are first seen.
* **`remove`** takes a key out again.
-/

namespace CourseFeed.Keyed

variable {key : Key} {row : Row}

/-! ## Look-up and entries -/

theorem contains_eq_false_iff (k : Keyed) : k.contains key = false ↔ k.get? key = none := by
  show (k.get? key).isSome = false ↔ _
  cases k.get? key <;> simp

theorem contains_eq_true_iff (k : Keyed) :
    k.contains key = true ↔ ∃ row, k.get? key = some row :=
  Option.isSome_iff_exists

/-- **The entries are what is found by look-up.** -/
theorem mem_entries_iff (k : Keyed) : (key, row) ∈ k.entries ↔ k.get? key = some row := by
  rw [entries, List.mem_filterMap]
  constructor
  · rintro ⟨key', -, h⟩
    obtain ⟨row', hget, heq⟩ := Option.map_eq_some_iff.mp h
    rw [← (Prod.mk.inj heq).1, ← (Prod.mk.inj heq).2]
    exact hget
  · intro hget
    refine ⟨key, ?_, ?_⟩
    · exact (k.mem_order_iff_contains key).mpr (k.contains_eq_true_iff.mpr ⟨row, hget⟩)
    · rw [hget, Option.map_some]

/-- **Every key has its entry**, so going through the order leaves none out. -/
theorem keys_eq_order (k : Keyed) : k.keys = k.order := by
  have hfound : ∀ key ∈ k.order,
      ((k.get? key).map fun row => (key, row)).map Prod.fst = some key := by
    intro key hkey
    obtain ⟨row, hrow⟩ := k.contains_eq_true_iff.mp ((k.mem_order_iff_contains key).mp hkey)
    rw [hrow, Option.map_some, Option.map_some]
  rw [keys, entries, List.map_filterMap, List.filterMap_congr hfound, List.filterMap_some]

theorem nodup_keys (k : Keyed) : k.keys.Nodup := by
  rw [keys_eq_order]
  exact k.nodup_order

theorem nodup_entries (k : Keyed) : k.entries.Nodup :=
  List.Nodup.of_map Prod.fst k.nodup_keys

theorem mem_rows_iff (k : Keyed) : row ∈ k.rows ↔ ∃ key, k.get? key = some row := by
  rw [rows, List.mem_map]
  constructor
  · rintro ⟨⟨key, _⟩, he, rfl⟩
    exact ⟨key, k.mem_entries_iff.mp he⟩
  · rintro ⟨key, hget⟩
    exact ⟨(key, row), k.mem_entries_iff.mpr hget, rfl⟩

theorem mem_rows_of_get? {k : Keyed} (hget : k.get? key = some row) : row ∈ k.rows :=
  k.mem_rows_iff.mpr ⟨key, hget⟩

/-! ## One step: putting a row in -/

/-- What is found under a key after a row was put in a table. -/
theorem lookUp_putIn (key other : Key) (row : Row) (table : List (Key × Row)) :
    lookUp other (putIn key row table) = if key = other then some row else lookUp other table := by
  induction table with
  | nil => exact lookUp_cons key row [] other
  | cons hd tl ih =>
      obtain ⟨k, r⟩ := hd
      by_cases hk : k = key
      · rw [putIn, if_pos hk, lookUp_cons, lookUp_cons, hk]
        by_cases h : key = other
        · rw [if_pos h, if_pos h]
        · rw [if_neg h, if_neg h, if_neg h]
      · rw [putIn, if_neg hk, lookUp_cons, lookUp_cons, ih]
        by_cases h : key = other
        · -- the head is under another key than the one looked for
          rw [if_pos h, if_pos h, if_neg (by rw [← h]; exact hk)]
        · rw [if_neg h, if_neg h]

/-- **Look-up after insertion.** -/
theorem get?_insert (k : Keyed) (row : Row) (key : Key) :
    (k.insert row).get? key = if row.key = key then some row else k.get? key :=
  lookUp_putIn row.key key row k.table

/-- The keys after a row was put in: a new key stands at the end. -/
theorem keys_insert (k : Keyed) (row : Row) :
    (k.insert row).keys = if row.key ∈ k.keys then k.keys else k.keys ++ [row.key] := by
  rw [keys_eq_order, keys_eq_order]
  show k.orderWith row.key = _
  unfold orderWith
  by_cases h : k.contains row.key = true
  · rw [if_pos h, if_pos ((k.mem_order_iff_contains row.key).mpr h)]
  · rw [if_neg h, if_neg (fun hc => h ((k.mem_order_iff_contains row.key).mp hc))]

/-! ## The invariant -/

/-- Each row stands under its own key. -/
structure Proper (k : Keyed) : Prop where
  key_eq : ∀ e ∈ k.entries, e.2.key = e.1

theorem proper_empty : empty.Proper where
  key_eq := by
    intro e he
    exact nomatch he

/-- A row that is found has the key it is found under. -/
theorem Proper.key_of_get? {k : Keyed} (h : k.Proper) (hget : k.get? key = some row) :
    row.key = key :=
  h.key_eq (key, row) (k.mem_entries_iff.mpr hget)

/-- The rows have the keys that they stand under. -/
theorem Proper.map_key_rows {k : Keyed} (h : k.Proper) : k.rows.map Row.key = k.keys := by
  rw [rows, List.map_map, keys]
  exact List.map_congr_left fun e he => h.key_eq e he

/-- Putting a row in keeps a list proper. -/
theorem Proper.insert {k : Keyed} (h : k.Proper) (row : Row) : (k.insert row).Proper where
  key_eq := by
    rintro ⟨key, row'⟩ he
    have hget := (k.insert row).mem_entries_iff.mp he
    rw [get?_insert] at hget
    by_cases hkey : row.key = key
    · rw [if_pos hkey] at hget
      rw [← Option.some.inj hget]
      exact hkey
    · rw [if_neg hkey] at hget
      exact h.key_of_get? hget

/-- The rows with a list of rows put in one after the other. -/
def insertAll (k : Keyed) (rows : List Row) : Keyed := rows.foldl insert k

theorem insertAll_cons (k : Keyed) (row : Row) (rows : List Row) :
    k.insertAll (row :: rows) = (k.insert row).insertAll rows := rfl

theorem Proper.insertAll {k : Keyed} (h : k.Proper) (rows : List Row) :
    (k.insertAll rows).Proper := by
  induction rows generalizing k with
  | nil => exact h
  | cons row rest ih => exact ih (h.insert row)

/-- **Every list made of rows is proper.** -/
theorem proper_ofRows (rows : List Row) : (ofRows rows).Proper :=
  proper_empty.insertAll rows

/-- The rows of a list that is made of rows are among these. -/
theorem mem_of_mem_rows_insertAll {k : Keyed} {rows : List Row} {row : Row}
    (h : row ∈ (k.insertAll rows).rows) : row ∈ rows ∨ row ∈ k.rows := by
  induction rows generalizing k with
  | nil => exact Or.inr h
  | cons hd tl ih =>
      rcases ih h with htl | hins
      · exact Or.inl (List.mem_cons_of_mem _ htl)
      · obtain ⟨key, hget⟩ := (k.insert hd).mem_rows_iff.mp hins
        rw [get?_insert] at hget
        by_cases hkey : hd.key = key
        · rw [if_pos hkey] at hget
          rw [← Option.some.inj hget]
          exact Or.inl List.mem_cons_self
        · rw [if_neg hkey] at hget
          exact Or.inr (mem_rows_of_get? hget)

theorem mem_of_mem_rows_ofRows {rows : List Row} {row : Row} (h : row ∈ (ofRows rows).rows) :
    row ∈ rows := by
  rcases mem_of_mem_rows_insertAll (k := empty) h with hmem | hnil
  · exact hmem
  · exact nomatch hnil

/-- All rows have a cell for each column. -/
def Full (k : Keyed) : Prop := ∀ r ∈ k.rows, r.Full

theorem full_ofRows {rows : List Row} (h : ∀ r ∈ rows, r.Full) : (ofRows rows).Full :=
  fun r hr => h r (mem_of_mem_rows_ofRows hr)

/-! ## Lists of rows -/

/-- Of the rows put in, the last one with a key is found under it, and else what was there. -/
theorem get?_insertAll (k : Keyed) (rows : List Row) (key : Key) :
    (k.insertAll rows).get? key =
      (rows.filter fun r => r.key = key).getLast?.or (k.get? key) := by
  induction rows generalizing k with
  | nil => rfl
  | cons row rest ih =>
      rw [insertAll_cons, ih, get?_insert]
      by_cases hkey : row.key = key
      · rw [if_pos hkey, List.filter_cons_of_pos (by simpa using hkey), List.getLast?_cons]
        cases (rest.filter fun r => r.key = key).getLast? <;> rfl
      · rw [if_neg hkey, List.filter_cons_of_neg (by simpa using hkey)]

/-- Rows under other keys do not matter to what is found. -/
theorem get?_insertAll_of_forall_ne (k : Keyed) {rows : List Row}
    (h : ∀ r ∈ rows, r.key ≠ key) : (k.insertAll rows).get? key = k.get? key := by
  have hnone : (rows.filter fun r => r.key = key) = [] := by
    rw [List.filter_eq_nil_iff]
    intro r hr
    simpa using h r hr
  rw [get?_insertAll, hnone]
  rfl

/-- Of rows with different keys each is found under its own. -/
theorem get?_insertAll_of_mem (k : Keyed) {rows : List Row} (hnodup : (rows.map Row.key).Nodup)
    (hmem : row ∈ rows) : (k.insertAll rows).get? row.key = some row := by
  induction rows generalizing k with
  | nil => exact nomatch hmem
  | cons hd tl ih =>
      have hnd : hd.key ∉ tl.map Row.key ∧ (tl.map Row.key).Nodup := List.nodup_cons.mp hnodup
      rw [insertAll_cons]
      rcases List.mem_cons.mp hmem with heq | htl
      · have hne : ∀ r ∈ tl, r.key ≠ row.key := by
          intro r hr hkey
          refine hnd.1 (List.mem_map.mpr ⟨r, hr, ?_⟩)
          rw [hkey, heq]
        rw [get?_insertAll_of_forall_ne _ hne, get?_insert, heq, if_pos rfl]
      · exact ih _ hnd.2 htl

/-- **Of the rows with a key the last one counts.** -/
theorem get?_ofRows (rows : List Row) (key : Key) :
    (ofRows rows).get? key = (rows.filter fun r => r.key = key).getLast? :=
  (get?_insertAll empty rows key).trans (Option.or_none ..)

/-- Nothing is found under a key that no row has. -/
theorem get?_ofRows_eq_none_iff (rows : List Row) (key : Key) :
    (ofRows rows).get? key = none ↔ key ∉ rows.map Row.key := by
  rw [get?_ofRows, List.getLast?_eq_none_iff, List.filter_eq_nil_iff]
  constructor
  · intro hnone hmem
    obtain ⟨row, hrow, hkey⟩ := List.mem_map.mp hmem
    exact hnone row hrow (decide_eq_true hkey)
  · intro hnot row hrow hkey
    exact hnot (List.mem_map.mpr ⟨row, hrow, of_decide_eq_true hkey⟩)

/-- Putting rows in adds the keys that were not there, each where it is first seen. -/
theorem keys_insertAll (k : Keyed) (rows : List Row) :
    (k.insertAll rows).keys =
      k.keys ++ ((rows.map Row.key).filter fun key => key ∉ k.keys).eraseDups := by
  induction rows generalizing k with
  | nil => exact (List.append_nil k.keys).symm
  | cons row rest ih =>
      rw [insertAll_cons, ih, keys_insert, List.map_cons]
      by_cases h : row.key ∈ k.keys
      · rw [if_pos h, List.filter_cons_of_neg (by simpa using h)]
      · rw [if_neg h, List.filter_cons_of_pos (by simpa using h), List.eraseDups_cons,
          List.filter_filter, List.append_assoc, List.singleton_append]
        -- behind a new key, the keys left to add are those other than it
        congr 3
        refine List.filter_congr ?_
        intro key _
        by_cases hk : key = row.key <;> simp [hk]

/-- **The keys of a list of rows stand in the order in which they are first seen.** -/
theorem keys_ofRows (rows : List Row) : (ofRows rows).keys = (rows.map Row.key).eraseDups := by
  have hall : ((rows.map Row.key).filter fun key => key ∉ empty.keys) = rows.map Row.key :=
    List.filter_eq_self.mpr fun key _ => decide_eq_true List.not_mem_nil
  exact (keys_insertAll empty rows).trans (congrArg List.eraseDups hall)

/-! ## Taking keys out -/

theorem lookUp_filter (key other : Key) (table : List (Key × Row)) :
    lookUp other (table.filter fun e => e.1 != key) =
      if key = other then none else lookUp other table := by
  induction table with
  | nil => by_cases h : key = other <;> simp [h, lookUp]
  | cons hd tl ih =>
      obtain ⟨k, r⟩ := hd
      by_cases hk : k = key
      · rw [List.filter_cons_of_neg (by simpa using hk), ih, lookUp_cons]
        by_cases h : key = other
        · rw [if_pos h, if_pos h]
        · rw [if_neg h, if_neg h, if_neg (by rw [hk]; exact h)]
      · rw [List.filter_cons_of_pos (by simpa using hk), lookUp_cons, lookUp_cons, ih]
        by_cases h : key = other
        · rw [if_pos h, if_pos h, if_neg (by rw [← h]; exact hk)]
        · rw [if_neg h, if_neg h]

/-- Without a key, order and table still have the same keys. -/
theorem mem_filter_order_iff (k : Keyed) (key other : Key) :
    other ∈ k.order.filter (· != key) ↔
      other ∈ (k.table.filter fun e => e.1 != key).map Prod.fst := by
  rw [← isSome_lookUp_iff, lookUp_filter, List.mem_filter, mem_order_iff_contains]
  by_cases h : key = other
  · simp [h]
  · rw [if_neg h]
    simp [Ne.symm h, contains, get?]

/-- The rows without that of a key. -/
def remove (k : Keyed) (key : Key) : Keyed where
  order := k.order.filter (· != key)
  table := k.table.filter fun e => e.1 != key
  nodup_order := k.nodup_order.filter _
  mem_order_iff := k.mem_filter_order_iff key

theorem get?_remove (k : Keyed) (key other : Key) :
    (k.remove key).get? other = if key = other then none else k.get? other :=
  lookUp_filter key other k.table

/-- The rows without those of some keys. -/
def removeAll (k : Keyed) (keys : List Key) : Keyed := keys.foldl remove k

theorem get?_removeAll (k : Keyed) (keys : List Key) (key : Key) :
    (k.removeAll keys).get? key = if key ∈ keys then none else k.get? key := by
  induction keys generalizing k with
  | nil => rfl
  | cons hd tl ih =>
      show ((k.remove hd).removeAll tl).get? key = _
      rw [ih, get?_remove]
      by_cases htl : key ∈ tl
      · rw [if_pos htl, if_pos (List.mem_cons_of_mem _ htl)]
      · by_cases hhd : hd = key
        · rw [if_neg htl, if_pos hhd, if_pos (by rw [hhd]; exact List.mem_cons_self)]
        · rw [if_neg htl, if_neg hhd, if_neg]
          intro hmem
          rcases List.mem_cons.mp hmem with heq | hin
          · exact hhd heq.symm
          · exact htl hin

end CourseFeed.Keyed
