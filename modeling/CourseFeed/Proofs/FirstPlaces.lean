import CourseFeed.Proofs.KeyedRows
import Mathlib.Data.Finset.Card

/-!
# The last row at the first place

Rows by key are kept in two parts, and a row that is put in goes to both: its key joins the order
only if the table had no row for it, and its row goes to the table in any case. What holds of the
two parts is said of one row put in first, and then follows for a list of rows.

* **`FirstSeen`** — keys in the order in which a list first has them. It is kept when the list goes
  on with a key that it had, and with a new one that joins the keys (**`firstSeen_ofRows`**).
* **`InOrder`** — a table in the order of its keys. Such a table is read off the entries
  (**`InOrder.table_eq`**), so that the entries are all there is to rows by key
  (**`InOrder.eq_of_get?`**). Every table that is made of rows is in order (**`inOrder_ofRows`**).
* **`ofRows_rows`** — the rows that are kept make the same rows by key again.
* **`last_row_first_place`** — all of it.
-/

namespace CourseFeed.Keyed

variable {k k' : Keyed} {key : Key} {row : Row}

/-! ## Keys in the order in which they are first seen -/

/-- Keys that stand in the order in which they are first seen in a list. -/
def FirstSeen (seen keys : List Key) : Prop :=
  keys.Pairwise fun a b => seen.idxOf a < seen.idxOf b

/-- What is seen later does not matter to keys that were seen already. -/
theorem FirstSeen.append {seen keys : List Key} (h : FirstSeen seen keys)
    (hseen : ∀ a ∈ keys, a ∈ seen) (later : List Key) : FirstSeen (seen ++ later) keys := by
  refine h.imp_of_mem ?_
  intro a b ha hb hab
  rw [List.idxOf_append_of_mem (hseen a ha), List.idxOf_append_of_mem (hseen b hb)]
  exact hab

/-- A new key stands behind those that were seen already. -/
theorem FirstSeen.concat {seen keys : List Key} (h : FirstSeen seen keys)
    (hseen : ∀ a ∈ keys, a ∈ seen) (hnew : key ∉ seen) :
    FirstSeen (seen ++ [key]) (keys ++ [key]) := by
  refine List.pairwise_append.mpr ⟨h.append hseen [key], List.pairwise_singleton _ _, ?_⟩
  intro a ha b hb
  rw [List.mem_singleton.mp hb, List.idxOf_append_of_mem (hseen a ha),
    List.idxOf_append_of_notMem hnew]
  exact Nat.lt_add_right _ (List.idxOf_lt_length_iff.mpr (hseen a ha))

theorem ofRows_concat (rows : List Row) (row : Row) :
    ofRows (rows ++ [row]) = (ofRows rows).insert row :=
  List.foldl_concat ..

theorem mem_keys_ofRows (rows : List Row) (key : Key) :
    key ∈ (ofRows rows).keys ↔ key ∈ rows.map Row.key := by
  rw [keys_ofRows, List.mem_eraseDups]

/-- **The keys of a list of rows stand where they are first seen.** -/
theorem firstSeen_ofRows (rows : List Row) : FirstSeen (rows.map Row.key) (ofRows rows).keys := by
  induction rows using List.reverseRecOn with
  | nil => exact List.Pairwise.nil
  | append_singleton rows row ih =>
      have hseen : ∀ a ∈ (ofRows rows).keys, a ∈ rows.map Row.key :=
        fun a => (mem_keys_ofRows rows a).mp
      rw [ofRows_concat, keys_insert, List.map_append]
      by_cases h : row.key ∈ (ofRows rows).keys
      · rw [if_pos h]
        exact ih.append hseen [row.key]
      · rw [if_neg h]
        exact ih.concat hseen fun hmem => h ((mem_keys_ofRows rows row.key).mpr hmem)

/-! ## The table -/

/-- The rows of the table stand in the order of the keys. -/
def InOrder (k : Keyed) : Prop := k.table.map Prod.fst = k.order

theorem inOrder_empty : empty.InOrder := rfl

/-- Putting a row in keeps the table in order: a new key goes to the end of both parts. -/
theorem InOrder.insert (h : k.InOrder) (row : Row) : (k.insert row).InOrder := by
  show (putIn row.key row k.table).map Prod.fst = k.orderWith row.key
  rw [map_fst_putIn, h, orderWith]
  by_cases hmem : row.key ∈ k.order
  · rw [if_pos hmem, if_pos ((k.mem_order_iff_contains row.key).mp hmem)]
  · rw [if_neg hmem, if_neg (fun hc => hmem ((k.mem_order_iff_contains row.key).mpr hc))]

/-- **Every table that is made of rows is in order.** -/
theorem inOrder_ofRows (rows : List Row) : (ofRows rows).InOrder := by
  induction rows using List.reverseRecOn with
  | nil => exact inOrder_empty
  | append_singleton rows row ih =>
      rw [ofRows_concat]
      exact ih.insert row

/-- In a table without a key that stands twice, look-up finds every row. -/
theorem lookUp_of_mem {table : List (Key × Row)} (hnodup : (table.map Prod.fst).Nodup)
    (hmem : (key, row) ∈ table) : lookUp key table = some row := by
  induction table with
  | nil => exact nomatch hmem
  | cons hd tl ih =>
      obtain ⟨k, r⟩ := hd
      obtain ⟨hk, htl⟩ := List.nodup_cons.mp hnodup
      rw [lookUp_cons]
      rcases List.mem_cons.mp hmem with heq | hin
      · rw [if_pos (Prod.mk.inj heq).1.symm, (Prod.mk.inj heq).2]
      · rw [if_neg, ih htl hin]
        intro hkey
        exact hk (List.mem_map.mpr ⟨(key, row), hin, hkey.symm⟩)

/-- A table in order is the list of entries. -/
theorem InOrder.table_eq (h : k.InOrder) : k.table = k.entries := by
  have hnodup : (k.table.map Prod.fst).Nodup := by
    rw [h]
    exact k.nodup_order
  have hfound : ∀ e ∈ k.table,
      ((fun key => (k.get? key).map fun row => (key, row)) ∘ Prod.fst) e = some e := by
    intro e he
    show (lookUp e.1 k.table).map _ = _
    rw [lookUp_of_mem hnodup he, Option.map_some]
  rw [entries, ← h, List.filterMap_map, List.filterMap_congr hfound, List.filterMap_some]

/-- Rows by key whose tables are in order are equal if their keys are and the same is found under
    each. -/
theorem InOrder.eq_of_get? (h : k.InOrder) (h' : k'.InOrder) (horder : k.order = k'.order)
    (hget : ∀ key, k.get? key = k'.get? key) : k = k' := by
  have htable : k.table = k'.table := by
    rw [h.table_eq, h'.table_eq, entries, entries, horder]
    refine List.filterMap_congr ?_
    intro key _
    rw [hget]
  cases k
  cases k'
  cases horder
  cases htable
  rfl

/-! ## The rows that are kept -/

theorem eraseDups_of_nodup {keys : List Key} (h : keys.Nodup) : keys.eraseDups = keys := by
  induction keys with
  | nil => rfl
  | cons key rest ih =>
      obtain ⟨hkey, hrest⟩ := List.nodup_cons.mp h
      have hall : (rest.filter fun other => !other == key) = rest := by
        rw [List.filter_eq_self]
        intro other hother
        have hne : other ≠ key := fun heq => hkey (heq ▸ hother)
        simpa using hne
      rw [List.eraseDups_cons, hall, ih hrest]

/-- **The rows that are kept make the same rows by key again.** -/
theorem ofRows_rows (rows : List Row) : ofRows (ofRows rows).rows = ofRows rows := by
  have hkeys := (proper_ofRows rows).map_key_rows
  have hnodup : ((ofRows rows).rows.map Row.key).Nodup := by
    rw [hkeys]
    exact (ofRows rows).nodup_keys
  refine (inOrder_ofRows _).eq_of_get? (inOrder_ofRows rows) ?_ ?_
  · rw [← keys_eq_order, ← keys_eq_order, keys_ofRows, hkeys,
      eraseDups_of_nodup (ofRows rows).nodup_keys]
  · intro key
    cases hget : (ofRows rows).get? key with
    | none =>
        rw [get?_ofRows_eq_none_iff, hkeys, keys_eq_order, mem_order_iff_contains,
          contains_eq_true_iff, hget]
        rintro ⟨row, hrow⟩
        exact nomatch hrow
    | some row =>
        have hrow := get?_insertAll_of_mem empty hnodup (mem_rows_of_get? hget)
        rw [(proper_ofRows rows).key_of_get? hget] at hrow
        exact hrow

/-! ## Together -/

/-- **The last row at the first place.**  Of a list of rows each key is kept once, in the order in
    which the keys are first seen, and has the last row with it, which is a row of this key.  Going
    through the order leaves no key out, looking a key up finds what its entry has, the size is the
    number of different keys, and the rows that are kept make the same rows by key again. -/
theorem last_row_first_place (rows : List Row) :
    let k := ofRows rows
    (k.keys.Nodup ∧ (∀ key, key ∈ k.keys ↔ key ∈ rows.map Row.key) ∧
      k.keys.Pairwise fun a b => (rows.map Row.key).idxOf a < (rows.map Row.key).idxOf b) ∧
    (∀ key row, (key, row) ∈ k.entries ↔
      (rows.filter fun r => r.key = key).getLast? = some row) ∧
    (∀ key row, (key, row) ∈ k.entries → row.key = key) ∧
    (∀ key row, k.get? key = some row ↔ (key, row) ∈ k.entries) ∧
    (∀ key, k.contains key = true ↔ ∃ row, (key, row) ∈ k.entries) ∧
    k.keys = k.order ∧ k.size = k.entries.length ∧ k.size = (rows.map Row.key).toFinset.card ∧
    ofRows k.rows = k := by
  intro k
  have hsize : k.size = k.keys.length := congrArg List.length k.keys_eq_order.symm
  refine ⟨⟨k.nodup_keys, mem_keys_ofRows rows, firstSeen_ofRows rows⟩, ?_, ?_, ?_, ?_,
    k.keys_eq_order, ?_, ?_, ofRows_rows rows⟩
  · intro key row
    rw [mem_entries_iff, get?_ofRows]
  · intro key row hmem
    exact (proper_ofRows rows).key_eq (key, row) hmem
  · intro key row
    exact k.mem_entries_iff.symm
  · intro key
    simp only [contains_eq_true_iff, mem_entries_iff]
  · rw [hsize, keys, List.length_map]
  · have hfinset : (rows.map Row.key).toFinset = k.keys.toFinset := by
      ext key
      rw [List.mem_toFinset, List.mem_toFinset, mem_keys_ofRows]
    rw [hsize, hfinset, List.toFinset_card_of_nodup k.nodup_keys]

/-- A course that comes twice keeps its first place and has its last row. -/
theorem last_row_first_place_repeated :
    let first := Row.about "A" "1"
    let last := first.set Column.courseTitle "Algebra"
    let other := Row.about "B" "1"
    let k := ofRows [first, other, last]
    k.rows = [last, other] ∧ (first.key, last) ∈ k.entries ∧ last.key = first.key ∧
      k.size = 2 ∧ ofRows [last, other] = k := by
  intro first last other k
  obtain ⟨-, hentries, hkey, -, -, -, -, -, hagain⟩ := last_row_first_place [first, other, last]
  have hrows : k.rows = [last, other] := by decide
  have hmem : (first.key, last) ∈ k.entries := (hentries first.key last).mpr (by decide)
  exact ⟨hrows, hmem, hkey first.key last hmem, by decide, hrows ▸ hagain⟩

end CourseFeed.Keyed
