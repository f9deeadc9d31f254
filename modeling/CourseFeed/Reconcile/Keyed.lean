import CourseFeed.Row.Basic

/-!
# Rows by key

A **`Keyed`** list has one row for each key: the keys stand in the order in which they were first
seen, and each has the row that was seen last. It is kept in two parts, the keys in their order and
a table of the rows under them. That both have the same keys is a part of the type, and
**`Keyed.insert`** keeps it: a key joins the order just if the table had no row for it.
**`Keyed.entries`** goes through the keys in order and takes the row of each from the table.
-/

namespace CourseFeed

/-- Rows by key, in the order in which their keys were first seen. -/
structure Keyed where
  /-- The keys in the order in which they were first seen. -/
  order : List Key
  /-- The row of each key. -/
  table : List (Key × Row)
  nodup_order : order.Nodup
  mem_order_iff : ∀ key, key ∈ order ↔ key ∈ table.map Prod.fst
  deriving Repr, DecidableEq

namespace Keyed

/-! ## Tables -/

/-- The row that stands under a key in a table. -/
def lookUp (key : Key) (table : List (Key × Row)) : Option Row :=
  (table.find? fun e => e.1 == key).map Prod.snd

/-- Puts a row in the place of the one with its key, or at the end. -/
def putIn (key : Key) (row : Row) : List (Key × Row) → List (Key × Row)
  | [] => [(key, row)]
  | (k, r) :: rest => if k = key then (k, row) :: rest else (k, r) :: putIn key row rest

/-- Look-up goes by the first entry of a key. -/
theorem lookUp_cons (k : Key) (r : Row) (table : List (Key × Row)) (key : Key) :
    lookUp key ((k, r) :: table) = if k = key then some r else lookUp key table := by
  show (List.find? (fun e => e.1 == key) ((k, r) :: table)).map Prod.snd = _
  by_cases h : k = key
  · rw [if_pos h, List.find?_cons_of_pos (by simpa using h)]
    rfl
  · rw [if_neg h, List.find?_cons_of_neg (by simpa using h)]
    rfl

theorem isSome_lookUp_iff (key : Key) (table : List (Key × Row)) :
    (lookUp key table).isSome = true ↔ key ∈ table.map Prod.fst := by
  rw [lookUp, Option.isSome_map, List.find?_isSome, List.mem_map]
  simp only [beq_iff_eq]

/-- The keys after a row was put in: a new key stands at the end. -/
theorem map_fst_putIn (key : Key) (row : Row) (table : List (Key × Row)) :
    (putIn key row table).map Prod.fst =
      if key ∈ table.map Prod.fst then table.map Prod.fst else table.map Prod.fst ++ [key] := by
  induction table with
  | nil => simp [putIn]
  | cons hd tl ih =>
      obtain ⟨k, r⟩ := hd
      by_cases hk : k = key
      · rw [putIn, if_pos hk]
        simp [hk]
      · rw [putIn, if_neg hk, List.map_cons, ih]
        have hmem : key ∈ (k :: tl.map Prod.fst) ↔ key ∈ tl.map Prod.fst := by
          simp [Ne.symm hk]
        by_cases h : key ∈ tl.map Prod.fst
        · simp only [List.map_cons, if_pos h, if_pos (hmem.mpr h)]
        · simp only [List.map_cons, if_neg h, if_neg (fun hc => h (hmem.mp hc)), List.cons_append]

/-! ## Rows by key -/

/-- No rows. -/
def empty : Keyed := ⟨[], [], List.nodup_nil, fun _ => Iff.rfl⟩

/-- The row with a key. -/
def get? (k : Keyed) (key : Key) : Option Row := lookUp key k.table

/-- Whether some row has a key. -/
def contains (k : Keyed) (key : Key) : Bool := (k.get? key).isSome

theorem mem_order_iff_contains (k : Keyed) (key : Key) :
    key ∈ k.order ↔ k.contains key = true :=
  (k.mem_order_iff key).trans (isSome_lookUp_iff key k.table).symm

/-- The order with another key, which joins it at the end unless it has a row. -/
def orderWith (k : Keyed) (key : Key) : List Key :=
  if k.contains key then k.order else k.order ++ [key]

theorem nodup_orderWith (k : Keyed) (key : Key) : (k.orderWith key).Nodup := by
  unfold orderWith
  by_cases h : k.contains key = true
  · rw [if_pos h]
    exact k.nodup_order
  · rw [if_neg h, List.nodup_append]
    refine ⟨k.nodup_order, by simp, ?_⟩
    intro a ha b hb hab
    rw [hab, List.mem_singleton.mp hb] at ha
    exact h ((k.mem_order_iff_contains key).mp ha)

/-- After a row was put in, order and table still have the same keys. -/
theorem mem_orderWith_iff (k : Keyed) (row : Row) (key : Key) :
    key ∈ k.orderWith row.key ↔ key ∈ (putIn row.key row k.table).map Prod.fst := by
  rw [map_fst_putIn]
  unfold orderWith
  by_cases h : k.contains row.key = true
  · have htable := (k.mem_order_iff row.key).mp ((k.mem_order_iff_contains row.key).mpr h)
    rw [if_pos h, if_pos htable]
    exact k.mem_order_iff key
  · have htable : row.key ∉ k.table.map Prod.fst :=
      fun hc => h ((k.mem_order_iff_contains row.key).mp ((k.mem_order_iff row.key).mpr hc))
    rw [if_neg h, if_neg htable, List.mem_append, List.mem_append, k.mem_order_iff]

/-- The rows with another one added. -/
def insert (k : Keyed) (row : Row) : Keyed where
  order := k.orderWith row.key
  table := putIn row.key row k.table
  nodup_order := k.nodup_orderWith row.key
  mem_order_iff := k.mem_orderWith_iff row

/-- The rows of a list by key. -/
def ofRows (rows : List Row) : Keyed := rows.foldl insert empty

/-- The number of keys. -/
def size (k : Keyed) : Nat := k.order.length

/-- Whether there are no rows. -/
def isEmpty (k : Keyed) : Bool := k.order.isEmpty

/-- The keys in order, each with its row. -/
def entries (k : Keyed) : List (Key × Row) :=
  k.order.filterMap fun key => (k.get? key).map fun row => (key, row)

/-- The keys of the entries in order. -/
def keys (k : Keyed) : List Key := k.entries.map Prod.fst

/-- The rows of the entries in order. -/
def rows (k : Keyed) : List Row := k.entries.map Prod.snd

end Keyed

end CourseFeed
