import CourseFeed.Proofs.KeyedRows

/-!
# The list of changes

What the changes between two lists of rows by key are, said by look-up alone.

* **`Change.Between`** — what must stand under a change's key before and after it.
* **`mem_changes_iff`** — a change is listed exactly if it lies between the two lists.
* **`nodup_keys_changes`** — no key is listed twice.
* **`exists_change_of_get?_ne`** — wherever the two lists differ there is a change.
* **`changes_self`** — rows by key do not change from themselves.
-/

namespace CourseFeed

variable {old new : Keyed}

/-- What stands under the key of a change in the old and in the new rows. -/
def Change.Between (old new : Keyed) : Change → Prop
  | .create r => old.get? r.key = none ∧ new.get? r.key = some r
  | .delete r => old.get? r.key = some r ∧ new.get? r.key = none
  | .update r r' => old.get? r'.key = some r ∧ new.get? r'.key = some r' ∧ r' ≠ r

/-! ## One key -/

/-- The change of an old entry lies between the rows and has the entry's key. -/
theorem changeOfOld_spec (hold : old.Proper) (hnew : new.Proper) {e : Key × Row}
    (he : e ∈ old.entries) {c : Change} (h : changeOfOld new e = some c) :
    c.Between old new ∧ c.key = e.1 := by
  obtain ⟨key, row⟩ := e
  have hrow : row.key = key := hold.key_eq (key, row) he
  have hget : old.get? key = some row := old.mem_entries_iff.mp he
  unfold changeOfOld at h
  cases hn : new.get? key with
  | none =>
      rw [hn] at h
      obtain rfl := Option.some.inj h
      show (old.get? row.key = some row ∧ new.get? row.key = none) ∧ row.key = key
      rw [hrow]
      exact ⟨⟨hget, hn⟩, rfl⟩
  | some row' =>
      have hrow' : row'.key = key := hnew.key_of_get? hn
      rw [hn] at h
      by_cases hsame : row' = row
      · simp [hsame] at h
      · simp only [if_neg hsame] at h
        obtain rfl := Option.some.inj h
        show (old.get? row'.key = some row ∧ new.get? row'.key = some row' ∧ row' ≠ row) ∧
          row'.key = key
        rw [hrow']
        exact ⟨⟨hget, hn, hsame⟩, rfl⟩

/-- The change of a new entry lies between the rows and has the entry's key. -/
theorem changeOfNew_spec (hnew : new.Proper) {e : Key × Row}
    (he : e ∈ new.entries) {c : Change} (h : changeOfNew old e = some c) :
    c.Between old new ∧ c.key = e.1 ∧ old.get? e.1 = none := by
  obtain ⟨key, row⟩ := e
  have hrow : row.key = key := hnew.key_eq (key, row) he
  have hget : new.get? key = some row := new.mem_entries_iff.mp he
  unfold changeOfNew at h
  cases hc : old.contains key with
  | true => simp [hc] at h
  | false =>
      have hnone : old.get? key = none := (old.contains_eq_false_iff).mp hc
      simp only [hc, Bool.false_eq_true, if_false] at h
      obtain rfl := Option.some.inj h
      show (old.get? row.key = none ∧ new.get? row.key = some row) ∧ row.key = key ∧
        old.get? key = none
      rw [hrow]
      exact ⟨⟨hnone, hget⟩, rfl, hnone⟩

/-! ## All keys -/

/-- **The changes are those that lie between the old rows and the new ones.** -/
theorem mem_changes_iff (hold : old.Proper) (hnew : new.Proper) (c : Change) :
    c ∈ changes old new ↔ c.Between old new := by
  rw [changes, List.mem_append]
  constructor
  · rintro (hc | hc)
    · obtain ⟨e, he, hce⟩ := List.mem_filterMap.mp hc
      exact (changeOfOld_spec hold hnew he hce).1
    · obtain ⟨e, he, hce⟩ := List.mem_filterMap.mp hc
      exact (changeOfNew_spec hnew he hce).1
  · intro hb
    cases c with
    | create r =>
        obtain ⟨hnone, hsome⟩ := hb
        have hc : old.contains r.key = false := (old.contains_eq_false_iff).mpr hnone
        refine Or.inr (List.mem_filterMap.mpr ⟨(r.key, r), ?_, ?_⟩)
        · exact new.mem_entries_iff.mpr hsome
        · simp [changeOfNew, hc]
    | delete r =>
        obtain ⟨hsome, hnone⟩ := hb
        refine Or.inl (List.mem_filterMap.mpr ⟨(r.key, r), ?_, ?_⟩)
        · exact old.mem_entries_iff.mpr hsome
        · simp [changeOfOld, hnone]
    | update r r' =>
        obtain ⟨hold', hnew', hne⟩ := hb
        refine Or.inl (List.mem_filterMap.mpr ⟨(r'.key, r), ?_, ?_⟩)
        · exact old.mem_entries_iff.mpr hold'
        · simp [changeOfOld, hnew', hne]

/-- Names taken off the hits of a partial map are a sublist of the names of all entries. -/
theorem map_filterMap_sublist {α β γ : Type} {f : α → Option β} {g : β → γ} {name : α → γ}
    {entries : List α} (h : ∀ e ∈ entries, ∀ c, f e = some c → g c = name e) :
    ((entries.filterMap f).map g).Sublist (entries.map name) := by
  induction entries with
  | nil => exact List.Sublist.slnil
  | cons hd tl ih =>
      have htl := ih (fun e he => h e (List.mem_cons_of_mem _ he))
      cases hf : f hd with
      | none =>
          rw [List.filterMap_cons_none hf]
          exact htl.cons _
      | some c =>
          rw [List.filterMap_cons_some hf, List.map_cons, List.map_cons,
            h hd List.mem_cons_self c hf]
          exact htl.cons_cons _

/-- **No key changes twice.** -/
theorem nodup_keys_changes (hold : old.Proper) (hnew : new.Proper) :
    ((changes old new).map Change.key).Nodup := by
  have hleft : ((old.entries.filterMap (changeOfOld new)).map Change.key).Sublist old.keys :=
    map_filterMap_sublist fun e he c hc => (changeOfOld_spec hold hnew he hc).2
  have hright : ((new.entries.filterMap (changeOfNew old)).map Change.key).Sublist new.keys :=
    map_filterMap_sublist fun e he c hc => (changeOfNew_spec hnew he hc).2.1
  rw [changes, List.map_append, List.nodup_append]
  refine ⟨hleft.nodup old.nodup_keys, hright.nodup new.nodup_keys, ?_⟩
  -- a key of the first part is an old one, a key of the second is not
  intro a ha b hb hab
  obtain ⟨c, hc, hkey⟩ := List.mem_map.mp hb
  obtain ⟨e, he, hce⟩ := List.mem_filterMap.mp hc
  obtain ⟨-, hce1, hnone⟩ := changeOfNew_spec hnew he hce
  obtain ⟨e', he', he1⟩ := List.mem_map.mp (hleft.subset ha)
  have hsome : old.get? e'.1 = some e'.2 := old.mem_entries_iff.mp he'
  rw [he1, hab, ← hkey, hce1, hnone] at hsome
  exact nomatch hsome

/-- Where the two lists differ there is a change. -/
theorem exists_change_of_get?_ne (hold : old.Proper) (hnew : new.Proper) {key : Key}
    (h : old.get? key ≠ new.get? key) : ∃ c ∈ changes old new, c.key = key := by
  cases ho : old.get? key with
  | none =>
      cases hn : new.get? key with
      | none => exact absurd (ho.trans hn.symm) h
      | some row =>
          have hrow := hnew.key_of_get? hn
          refine ⟨.create row, (mem_changes_iff hold hnew _).mpr ⟨?_, ?_⟩, hrow⟩
          · rw [hrow]; exact ho
          · rw [hrow]; exact hn
  | some row =>
      have hrow := hold.key_of_get? ho
      cases hn : new.get? key with
      | none =>
          refine ⟨.delete row, (mem_changes_iff hold hnew _).mpr ⟨?_, ?_⟩, hrow⟩
          · rw [hrow]; exact ho
          · rw [hrow]; exact hn
      | some row' =>
          have hrow' := hnew.key_of_get? hn
          refine ⟨.update row row', (mem_changes_iff hold hnew _).mpr ⟨?_, ?_, ?_⟩, hrow'⟩
          · rw [hrow']; exact ho
          · rw [hrow']; exact hn
          · intro hsame
            exact h (by rw [ho, hn, hsame])

/-- Rows by key do not change from themselves. -/
theorem changes_self {k : Keyed} (h : k.Proper) : changes k k = [] := by
  refine List.eq_nil_iff_forall_not_mem.mpr ?_
  intro c hc
  have hbetween := (mem_changes_iff h h c).mp hc
  cases c with
  | create new => exact nomatch hbetween.1.symm.trans hbetween.2
  | delete old => exact nomatch hbetween.1.symm.trans hbetween.2
  | update old new =>
      exact hbetween.2.2 (Option.some.inj (hbetween.2.1.symm.trans hbetween.1))

/-- The row that a listed change is told by is one of the rows compared. -/
theorem told_mem_of_mem_changes {c : Change} (h : c ∈ changes old new) :
    c.told ∈ old.rows ∨ c.told ∈ new.rows := by
  rcases List.mem_append.mp h with hc | hc
  · obtain ⟨⟨key, row⟩, he, hce⟩ := List.mem_filterMap.mp hc
    unfold changeOfOld at hce
    cases hn : new.get? key with
    | none =>
        rw [hn] at hce
        obtain rfl := Option.some.inj hce
        exact Or.inl (List.mem_map.mpr ⟨(key, row), he, rfl⟩)
    | some row' =>
        rw [hn] at hce
        by_cases hsame : row' = row
        · simp [hsame] at hce
        · simp only [if_neg hsame] at hce
          obtain rfl := Option.some.inj hce
          exact Or.inr (Keyed.mem_rows_of_get? hn)
  · obtain ⟨⟨key, row⟩, he, hce⟩ := List.mem_filterMap.mp hc
    unfold changeOfNew at hce
    cases hc' : old.contains key with
    | true => simp [hc'] at hce
    | false =>
        simp only [hc', Bool.false_eq_true, if_false] at hce
        obtain rfl := Option.some.inj hce
        exact Or.inr (List.mem_map.mpr ⟨(key, row), he, rfl⟩)

/-- Where all rows are full, so are those by which the changes are told. -/
theorem full_format_of_mem_changes (hold : old.Full) (hnew : new.Full) (options : DiffOptions)
    {c : Change} (h : c ∈ changes old new) : (c.format options).Full := by
  refine c.full_format options ?_
  rcases told_mem_of_mem_changes h with hmem | hmem
  · exact hold _ hmem
  · exact hnew _ hmem

end CourseFeed
