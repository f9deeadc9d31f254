import CourseFeed.Proofs.ChangeList
import Mathlib.Data.List.Nodup

/-!
# The order of changes, and changes backwards

The changes between two lists of rows are determined key by key, so that nothing is left to say
about them but their order. They stand in the order of the keys they come from: the first part
goes through the old keys, the second through the new ones.

* **`Change.between_iff`** — a change lies between two lists exactly if it carries what is found
  under its key in either, and these differ.
* **`filter_changes_of_eq`**, **`filter_changes_of_ne`** — the changes of one key: none, or one.
* **`keys_changesOfOld`**, **`keys_changesOfNew`** — the keys of the two parts in order.
* **`Change.mirror`** — a change taken backwards. From the new rows to the old ones there are the
  mirrored changes (**`changes_mirror`**).
-/

namespace CourseFeed

variable {old new : Keyed}

/-! ## The changes of one key -/

/-- **A change is what is found under its key before and after, where this differs.** -/
theorem Change.between_iff (c : Change) :
    c.Between old new ↔
      old.get? c.key = c.old? ∧ new.get? c.key = c.new? ∧ c.old? ≠ c.new? := by
  cases c with
  | create r =>
      show _ ∧ _ ↔ _ ∧ _ ∧ (none : Option Row) ≠ some r
      simp [key, old?, new?]
  | delete r =>
      show _ ∧ _ ↔ _ ∧ _ ∧ some r ≠ (none : Option Row)
      simp [key, old?, new?]
  | update r r' =>
      show _ ∧ _ ∧ r' ≠ r ↔ _ ∧ _ ∧ some r ≠ some r'
      rw [ne_comm, ne_eq (some r), Option.some.injEq]
      exact Iff.rfl

theorem nodup_changes (hold : old.Proper) (hnew : new.Proper) : (changes old new).Nodup :=
  List.Nodup.of_map _ (nodup_keys_changes hold hnew)

/-- Where the two lists agree there is no change. -/
theorem filter_changes_of_eq (hold : old.Proper) (hnew : new.Proper) {key : Key}
    (h : old.get? key = new.get? key) : ((changes old new).filter fun c => c.key = key) = [] := by
  rw [List.filter_eq_nil_iff]
  intro c hc hkey
  obtain ⟨hbefore, hafter, hne⟩ := c.between_iff.mp ((mem_changes_iff hold hnew c).mp hc)
  rw [of_decide_eq_true hkey] at hbefore hafter
  exact hne (by rw [← hbefore, ← hafter, h])

/-- Where the two lists differ there is one change, with what stands there before and after. -/
theorem filter_changes_of_ne (hold : old.Proper) (hnew : new.Proper) {key : Key}
    (h : old.get? key ≠ new.get? key) :
    ∃ c, ((changes old new).filter fun c => c.key = key) = [c] ∧ c.key = key ∧
      c.old? = old.get? key ∧ c.new? = new.get? key := by
  obtain ⟨c, hc, hkey⟩ := exists_change_of_get?_ne hold hnew h
  obtain ⟨hbefore, hafter, -⟩ := c.between_iff.mp ((mem_changes_iff hold hnew c).mp hc)
  refine ⟨c, ?_, hkey, by rw [← hbefore, hkey], by rw [← hafter, hkey]⟩
  -- keys do not repeat, so the changes of this key are those of a list with `c` alone
  refine List.perm_singleton.mp ?_
  rw [List.perm_ext_iff_of_nodup ((nodup_changes hold hnew).filter _) (List.nodup_singleton c)]
  intro c'
  rw [List.mem_filter, List.mem_singleton, decide_eq_true_iff]
  constructor
  · rintro ⟨hc', hkey'⟩
    exact List.inj_on_of_nodup_map (nodup_keys_changes hold hnew) hc' hc (hkey'.trans hkey.symm)
  · rintro rfl
    exact ⟨hc, hkey⟩

/-! ## Order -/

/-- The names of the hits of a partial map, where it hits exactly the entries with certain names
    and keeps their names. -/
theorem map_filterMap_eq_filter {α β γ : Type} {f : α → Option β} {g : β → γ} {name : α → γ}
    {p : γ → Bool} {entries : List α}
    (h : ∀ e ∈ entries, (f e).map g = if p (name e) then some (name e) else none) :
    (entries.filterMap f).map g = (entries.map name).filter p := by
  induction entries with
  | nil => rfl
  | cons hd tl ih =>
      have htl := ih fun e he => h e (List.mem_cons_of_mem _ he)
      have hhd := h hd List.mem_cons_self
      rw [List.map_cons]
      by_cases hp : p (name hd)
      · rw [if_pos hp] at hhd
        obtain ⟨c, hc, hname⟩ := Option.map_eq_some_iff.mp hhd
        rw [List.filterMap_cons_some hc, List.map_cons, hname, List.filter_cons_of_pos hp, htl]
      · rw [if_neg hp] at hhd
        rw [List.filterMap_cons_none (Option.map_eq_none_iff.mp hhd), List.filter_cons_of_neg hp,
          htl]

/-- **The first part of the changes goes through the old keys that differ.** -/
theorem keys_changesOfOld (hold : old.Proper) (hnew : new.Proper) :
    (old.entries.filterMap (changeOfOld new)).map Change.key =
      old.keys.filter fun key => old.get? key ≠ new.get? key := by
  refine map_filterMap_eq_filter ?_
  intro e he
  have hget : old.get? e.1 = some e.2 := old.mem_entries_iff.mp he
  cases hc : changeOfOld new e with
  | some c =>
      obtain ⟨hbetween, hkey⟩ := changeOfOld_spec hold hnew he hc
      obtain ⟨hbefore, hafter, hne⟩ := c.between_iff.mp hbetween
      rw [hkey] at hbefore hafter
      rw [if_pos (decide_eq_true (by rw [hbefore, hafter]; exact hne)), Option.map_some, hkey]
  | none =>
      -- the same row stands in the new list
      unfold changeOfOld at hc
      cases hn : new.get? e.1 with
      | none =>
          rw [hn] at hc
          exact nomatch hc
      | some row =>
          rw [hn] at hc
          by_cases hsame : row = e.2
          · rw [if_neg (by simp [hget, hsame])]
            rfl
          · simp [hsame] at hc

/-- **The second part of the changes goes through the new keys that are not old ones.** -/
theorem keys_changesOfNew (hnew : new.Proper) :
    (new.entries.filterMap (changeOfNew old)).map Change.key =
      new.keys.filter fun key => old.get? key = none := by
  refine map_filterMap_eq_filter ?_
  intro e he
  cases hc : changeOfNew old e with
  | some c =>
      obtain ⟨-, hkey, hnone⟩ := changeOfNew_spec hnew he hc
      rw [if_pos (decide_eq_true hnone), Option.map_some, hkey]
  | none =>
      unfold changeOfNew at hc
      cases hin : old.contains e.1 with
      | false => simp [hin] at hc
      | true =>
          obtain ⟨row, hrow⟩ := old.contains_eq_true_iff.mp hin
          rw [if_neg (by simp [hrow])]
          rfl

theorem kind_of_mem_changesOfOld {c : Change}
    (h : c ∈ old.entries.filterMap (changeOfOld new)) : c.kind = .delete ∨ c.kind = .update := by
  obtain ⟨e, -, hc⟩ := List.mem_filterMap.mp h
  unfold changeOfOld at hc
  cases hn : new.get? e.1 with
  | none =>
      rw [hn] at hc
      obtain rfl := Option.some.inj hc
      exact Or.inl rfl
  | some row =>
      rw [hn] at hc
      by_cases hsame : row = e.2
      · simp [hsame] at hc
      · simp only [if_neg hsame] at hc
        obtain rfl := Option.some.inj hc
        exact Or.inr rfl

theorem kind_of_mem_changesOfNew {c : Change}
    (h : c ∈ new.entries.filterMap (changeOfNew old)) : c.kind = .create := by
  obtain ⟨e, -, hc⟩ := List.mem_filterMap.mp h
  unfold changeOfNew at hc
  cases hin : old.contains e.1 with
  | true => simp [hin] at hc
  | false =>
      simp only [hin, Bool.false_eq_true, if_false] at hc
      obtain rfl := Option.some.inj hc
      rfl

/-! ## Backwards -/

/-- A change taken backwards. -/
def Change.mirror : Change → Change
  | .create r => .delete r
  | .delete r => .create r
  | .update r r' => .update r' r

theorem Change.mirror_mirror (c : Change) : c.mirror.mirror = c := by
  cases c <;> rfl

/-- What lies between two lists lies backwards between them the other way round. -/
theorem Change.Between.mirror (hold : old.Proper) {c : Change} (h : c.Between old new) :
    c.mirror.Between new old := by
  cases c with
  | create r => exact ⟨h.2, h.1⟩
  | delete r => exact ⟨h.2, h.1⟩
  | update r r' =>
      obtain ⟨hbefore, hafter, hne⟩ := h
      -- both rows of an update have its key
      have hkey : r.key = r'.key := hold.key_of_get? hbefore
      show new.get? r.key = some r' ∧ old.get? r.key = some r ∧ r ≠ r'
      rw [hkey]
      exact ⟨hafter, hbefore, hne.symm⟩

/-- **From the new rows to the old ones there are the mirrored changes.** -/
theorem changes_mirror (hold : old.Proper) (hnew : new.Proper) :
    (changes new old).Perm ((changes old new).map Change.mirror) := by
  have hinj : Function.Injective Change.mirror :=
    Function.LeftInverse.injective Change.mirror_mirror
  rw [List.perm_ext_iff_of_nodup (nodup_changes hnew hold) ((nodup_changes hold hnew).map hinj)]
  intro c
  rw [mem_changes_iff hnew hold, List.mem_map]
  constructor
  · intro h
    exact ⟨c.mirror, (mem_changes_iff hold hnew _).mpr (h.mirror hnew), c.mirror_mirror⟩
  · rintro ⟨c', hc', rfl⟩
    exact ((mem_changes_iff hold hnew c').mp hc').mirror hold

/-! ## Together -/

/-- **The changes between two lists of rows.**  A key under which the same is found in both has no
    change, any other has one, with its two rows.  First come deletions and updates in the order in
    which their keys are first seen among the old rows, then creations in that of the new ones.
    Nothing changes from a list to itself, and backwards each change is mirrored. -/
theorem changes_exact (olds news : List Row) :
    let old := Keyed.ofRows olds
    let new := Keyed.ofRows news
    (∀ key, old.get? key = new.get? key →
      ((changes old new).filter fun c => c.key = key) = []) ∧
    (∀ key, old.get? key ≠ new.get? key →
      ∃ c, ((changes old new).filter fun c => c.key = key) = [c] ∧ c.key = key ∧
        c.old? = old.get? key ∧ c.new? = new.get? key) ∧
    (∃ gone fresh, changes old new = gone ++ fresh ∧
      (∀ c ∈ gone, c.kind = .delete ∨ c.kind = .update) ∧ (∀ c ∈ fresh, c.kind = .create) ∧
      gone.map Change.key =
        ((olds.map Row.key).eraseDups.filter fun key => old.get? key ≠ new.get? key) ∧
      fresh.map Change.key =
        ((news.map Row.key).eraseDups.filter fun key => old.get? key = none)) ∧
    changes old old = [] ∧
    (changes new old).Perm ((changes old new).map Change.mirror) := by
  intro old new
  have hold : old.Proper := Keyed.proper_ofRows olds
  have hnew : new.Proper := Keyed.proper_ofRows news
  refine ⟨fun key => filter_changes_of_eq hold hnew, fun key => filter_changes_of_ne hold hnew,
    ⟨_, _, rfl, fun c => kind_of_mem_changesOfOld, fun c => kind_of_mem_changesOfNew, ?_, ?_⟩,
    changes_self hold, changes_mirror hold hnew⟩
  · rw [keys_changesOfOld hold hnew, Keyed.keys_ofRows]
  · rw [keys_changesOfNew hnew, Keyed.keys_ofRows]

end CourseFeed
