import CourseFeed.Proofs.ChangeList

/-!
# Rows that share a key

A key is one text, the course code and the section with a colon between them, and nothing marks
which of its colons that is.  So two rows share a key if they are about the same course and section,
and also if the code of one goes on, behind a colon, into what is the section of the other.

* **`Key.Alike`** — a course and section that make the same key as another one, said without keys,
  and **`Key.of_eq_iff_alike`**: there are no others.
* **`Key.Alike.same`** — where no code has a colon in it, or no section has, a key tells them apart.
* **`perm_unreplaced`** — the rows that a list by key keeps are those with no row alike behind them,
  and **`perm_ofRows_iff`**: these are all just if no two rows share a key.
* **`alike_of_update`** — the two rows of an update are alike.
* **`kept_unless_alike`** — all of it, and **`moved_colon_shares_key`**: two courses taken for one.
-/

namespace CourseFeed

/-! ## Keys -/

/-- A course and section are another one with the colon moved: the second code is the first, a
    colon and a part that stands at the start of the first section, with a colon behind it. -/
def Key.Moved (code sectionId code' sectionId' : String) : Prop :=
  ∃ part, code' = code ++ ":" ++ part ∧ sectionId = part ++ ":" ++ sectionId'

/-- A course and section are the same as another one, or one of them is the other with the colon
    moved. -/
def Key.Alike (code sectionId code' sectionId' : String) : Prop :=
  (code = code' ∧ sectionId = sectionId') ∨ Moved code sectionId code' sectionId' ∨
    Moved code' sectionId' code sectionId

/-! ### Texts joined by a character -/

/-- Where a list is split at an element in two ways, these are one, or the first part of one goes
    on behind the split of the other. -/
theorem append_cons_eq_iff {α : Type} {c : α} {front back front' back' : List α} :
    front ++ c :: back = front' ++ c :: back' ↔
      (front = front' ∧ back = back') ∨
        (∃ part, front' = front ++ c :: part ∧ back = part ++ c :: back') ∨
        ∃ part, front = front' ++ c :: part ∧ back' = part ++ c :: back := by
  constructor
  · intro h
    -- one of the first parts is the start of the other
    rcases List.append_eq_append_iff.mp h with ⟨part, hfront, hback⟩ | ⟨part, hfront, hback⟩
    · cases part with
      | nil =>
          rw [List.append_nil] at hfront
          exact Or.inl ⟨hfront.symm, (List.cons.inj hback).2⟩
      | cons d part =>
          obtain ⟨rfl, hpart⟩ := List.cons.inj hback
          exact Or.inr (Or.inl ⟨part, hfront, hpart⟩)
    · cases part with
      | nil =>
          rw [List.append_nil] at hfront
          exact Or.inl ⟨hfront, (List.cons.inj hback).2.symm⟩
      | cons d part =>
          obtain ⟨rfl, hpart⟩ := List.cons.inj hback
          exact Or.inr (Or.inr ⟨part, hfront, hpart⟩)
  · rintro (⟨rfl, rfl⟩ | ⟨part, rfl, rfl⟩ | ⟨part, rfl, rfl⟩)
    · rfl
    · rw [List.append_assoc, List.cons_append]
    · rw [List.append_assoc, List.cons_append]

theorem toList_joined {sep : String} {c : Char} (hsep : sep.toList = [c]) (front back : String) :
    (front ++ sep ++ back).toList = front.toList ++ c :: back.toList := by
  rw [String.toList_append, String.toList_append, hsep, List.append_assoc]
  rfl

/-- A text that is joined of two parts says which parts these are, up to a moved separator. -/
theorem joined_eq_iff {sep : String} {c : Char} (hsep : sep.toList = [c])
    {front back front' back' : String} :
    front ++ sep ++ back = front' ++ sep ++ back' ↔
      (front = front' ∧ back = back') ∨
        (∃ part, front' = front ++ sep ++ part ∧ back = part ++ sep ++ back') ∨
        ∃ part, front = front' ++ sep ++ part ∧ back' = part ++ sep ++ back := by
  -- a part of the characters is a part of the text
  have hpart : ∀ {front back front' back' : String},
      (∃ part : List Char, front'.toList = front.toList ++ c :: part ∧
        back.toList = part ++ c :: back'.toList) ↔
      ∃ part : String, front' = front ++ sep ++ part ∧ back = part ++ sep ++ back' := by
    intro front back front' back'
    constructor
    · rintro ⟨part, hfront, hback⟩
      refine ⟨String.ofList part, ?_, ?_⟩
      · rw [← String.toList_inj, toList_joined hsep, String.toList_ofList]
        exact hfront
      · rw [← String.toList_inj, toList_joined hsep, String.toList_ofList]
        exact hback
    · rintro ⟨part, rfl, rfl⟩
      exact ⟨part.toList, toList_joined hsep front part, toList_joined hsep part back'⟩
  rw [← String.toList_inj, toList_joined hsep, toList_joined hsep, append_cons_eq_iff,
    String.toList_inj, String.toList_inj, hpart, hpart]

/-! ### Keys that are the same -/

/-- **Only what is alike has the same key.** -/
theorem Key.of_eq_iff_alike (code sectionId code' sectionId' : String) :
    Key.of code sectionId = Key.of code' sectionId' ↔
      Key.Alike code sectionId code' sectionId' := by
  rw [Key.of, Key.of, Key.mk.injEq]
  exact joined_eq_iff rfl

instance (code sectionId code' sectionId' : String) :
    Decidable (Key.Alike code sectionId code' sectionId') :=
  decidable_of_iff _ (Key.of_eq_iff_alike code sectionId code' sectionId')

/-- The colon is moved only between a colon in the longer code and one in the section. -/
theorem Key.Moved.colons {code sectionId code' sectionId' : String}
    (h : Moved code sectionId code' sectionId') : ':' ∈ code'.toList ∧ ':' ∈ sectionId.toList := by
  obtain ⟨part, rfl, rfl⟩ := h
  rw [toList_joined (c := ':') rfl, toList_joined (c := ':') rfl]
  exact ⟨List.mem_append_right _ List.mem_cons_self, List.mem_append_right _ List.mem_cons_self⟩

/-- **Where no code has a colon in it, or no section has, what is alike is the same.** -/
theorem Key.Alike.same {code sectionId code' sectionId' : String}
    (h : Alike code sectionId code' sectionId')
    (hcolon : (':' ∉ code.toList ∧ ':' ∉ code'.toList) ∨
      (':' ∉ sectionId.toList ∧ ':' ∉ sectionId'.toList)) :
    code = code' ∧ sectionId = sectionId' := by
  rcases h with hsame | hmoved | hmoved
  · exact hsame
  · rcases hcolon with ⟨-, hcode⟩ | ⟨hsection, -⟩
    · exact absurd hmoved.colons.1 hcode
    · exact absurd hmoved.colons.2 hsection
  · rcases hcolon with ⟨hcode, -⟩ | ⟨-, hsection⟩
    · exact absurd hmoved.colons.1 hcode
    · exact absurd hmoved.colons.2 hsection

/-- Codes without a colon in them are told apart by keys, whatever the sections are. -/
theorem Key.of_inj {code sectionId code' sectionId' : String} (h : ':' ∉ code.toList)
    (h' : ':' ∉ code'.toList) :
    Key.of code sectionId = Key.of code' sectionId' ↔ code = code' ∧ sectionId = sectionId' := by
  constructor
  · intro hkey
    exact ((Key.of_eq_iff_alike _ _ _ _).mp hkey).same (Or.inl ⟨h, h'⟩)
  · rintro ⟨rfl, rfl⟩
    rfl

/-! ## Rows -/

/-- The courses and sections of two rows are alike. -/
def Row.Alike (r r' : Row) : Prop := Key.Alike r.courseCode r.sectionId r'.courseCode r'.sectionId

instance (r r' : Row) : Decidable (r.Alike r') := inferInstanceAs (Decidable (Key.Alike _ _ _ _))

theorem Row.key_eq_iff_alike (r r' : Row) : r.key = r'.key ↔ r.Alike r' :=
  Key.of_eq_iff_alike r.courseCode r.sectionId r'.courseCode r'.sectionId

/-- The rows of a list that have no row alike behind them. -/
def unreplaced : List Row → List Row
  | [] => []
  | r :: rest => if ∃ later ∈ rest, r.Alike later then unreplaced rest else r :: unreplaced rest

namespace Keyed

/-- Putting a row in takes out the entry that stood under its key, if there was one. -/
theorem perm_entries_insert (k : Keyed) (row : Row) :
    (k.insert row).entries.Perm ((row.key, row) :: k.entries.filter fun e => e.1 != row.key) := by
  -- entries do not repeat, so it is enough to say what they are
  have hleft : ((row.key, row) :: k.entries.filter fun e => e.1 != row.key).Nodup := by
    refine List.nodup_cons.mpr ⟨?_, k.nodup_entries.filter _⟩
    simp [List.mem_filter]
  rw [List.perm_ext_iff_of_nodup (k.insert row).nodup_entries hleft]
  rintro ⟨key, row'⟩
  rw [mem_entries_iff, get?_insert, List.mem_cons, List.mem_filter, mem_entries_iff]
  by_cases hkey : row.key = key
  · rw [if_pos hkey]
    simp [hkey, eq_comm]
  · rw [if_neg hkey]
    simp [Ne.symm hkey]

/-- The entry of a row. -/
def entryOf (r : Row) : Key × Row := (r.key, r)

theorem exists_alike_iff (r : Row) (rest : List Row) :
    (∃ later ∈ rest, r.Alike later) ↔ r.key ∈ rest.map Row.key := by
  rw [List.mem_map]
  constructor
  · rintro ⟨later, hmem, halike⟩
    exact ⟨later, hmem, ((r.key_eq_iff_alike later).mpr halike).symm⟩
  · rintro ⟨later, hmem, hkey⟩
    exact ⟨later, hmem, (r.key_eq_iff_alike later).mp hkey.symm⟩

/-- The rows that are put in stand in the list with those that were there and are not replaced. -/
theorem perm_insertAll (k : Keyed) (rows : List Row) :
    (k.insertAll rows).entries.Perm
      ((k.entries.filter fun e => e.1 ∉ rows.map Row.key) ++ (unreplaced rows).map entryOf) := by
  induction rows generalizing k with
  | nil =>
      have hall : (k.entries.filter fun e => e.1 ∉ ([] : List Row).map Row.key) = k.entries := by
        rw [List.filter_eq_self]
        intro e _
        exact decide_eq_true List.not_mem_nil
      rw [hall]
      exact List.Perm.of_eq (List.append_nil _).symm
  | cons row rest ih =>
      -- what stays is under another key than the row, and than those behind it
      have hfilter : ((k.entries.filter fun e => e.1 != row.key).filter
          fun e => e.1 ∉ rest.map Row.key) =
            k.entries.filter fun e => e.1 ∉ (row :: rest).map Row.key := by
        rw [List.filter_filter]
        refine List.filter_congr ?_
        intro e _
        by_cases hkey : e.1 = row.key
        · simp [hkey]
        · simp [hkey]
      have hrow := (k.perm_entries_insert row).filter
        fun e => decide (e.1 ∉ rest.map Row.key)
      rw [insertAll_cons]
      refine ((ih (k.insert row)).trans (hrow.append_right _)).trans ?_
      by_cases hlater : row.key ∈ rest.map Row.key
      · rw [List.filter_cons_of_neg (by simpa using hlater), hfilter, unreplaced,
          if_pos ((exists_alike_iff row rest).mpr hlater)]
      · rw [List.filter_cons_of_pos (by simpa using hlater), hfilter, unreplaced,
          if_neg (fun hex => hlater ((exists_alike_iff row rest).mp hex)), List.map_cons]
        exact List.perm_middle.symm

/-- **A list by key keeps the rows that have no row alike behind them.** -/
theorem perm_unreplaced (rows : List Row) : (ofRows rows).rows.Perm (unreplaced rows) := by
  have hentries := (empty.perm_insertAll rows).map Prod.snd
  rw [List.map_append, List.map_map] at hentries
  have hrows : (unreplaced rows).map (Prod.snd ∘ entryOf) = unreplaced rows := List.map_id _
  rw [hrows] at hentries
  exact hentries

theorem unreplaced_eq_self {rows : List Row} (h : (rows.map Row.key).Nodup) :
    unreplaced rows = rows := by
  induction rows with
  | nil => rfl
  | cons r rest ih =>
      obtain ⟨hr, hrest⟩ := List.nodup_cons.mp h
      rw [unreplaced, if_neg (fun hlater => hr ((exists_alike_iff r rest).mp hlater)), ih hrest]

/-- **A list by key keeps all rows just if no two of them share a key.** -/
theorem perm_ofRows_iff (rows : List Row) :
    (ofRows rows).rows.Perm rows ↔ (rows.map Row.key).Nodup := by
  constructor
  · intro hperm
    refine (hperm.map Row.key).nodup_iff.mp ?_
    rw [(proper_ofRows rows).map_key_rows]
    exact (ofRows rows).nodup_keys
  · intro hnodup
    have hkept := perm_unreplaced rows
    rw [unreplaced_eq_self hnodup] at hkept
    exact hkept

end Keyed

/-- **The rows of an update are alike.** -/
theorem alike_of_update {olds news : List Row} {old new : Row}
    (h : Change.update old new ∈ changes (Keyed.ofRows olds) (Keyed.ofRows news)) :
    old.Alike new := by
  have hold := Keyed.proper_ofRows olds
  have hbetween := (mem_changes_iff hold (Keyed.proper_ofRows news) _).mp h
  exact (old.key_eq_iff_alike new).mp (hold.key_of_get? hbetween.1)

/-- **What shares a key.**  Two courses and sections make the same key just if they are alike.  So
    a list by key drops a row just if a row alike stands behind it, and the two rows of an update
    are alike.  Where no code has a colon in it, or no section has, what is alike is about the same
    course and section. -/
theorem kept_unless_alike :
    (∀ code sectionId code' sectionId', Key.of code sectionId = Key.of code' sectionId' ↔
      Key.Alike code sectionId code' sectionId') ∧
    (∀ rows, (Keyed.ofRows rows).rows.Perm (unreplaced rows)) ∧
    (∀ olds news old new,
      Change.update old new ∈ changes (Keyed.ofRows olds) (Keyed.ofRows news) → old.Alike new) ∧
    ∀ code sectionId code' sectionId', Key.Alike code sectionId code' sectionId' →
      (':' ∉ code.toList ∧ ':' ∉ code'.toList) ∨
        (':' ∉ sectionId.toList ∧ ':' ∉ sectionId'.toList) →
      code = code' ∧ sectionId = sectionId' :=
  ⟨Key.of_eq_iff_alike, Keyed.perm_unreplaced, fun _ _ _ _ => alike_of_update,
    fun _ _ _ _ => Key.Alike.same⟩

/-- Section C of course A:B and section B:C of course A make one key, so the first is dropped from
    a list in which the second follows, and between two lists the one becomes the other. -/
theorem moved_colon_shares_key :
    let r := Row.about "A:B" "C"
    let r' := Row.about "A" "B:C"
    Key.of "A:B" "C" = Key.of "A" "B:C" ∧ r.courseCode ≠ r'.courseCode ∧
      r.sectionId ≠ r'.sectionId ∧ (Keyed.ofRows [r, r']).rows = [r'] ∧
      changes (Keyed.ofRows [r]) (Keyed.ofRows [r']) = [.update r r'] := by
  decide

end CourseFeed
