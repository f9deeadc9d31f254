import CourseFeed.Proofs.MemoryPass

/-!
# A pass is a patch

What a pass hands to its sinks is enough to turn the old rows into the new ones, as far as the
columns before the operation go.

* **`Progress.handed`** — the rows that a run hands to sinks, in order, each with the kind of its
  change.
* **`Keyed.patched`** — rows by key after those of one list were taken out and those of two others
  were put in.
* **`Patches`** — what it means that three lists of rows are a patch from old rows to new ones, and
  **`patches_changes`**: the formatted changes are one.
* **`diffRows_patches`** — the rows handed to the three sinks of a whole pass are one.
-/

namespace CourseFeed

open CourseFeed.Feed CourseFeed.Text

/-! ## The rows handed to sinks -/

/-- The rows that a run hands to sinks, in order, each with the kind of its change. -/
def Progress.handed {ω : Type} (stage : Stage ω) (options : DiffOptions) :
    Progress ω → List Change → List (ChangeKind × Row)
  | _, [] => []
  | p, c :: rest =>
    match stage.observe p.world c with
    | (world, .proceed) =>
      match Progress.tell stage options { p with world := world } c with
      | (p, none) => (c.kind, c.format options) :: Progress.handed stage options p rest
      | (_, some _) => [(c.kind, c.format options)]
    | (world, .skip) =>
      Progress.handed stage options (Progress.skip stage { p with world := world } c) rest
    | (_, .abort) => []

/-- The rows of one kind among those handed to sinks. -/
def handedTo (kind : ChangeKind) (handed : List (ChangeKind × Row)) : List Row :=
  (handed.filter fun h => h.1 = kind).map Prod.snd

/-! ## Patches -/

/-- Rows by key after some were taken out and others put in. -/
def Keyed.patched (old : Keyed) (deleted updated created : List Row) : Keyed :=
  (old.removeAll (deleted.map Row.key)).insertAll (updated ++ created)

/-- Three lists of rows are a patch from old rows to new ones: taking out the first and putting in
    the others gives the keys of the new rows, and rows that agree with these in the columns before
    the operation, and in all of them where a key was not touched.  No key is touched twice, and
    each is touched for a reason. -/
structure Patches (old new : Keyed) (deleted updated created : List Row) : Prop where
  same_keys : ∀ key, (old.patched deleted updated created).contains key = new.contains key
  same_columns : ∀ key row, (old.patched deleted updated created).get? key = some row →
    ∃ row', new.get? key = some row' ∧
      ∀ column < Column.operation, row.get column = row'.get column
  untouched : ∀ key, key ∉ (deleted ++ updated ++ created).map Row.key →
    (old.patched deleted updated created).get? key = new.get? key
  once : ((deleted ++ updated ++ created).map Row.key).Nodup
  deleted_old : ∀ r ∈ deleted, old.contains r.key = true ∧ new.contains r.key = false
  updated_both : ∀ r ∈ updated, old.contains r.key = true ∧ new.contains r.key = true
  created_new : ∀ r ∈ created, old.contains r.key = false ∧ new.contains r.key = true

/-! ## The formatted changes are a patch -/

section

variable {old new : Keyed} {options : DiffOptions}

/-- The formatted changes of one kind. -/
def formatted (options : DiffOptions) (cs : List Change) (kind : ChangeKind) : List Row :=
  (cs.filter fun c => c.kind = kind).map (Change.format options)

theorem mem_formatted {cs : List Change} {kind : ChangeKind} {r : Row} :
    r ∈ formatted options cs kind ↔ ∃ c ∈ cs, c.kind = kind ∧ c.format options = r := by
  simp only [formatted, List.mem_map, List.mem_filter, decide_eq_true_eq]
  constructor
  · rintro ⟨c, ⟨hc, hkind⟩, hr⟩
    exact ⟨c, hc, hkind, hr⟩
  · rintro ⟨c, hc, hkind, hr⟩
    exact ⟨c, ⟨hc, hkind⟩, hr⟩

/-- Sorting changes by kind loses none. -/
theorem perm_byKind (cs : List Change) :
    ((cs.filter fun c => c.kind = .delete) ++ (cs.filter fun c => c.kind = .update) ++
      (cs.filter fun c => c.kind = .create)).Perm cs := by
  induction cs with
  | nil => exact List.Perm.nil
  | cons c rest ih =>
      cases c with
      | create new => exact List.perm_middle.trans (ih.cons _)
      | delete old => exact ih.cons _
      | update old new =>
          refine List.Perm.trans ?_ (ih.cons _)
          exact List.perm_middle.append_right _

/-- The formatted changes have the keys of the changes, sorted by kind. -/
theorem keys_formatted_perm (options : DiffOptions) (cs : List Change) :
    ((formatted options cs .delete ++ formatted options cs .update ++
      formatted options cs .create).map Row.key).Perm (cs.map Change.key) := by
  have hkey : ∀ l : List Change, (l.map (Change.format options)).map Row.key =
      l.map Change.key := by
    intro l
    rw [List.map_map]
    refine List.map_congr_left ?_
    intro c _
    exact c.key_format options
  simp only [formatted, List.map_append, hkey]
  rw [← List.map_append, ← List.map_append]
  exact (perm_byKind cs).map Change.key

/-- What stands under the key of a change when the formatted changes were applied: nothing if the
    change is a deletion, and else the formatted row. -/
theorem get?_patched_of_mem (hold : old.Proper) (hnew : new.Proper) {c : Change}
    (hc : c ∈ changes old new) :
    (old.patched (formatted options (changes old new) .delete)
      (formatted options (changes old new) .update)
      (formatted options (changes old new) .create)).get? c.key =
    if c.kind = .delete then none else some (c.format options) := by
  have hnodup := (keys_formatted_perm options (changes old new)).nodup_iff.mpr
    (nodup_keys_changes hold hnew)
  rw [List.append_assoc, List.map_append, List.nodup_append] at hnodup
  -- no key put in was taken out, and none is put in twice
  obtain ⟨-, hputIn, happart⟩ := hnodup
  rw [← c.key_format options]
  by_cases hkind : c.kind = .delete
  · have hmem : (c.format options).key ∈
        (formatted options (changes old new) .delete).map Row.key :=
      List.mem_map.mpr ⟨_, mem_formatted.mpr ⟨c, hc, hkind, rfl⟩, rfl⟩
    rw [if_pos hkind, Keyed.patched, Keyed.get?_insertAll_of_forall_ne, Keyed.get?_removeAll,
      if_pos hmem]
    intro r hr hkey
    exact happart _ hmem _ (List.mem_map.mpr ⟨r, hr, rfl⟩) hkey.symm
  · have hmem : c.format options ∈ formatted options (changes old new) .update ++
        formatted options (changes old new) .create := by
      rw [List.mem_append]
      cases hk : c.kind with
      | create => exact Or.inr (mem_formatted.mpr ⟨c, hc, hk, rfl⟩)
      | delete => exact absurd hk hkind
      | update => exact Or.inl (mem_formatted.mpr ⟨c, hc, hk, rfl⟩)
    rw [if_neg hkind, Keyed.patched, Keyed.get?_insertAll_of_mem _ hputIn hmem]

/-- Under a key that no change has, the formatted changes leave the row of the new rows. -/
theorem get?_patched_of_not_mem (hold : old.Proper) (hnew : new.Proper) {key : Key}
    (hkey : key ∉ (changes old new).map Change.key) :
    (old.patched (formatted options (changes old new) .delete)
      (formatted options (changes old new) .update)
      (formatted options (changes old new) .create)).get? key = new.get? key := by
  have hfree : key ∉ (formatted options (changes old new) .delete ++
      (formatted options (changes old new) .update ++
        formatted options (changes old new) .create)).map Row.key := by
    rw [← List.append_assoc, (keys_formatted_perm options (changes old new)).mem_iff]
    exact hkey
  rw [List.map_append, List.mem_append] at hfree
  have hsame : old.get? key = new.get? key := by
    by_cases h : old.get? key = new.get? key
    · exact h
    · obtain ⟨c, hc, hck⟩ := exists_change_of_get?_ne hold hnew h
      exact absurd (List.mem_map.mpr ⟨c, hc, hck⟩) hkey
  rw [Keyed.patched, Keyed.get?_insertAll_of_forall_ne, Keyed.get?_removeAll,
    if_neg (fun hc => hfree (Or.inl hc)), hsame]
  intro r hr hck
  exact hfree (Or.inr (List.mem_map.mpr ⟨r, hr, hck⟩))

/-- **The formatted changes are a patch from the old rows to the new ones.** -/
theorem patches_changes (hold : old.Proper) (hnew : new.Proper) (options : DiffOptions) :
    Patches old new (formatted options (changes old new) .delete)
      (formatted options (changes old new) .update)
      (formatted options (changes old new) .create) where
  same_keys := by
    intro key
    by_cases hkey : key ∈ (changes old new).map Change.key
    · obtain ⟨c, hc, rfl⟩ := List.mem_map.mp hkey
      have hb := (mem_changes_iff hold hnew c).mp hc
      show (Keyed.get? _ c.key).isSome = (new.get? c.key).isSome
      rw [get?_patched_of_mem hold hnew hc]
      cases c with
      | create r => rw [show new.get? (Change.create r).key = some r from hb.2]; rfl
      | delete r => rw [show new.get? (Change.delete r).key = none from hb.2]; rfl
      | update r r' => rw [show new.get? (Change.update r r').key = some r' from hb.2.1]; rfl
    · show (Keyed.get? _ key).isSome = (new.get? key).isSome
      rw [get?_patched_of_not_mem hold hnew hkey]
  same_columns := by
    intro key row hrow
    by_cases hkey : key ∈ (changes old new).map Change.key
    · obtain ⟨c, hc, rfl⟩ := List.mem_map.mp hkey
      have hb := (mem_changes_iff hold hnew c).mp hc
      rw [get?_patched_of_mem hold hnew hc] at hrow
      cases c with
      | delete r => exact nomatch hrow
      | create r =>
          refine ⟨r, hb.2, ?_⟩
          intro column hcolumn
          rw [← Option.some.inj hrow]
          exact Change.get_format_of_lt options (.create r) hcolumn
      | update r r' =>
          refine ⟨r', hb.2.1, ?_⟩
          intro column hcolumn
          rw [← Option.some.inj hrow]
          exact Change.get_format_of_lt options (.update r r') hcolumn
    · rw [get?_patched_of_not_mem hold hnew hkey] at hrow
      exact ⟨row, hrow, fun _ _ => rfl⟩
  untouched := by
    intro key hkey
    rw [(keys_formatted_perm options (changes old new)).mem_iff] at hkey
    exact get?_patched_of_not_mem hold hnew hkey
  once :=
    (keys_formatted_perm options (changes old new)).nodup_iff.mpr (nodup_keys_changes hold hnew)
  deleted_old := by
    intro r hr
    obtain ⟨c, hc, hkind, rfl⟩ := mem_formatted.mp hr
    have hb := (mem_changes_iff hold hnew c).mp hc
    rw [c.key_format]
    cases c with
    | delete r =>
        exact ⟨(old.contains_eq_true_iff).mpr ⟨r, hb.1⟩, (new.contains_eq_false_iff).mpr hb.2⟩
    | create r => exact nomatch hkind
    | update r r' => exact nomatch hkind
  updated_both := by
    intro r hr
    obtain ⟨c, hc, hkind, rfl⟩ := mem_formatted.mp hr
    have hb := (mem_changes_iff hold hnew c).mp hc
    rw [c.key_format]
    cases c with
    | update r r' =>
        exact ⟨(old.contains_eq_true_iff).mpr ⟨r, hb.1⟩,
          (new.contains_eq_true_iff).mpr ⟨r', hb.2.1⟩⟩
    | create r => exact nomatch hkind
    | delete r => exact nomatch hkind
  created_new := by
    intro r hr
    obtain ⟨c, hc, hkind, rfl⟩ := mem_formatted.mp hr
    have hb := (mem_changes_iff hold hnew c).mp hc
    rw [c.key_format]
    cases c with
    | create r =>
        exact ⟨(old.contains_eq_false_iff).mpr hb.1, (new.contains_eq_true_iff).mpr ⟨r, hb.2⟩⟩
    | delete r => exact nomatch hkind
    | update r r' => exact nomatch hkind

end

/-! ## Whole passes -/

section

variable {σ : Type} {options : DiffOptions} {observer : Observer σ}

/-- The sinks of an observer that lets every change be told get the lines of the formatted
    changes. -/
theorem linesTo_of_proceed (hob : ∀ s c, (observer s c options).2 = .proceed) (s : σ)
    (cs : List Change) (kind : ChangeKind) :
    linesTo kind (consult observer options s cs).2 =
      (formatted options cs kind).flatMap rowBytes := by
  rw [consult_of_answers hob fun _ => by decide]
  induction cs with
  | nil => rfl
  | cons c rest ih =>
      rw [List.map_cons, linesTo_cons, ih]
      by_cases hkind : c.kind = kind
      · simp [formatted, Consultation.tells, Consultation.row, hkind]
      · simp [formatted, Consultation.tells, hkind]

/-- The rows handed on are those of all changes, in order. -/
theorem handed_of_proceed (hob : ∀ s c, (observer s c options).2 = .proceed)
    (p : Progress (σ × Shelf)) (cs : List Change) (h : p.world.2.refused = []) :
    Progress.handed (memoryStage options observer) options p cs =
      cs.map fun c => (c.kind, c.format options) := by
  induction cs generalizing p with
  | nil => rfl
  | cons c rest ih =>
      obtain ⟨⟨s, shelf⟩, outputs, summary⟩ := p
      have hobserve : (memoryStage options observer).observe (s, shelf) c =
          (((observer s c options).1, shelf), .proceed) := by
        simp only [memoryStage, hob]
      obtain ⟨p', htell, -, hrefused, -⟩ := tell_memory options observer
        ⟨((observer s c options).1, shelf), outputs, summary⟩ c h
      simp only [Progress.handed, hobserve, htell, ih p' hrefused, List.map_cons]

theorem handedTo_map (cs : List Change) (kind : ChangeKind) :
    handedTo kind (cs.map fun c => (c.kind, c.format options)) = formatted options cs kind := by
  rw [handedTo, List.filter_map, List.map_map]
  rfl

end

/-- **The rows handed to the sinks of a pass are a patch.**  Whatever rows two feeds hold, in
    whatever order and however often: when nothing is skipped and all sinks are there, each sink
    holds the lines of the rows handed to it, and taking out the deleted rows and putting in the
    updated and created ones turns the old rows into the new ones. -/
theorem diffRows_patches {σ : Type} {olds news : List Row} (hold : ∀ r ∈ olds, r.Full)
    (hnew : ∀ r ∈ news, r.Full) (options : DiffOptions) {observer : Observer σ}
    (hob : ∀ s c, (observer s c options).2 = .proceed) (s : σ) (create delete update : String) :
    let old := Keyed.ofRows olds
    let new := Keyed.ofRows news
    let stage := memoryStage options observer
    let start : Progress (σ × Shelf) :=
      ⟨(s, .empty []), .opened ⟨some create, some delete, some update⟩, .zero⟩
    let handed := Progress.handed stage options start (changes old new)
    ∃ p world,
      diffRows stage options old new start.world start.outputs = (p, none) ∧
      p.outputs.finish stage p.world = (world, none) ∧
      (∀ kind, world.2.get kind =
        (handedTo kind handed).flatMap fun r => encodeUtf8 (r.encode ++ "\n")) ∧
      Patches old new (handedTo .delete handed) (handedTo .update handed)
        (handedTo .create handed) := by
  intro old new stage start handed
  have hhanded : ∀ kind, handedTo kind handed = formatted options (changes old new) kind := by
    intro kind
    rw [show handed = _ from handed_of_proceed hob start (changes old new) rfl, handedTo_map]
  obtain ⟨p, world, hrun, hfinish, -, -, hget⟩ :=
    pass_memory observer options old new s ⟨some create, some delete, some update⟩
  refine ⟨p, world, hrun, hfinish, ?_, ?_⟩
  · intro kind
    have hsome : ((⟨some create, some delete, some update⟩ : DiffSinks).get kind).isSome := by
      cases kind <;> rfl
    rw [hget, if_pos hsome, linesTo_of_proceed hob, hhanded, List.flatMap_def, List.flatMap_def]
    refine congrArg List.flatten (List.map_congr_left ?_)
    intro r hr
    obtain ⟨c, hc, -, rfl⟩ := mem_formatted.mp hr
    exact rowBytes_of_full (full_format_of_mem_changes (Keyed.full_ofRows hold)
      (Keyed.full_ofRows hnew) options hc)
  · rw [hhanded, hhanded, hhanded]
    exact patches_changes (Keyed.proper_ofRows olds) (Keyed.proper_ofRows news) options

/-- A section that is dropped, one that stands twice and one that is new, told with rollover. -/
theorem diffRows_patches_drop_repeat_add :
    let olds := [Row.about "A" "1", Row.about "B" "1", Row.about "B" "1"]
    let news := [Row.about "C" "2", Row.about "B" "1"]
    (∀ r ∈ olds, r.Full) ∧ (∀ r ∈ news, r.Full) ∧
      (∀ s c, ((Observer.always : Observer Unit) s c ⟨true⟩).2 = .proceed) ∧
      let stage := memoryStage ⟨true⟩ (Observer.always : Observer Unit)
      let start : Progress (Unit × Shelf) :=
        ⟨((), .empty []), .opened ⟨some "create", some "delete", some "update"⟩, .zero⟩
      let handed := Progress.handed stage ⟨true⟩ start
        (changes (Keyed.ofRows olds) (Keyed.ofRows news))
      Patches (Keyed.ofRows olds) (Keyed.ofRows news) (handedTo .delete handed)
        (handedTo .update handed) (handedTo .create handed) := by
  intro olds news
  have hold : ∀ r ∈ olds, r.Full := by decide
  have hnew : ∀ r ∈ news, r.Full := by decide
  have hob : ∀ s c, ((Observer.always : Observer Unit) s c ⟨true⟩).2 = .proceed :=
    fun _ _ => rfl
  refine ⟨hold, hnew, hob, ?_⟩
  obtain ⟨-, -, -, -, -, hpatches⟩ :=
    diffRows_patches hold hnew ⟨true⟩ hob () "create" "delete" "update"
  exact hpatches

end CourseFeed
