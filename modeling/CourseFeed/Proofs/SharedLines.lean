import CourseFeed.Proofs.LineByLine
import CourseFeed.Proofs.SharedSinks
import Mathlib.Data.List.Flatten
import Mathlib.Data.List.Nodup
import Mathlib.Data.List.Perm.Subperm

/-!
# Lines in sinks that share a file

Changes of two kinds that are told to one file are written over each other, so some of their lines
are lost; changes of one kind are all there, whatever else leads to the file.

* **`flatMap_splitOn`** and **`splitOn_lines`** — a content is its lines, each ended by a line feed
  but for the last one, and so different lines of a content are together no longer than it
  (**`length_le_of_lines`**).
* **`Legible`** — calls whose rows are told by different lines without line feeds, as those of a
  pass on rows that were read are (**`legible_consult`**).
* **`Woven.lines_stand`** — in a file that is woven of the lines of calls, all of them stand if the
  changes are of one kind; and **`Woven.one_kind`**: only then, since the file is no longer than the
  lines of one kind.
* **`lines_in_sinks`** — so just then all changes that a pass counts for the sinks of a file are in
  that file.
-/

namespace CourseFeed

open CourseFeed.Feed CourseFeed.Text

/-! ## Lines of a content -/

/-- Some bytes stand in a content as a line of their own. -/
def IsLine (content line : List UInt8) : Prop := line ∈ content.splitOn 0x0A

instance (content line : List UInt8) : Decidable (IsLine content line) :=
  inferInstanceAs (Decidable (_ ∈ _))

/-- The lines of a content, each ended by a line feed, are the content and a line feed. -/
theorem flatMap_splitOn (content : List UInt8) :
    (content.splitOn 0x0A).flatMap (· ++ [0x0A]) = content ++ [0x0A] := by
  induction content with
  | nil => rfl
  | cons byte rest ih =>
      rw [List.splitOn_cons_eq_if_modifyHead]
      by_cases hbyte : byte = 0x0A
      · rw [if_pos (beq_iff_eq.mpr hbyte), List.flatMap_cons, ih, hbyte]
        rfl
      · rw [if_neg (by simpa using hbyte)]
        cases hsplit : rest.splitOn 0x0A with
        | nil => exact absurd hsplit (List.splitOn_ne_nil _ rest)
        | cons first others =>
            rw [hsplit] at ih
            rw [List.modifyHead_cons, List.flatMap_cons, List.cons_append, List.cons_append,
              ← List.flatMap_cons (f := (· ++ [0x0A])), ih]
            rfl

/-- Lines that are ended by line feeds are the first lines. -/
theorem splitOn_lines {lines : List (List UInt8)} (h : ∀ line ∈ lines, 0x0A ∉ line)
    (rest : List UInt8) :
    (lines.flatMap (· ++ [0x0A]) ++ rest).splitOn 0x0A = lines ++ rest.splitOn 0x0A := by
  induction lines with
  | nil => rfl
  | cons line others ih =>
      have hline : ∀ byte ∈ line, (byte == 0x0A) = false := by
        intro byte hbyte
        refine beq_eq_false_iff_ne.mpr ?_
        rintro rfl
        exact h line List.mem_cons_self hbyte
      rw [List.flatMap_cons, List.append_assoc, List.append_assoc, List.singleton_append,
        List.splitOn, List.splitOnP_append_cons_of_forall_mem hline _ (beq_self_eq_true _)]
      exact congrArg (line :: ·) (ih fun line hmem => h line (List.mem_cons_of_mem _ hmem))

/-- **Different lines of a content are together no longer than it.** -/
theorem length_le_of_lines {lines : List (List UInt8)} {content : List UInt8}
    (hnodup : lines.Nodup) (h : ∀ line ∈ lines, IsLine content line) :
    (lines.flatMap (· ++ [0x0A])).length ≤ content.length + 1 := by
  obtain ⟨chosen, hperm, hsub⟩ := List.subperm_of_subset hnodup h
  calc (lines.flatMap (· ++ [0x0A])).length
      = (chosen.flatMap (· ++ [0x0A])).length := (hperm.flatMap_right _).length_eq.symm
    _ ≤ ((content.splitOn 0x0A).flatMap (· ++ [0x0A])).length := (hsub.flatMap _).length_le
    _ = content.length + 1 := by rw [flatMap_splitOn, List.length_append]; rfl

/-! ## Bytes of lines -/

/-- Only a line feed has the byte of a line feed. -/
theorem lineFeed_not_mem_utf8EncodeChar {c : Char} (h : c ≠ '\n') :
    0x0A ∉ String.utf8EncodeChar c := by
  have hcode : c.val.toNat ≠ 10 := by
    intro hten
    exact h (Char.ext (UInt32.toNat_inj.mp hten))
  have hbyte : ∀ {n : Nat}, (0x0A : UInt8) = UInt8.ofNat n ↔ n % 256 = 10 := by
    intro n
    rw [← UInt8.toNat_inj, UInt8.toNat_ofNat']
    exact eq_comm
  intro hmem
  -- a character of one byte is its code, and the bytes of a longer one are above those
  rw [String.utf8EncodeChar] at hmem
  split_ifs at hmem
  all_goals
    simp only [List.mem_cons, List.not_mem_nil, or_false, hbyte] at hmem
    omega

theorem lineFeed_not_mem_encodeUtf8 {text : String} (h : '\n' ∉ text.toList) :
    0x0A ∉ encodeUtf8 text := by
  have hbytes : encodeUtf8 text = text.toList.flatMap String.utf8EncodeChar := by
    rw [encodeUtf8, String.toUTF8_eq_toByteArray]
    conv => lhs; rw [← String.ofList_toList (s := text)]
    rw [String.toByteArray_ofList]
    exact List.toList_data_toByteArray
  rw [hbytes]
  intro hmem
  obtain ⟨c, hc, hbyte⟩ := List.mem_flatMap.mp hmem
  refine lineFeed_not_mem_utf8EncodeChar ?_ hbyte
  rintro rfl
  exact h hc

/-! ## Lines of calls -/

namespace Consultation

/-- The line by which the change of a call is told, without the line feed behind it. -/
def line (call : Consultation) : List UInt8 := encodeUtf8 call.row.encode

/-- A call lets a change be told that is of some kinds. -/
def Goes (leads : ChangeKind → Prop) (call : Consultation) : Prop :=
  call.answer = .proceed ∧ leads call.change.kind

theorem Goes.tells {leads : ChangeKind → Prop} {call : Consultation} (h : call.Goes leads) :
    call.tells call.change.kind = true :=
  (tells_iff h.1 _).mpr rfl

theorem goes_of_tells {leads : ChangeKind → Prop} {kind : ChangeKind} {call : Consultation}
    (h : call.tells kind = true) (hkind : leads kind) : call.Goes leads := by
  obtain ⟨hanswer, rfl⟩ := of_decide_eq_true h
  exact ⟨hanswer, hkind⟩

end Consultation

/-- All changes of some kinds that calls let be told are of the same kind. -/
def OfOneKind (leads : ChangeKind → Prop) (calls : List Consultation) : Prop :=
  ∀ call ∈ calls, ∀ call' ∈ calls, call.Goes leads → call'.Goes leads →
    call.change.kind = call'.change.kind

/-- The lines of all changes of some kinds that calls let be told stand in a content. -/
def AllStand (leads : ChangeKind → Prop) (calls : List Consultation) (content : List UInt8) :
    Prop :=
  ∀ call ∈ calls, call.Goes leads → IsLine content call.line

/-- The rows of calls can be read off their lines, and are about different courses and sections. -/
structure Legible (calls : List Consultation) : Prop where
  full : ∀ call ∈ calls, call.row.Full
  plain : ∀ call ∈ calls, call.row.Plain
  nodup_keys : (calls.map fun call => call.change.key).Nodup

namespace Legible

variable {calls : List Consultation}

/-- No line is empty. -/
theorem line_ne_nil (h : Legible calls) {call : Consultation} (hcall : call ∈ calls) :
    call.line ≠ [] := by
  intro hnil
  have hempty : encodeUtf8 call.row.encode = encodeUtf8 "" := hnil
  have hdecode := decodeUtf8?_encodeUtf8 call.row.encode
  rw [hempty, decodeUtf8?_encodeUtf8] at hdecode
  exact (h.full call hcall).encode_ne_empty (Option.some.inj hdecode).symm

/-- No line feed stands in a line. -/
theorem lineFeed_not_mem (h : Legible calls) {call : Consultation} (hcall : call ∈ calls) :
    0x0A ∉ call.line := by
  refine lineFeed_not_mem_encodeUtf8 ?_
  intro hmem
  exact nomatch clean_encode (h.plain call hcall) _ hmem

/-- **Different calls have different lines.** -/
theorem nodup_lines (h : Legible calls) : (calls.map Consultation.line).Nodup := by
  have hkeys := h.nodup_keys
  rw [List.Nodup, List.pairwise_map] at hkeys ⊢
  refine hkeys.imp_of_mem ?_
  intro call call' hcall hcall' hne hline
  have hdecode := decodeUtf8?_encodeUtf8 call.row.encode
  rw [show encodeUtf8 call.row.encode = encodeUtf8 call'.row.encode from hline,
    decodeUtf8?_encodeUtf8] at hdecode
  have hrow := decode_encode (h.full call hcall) (h.plain call hcall)
  rw [← Option.some.inj hdecode, decode_encode (h.full call' hcall') (h.plain call' hcall')] at hrow
  refine hne ?_
  rw [← Change.key_format call.options, ← Change.key_format call'.options]
  exact congrArg Row.key (Except.ok.inj hrow).symm

/-- What is delivered for a kind are the lines of its calls, each ended by a line feed. -/
theorem linesTo_eq (h : Legible calls) (kind : ChangeKind) :
    linesTo kind calls =
      ((calls.filter (Consultation.tells kind)).map Consultation.line).flatMap (· ++ [0x0A]) := by
  rw [linesTo_of_full kind h.full, List.flatMap_map]
  refine congrArg (List.flatMap · _) (funext ?_)
  intro call
  exact encodeUtf8_append _ _

/-- The line of a call stands where what is delivered for its kind is in front. -/
theorem isLine_linesTo (h : Legible calls) {kind : ChangeKind} {call : Consultation}
    (hcall : call ∈ calls) (htells : call.tells kind = true) (rest : List UInt8) :
    IsLine (linesTo kind calls ++ rest) call.line := by
  have hclean : ∀ line ∈ (calls.filter (Consultation.tells kind)).map Consultation.line,
      0x0A ∉ line := by
    intro line hline
    obtain ⟨call', hcall', rfl⟩ := List.mem_map.mp hline
    exact h.lineFeed_not_mem (List.mem_filter.mp hcall').1
  rw [IsLine, h.linesTo_eq, splitOn_lines hclean]
  refine List.mem_append_left _ (List.mem_map.mpr ⟨call, ?_, rfl⟩)
  exact List.mem_filter.mpr ⟨hcall, htells⟩

/-- The line of a call of another kind is none of those that are delivered for a kind. -/
theorem nodup_cons_lines (h : Legible calls) {kind : ChangeKind} {call : Consultation}
    (hcall : call ∈ calls) (hother : call.change.kind ≠ kind) :
    (call.line :: (calls.filter (Consultation.tells kind)).map Consultation.line).Nodup := by
  refine List.nodup_cons.mpr ⟨?_, (List.filter_sublist.map _).nodup h.nodup_lines⟩
  intro hmem
  obtain ⟨found, hfound, hline⟩ := List.mem_map.mp hmem
  obtain ⟨hfound, htells⟩ := List.mem_filter.mp hfound
  obtain rfl := List.inj_on_of_nodup_map h.nodup_lines hfound hcall hline
  exact hother (of_decide_eq_true htells).2

end Legible

/-! ## Lines in woven files -/

section

variable {leads : ChangeKind → Prop} {logged : Prop} {calls : List Consultation}
  {content : List UInt8}

/-- **Where all changes that go to a file are of one kind**, their lines stand in it. -/
theorem Woven.lines_stand (h : Woven leads logged (linesTo · calls) content)
    (hcalls : Legible calls) (hone : OfOneKind leads calls) : AllStand leads calls content := by
  intro call hcall hgoes
  have hothers : ∀ kind, leads kind → kind ≠ call.change.kind → linesTo kind calls = [] := by
    intro kind hkind hne
    rw [linesTo, List.filter_eq_nil_iff.mpr, List.flatMap_nil]
    intro call' hcall' htells
    have hgoes' := Consultation.goes_of_tells htells hkind
    have hkind' := (Consultation.tells_iff hgoes'.1 kind).mp htells
    exact hne (hkind'.trans (hone call' hcall' call hcall hgoes' hgoes))
  have hfront : content.take (linesTo call.change.kind calls).length =
      linesTo call.change.kind calls := h.take_eq hgoes.2 hothers
  rw [← List.take_append_drop (linesTo call.change.kind calls).length content, hfront]
  exact hcalls.isLine_linesTo hcall hgoes.tells _

/-- **Where the lines of all changes stand that go to a file**, these are of one kind: the file is
    no longer than the lines of some kind, so there is no room for a line more. -/
theorem Woven.one_kind (h : Woven leads logged (linesTo · calls) content) (hlogged : ¬ logged)
    (hcalls : Legible calls) (hall : AllStand leads calls content) : OfOneKind leads calls := by
  intro call hcall call' hcall' hgoes hgoes'
  by_contra hne
  have hpos : 0 < content.length := by
    refine List.length_pos_iff.mpr ?_
    rintro rfl
    have hline := hall call hcall hgoes
    rw [IsLine, List.splitOn_nil, List.mem_singleton] at hline
    exact hcalls.line_ne_nil hcall hline
  obtain ⟨kind, hkind, hlongest⟩ := h.exists_longest hlogged hpos
  obtain ⟨more, hmore, hgo, hother⟩ :
      ∃ more ∈ calls, more.Goes leads ∧ more.change.kind ≠ kind := by
    by_cases hsame : call.change.kind = kind
    · exact ⟨call', hcall', hgoes', fun hsame' => hne (hsame.trans hsame'.symm)⟩
    · exact ⟨call, hcall, hgoes, hsame⟩
  -- the lines of this kind and one line more are different lines of the file
  have hlines : ∀ line ∈ more.line :: (calls.filter (Consultation.tells kind)).map
      Consultation.line, IsLine content line := by
    intro line hline
    rcases List.mem_cons.mp hline with rfl | hmem
    · exact hall more hmore hgo
    · obtain ⟨found, hfound, rfl⟩ := List.mem_map.mp hmem
      obtain ⟨hfound, htells⟩ := List.mem_filter.mp hfound
      exact hall found hfound (Consultation.goes_of_tells htells hkind)
  have hlength := length_le_of_lines (hcalls.nodup_cons_lines hmore hother) hlines
  rw [List.flatMap_cons, ← hcalls.linesTo_eq kind] at hlength
  have hempty := List.length_pos_iff.mpr (hcalls.line_ne_nil hmore)
  simp only [List.length_append, List.length_singleton] at hlength
  omega

end

/-! ## Passes on files -/

section

variable {σ : Type} {s s' : Session} {old new : String} {sinks : DiffSinks} {options : DiffOptions}
  {announce : Change → List JournalEntry} {observer : Observer σ} {state : σ}
  {summary : DiffSummary}

/-- What is loaded are the rows that are read, by their keys. -/
theorem of_loadKeyed {path : String} {keyed : Keyed} (h : loadKeyed s path = (s', .ok keyed)) :
    ∃ rows, readRows s.storage path = .ok rows ∧ keyed = Keyed.ofRows rows := by
  rcases loadKeyed_cases s path with ⟨fault, hfault⟩ | ⟨rows, entry, hread, hload⟩
  · exact nomatch (Prod.mk.inj (h.symm.trans hfault)).2
  · obtain ⟨-, hok⟩ := Prod.mk.inj (h.symm.trans hload)
    exact ⟨rows, hread, Except.ok.inj hok⟩

/-- **The calls of a pass on feeds that were loaded** tell different lines. -/
theorem legible_consult {s₁ s₂ : Session} {olds news : Keyed}
    (hold : loadKeyed s old = (s₁, .ok olds)) (hnew : loadKeyed s₁ new = (s₂, .ok news))
    (observer : Observer σ) (options : DiffOptions) (state : σ) :
    Legible (consult observer options state (changes olds news)).2 := by
  obtain ⟨rows, hread, rfl⟩ := of_loadKeyed hold
  obtain ⟨rows', hread', rfl⟩ := of_loadKeyed hnew
  have hplain := full_plain_of_readRows_append hread hread'
  refine ⟨?_, ?_, ?_⟩
  · intro call hcall
    exact call.change.full_format _ (hplain _ (told_mem_of_mem_consult hcall)).1
  · intro call hcall
    exact Change.plain_format (hplain _ (told_mem_of_mem_consult hcall)).2 _
  · have hkeys := nodup_keys_changes (Keyed.proper_ofRows rows) (Keyed.proper_ofRows rows')
    have hcons := consulted_consult observer options state
      (changes (Keyed.ofRows rows) (Keyed.ofRows rows'))
    have hasked := (hcons.sublist.map Change.key).nodup hkeys
    rw [List.map_map] at hasked
    exact hasked

/-- **What a pass leaves in the files of its sinks**, whichever of them share a file, also with the
    journal.  A pass has succeeded, and its summary counts what the observer let be told.  Then the
    path of each sink leads to a file that is woven of the lines of the sinks that lead there.  If
    the changes that went there are all of one kind, each of them stands there as a line; and only
    then, unless the journal is kept there. -/
theorem lines_in_sinks (hstored : s.JournalStored)
    (hrun : diffFiles s old new sinks options announce observer state = (s', .ok summary)) :
    ∃ s₁ olds s₂ news, loadKeyed s old = (s₁, .ok olds) ∧ loadKeyed s₁ new = (s₂, .ok news) ∧
      let calls := (consult observer options state (changes olds news)).2
      Consulted options (changes olds news) calls ∧ summary.Accounts calls ∧
      ∀ kind path, sinks.get kind = some path →
        ∃ location content, s.storage.place? path = some location ∧
          s'.storage.openEntry path = .ok (.file content) ∧
          let shares := fun other => sinks.place? s.storage other = some location
          Woven shares (s.IsJournal location) (linesTo · calls) content ∧
          (OfOneKind shares calls → AllStand shares calls content) ∧
          (AllStand shares calls content → OfOneKind shares calls ∨ s.IsJournal location) := by
  obtain ⟨s₁, olds, s₂, news, hold, hnew, hsummary, handles, hwoven⟩ := diffFiles_woven hstored hrun
  refine ⟨s₁, olds, s₂, news, hold, hnew, ?_⟩
  intro calls
  have hcalls : Legible calls := legible_consult hold hnew observer options state
  refine ⟨consulted_consult observer options state _, ?_, ?_⟩
  · rw [hsummary]
    exact DiffSummary.accounts_zero.foldl_tally calls
  · intro kind path hpath
    obtain ⟨handle, -, hlocate, -, content, hentry, hfile⟩ :=
      hwoven.opened kind kind.mem_all path hpath
    refine ⟨handle.location, content, Storage.place?_of_locate hlocate, ?_, hfile,
      hfile.lines_stand hcalls, ?_⟩
    · refine bind_eq_ok_iff.mpr ⟨_, hwoven.changed.keeps.locate_eq hlocate, ?_⟩
      simp only [hentry]
      rfl
    · intro hall
      by_cases hjournal : s.IsJournal handle.location
      · exact Or.inr hjournal
      · exact Or.inl (hfile.one_kind hjournal hcalls hall)

end

/-- A section is gone, one is new and one is changed.  The line of the change stands in the file of
    its own, and of the other two lines, which share a file, at least one does not stand there. -/
theorem lines_in_sinks_two_shared :
    let s : Session := ⟨⟨[], [(["old.tsv"], .file (encodeUtf8 "A\nB\n")),
      (["new.tsv"], .file (encodeUtf8 "B\tx\nC\n"))]⟩, none⟩
    let sinks : DiffSinks := ⟨some "out.tsv", some "./out.tsv", some "changed.tsv"⟩
    ∃ s' calls shared changed, s.JournalStored ∧
      diffFiles s "old.tsv" "new.tsv" sinks ⟨false⟩ (fun _ => []) Observer.always () =
        (s', .ok ⟨1, 0, 1, 1, 0, false⟩) ∧
      DiffSummary.Accounts ⟨1, 0, 1, 1, 0, false⟩ calls ∧
      s'.storage.openEntry "out.tsv" = .ok (.file shared) ∧
      s'.storage.openEntry "changed.tsv" = .ok (.file changed) ∧
      (∀ call ∈ calls, call.Goes (· = .update) → IsLine changed call.line) ∧
      ¬ ∀ call ∈ calls, call.Goes (· ≠ .update) → IsLine shared call.line := by
  intro s sinks
  have hstored : s.JournalStored := by
    intro journal hmine
    exact nomatch hmine
  obtain ⟨s', result, hresult⟩ : ∃ s' result,
      diffFiles s "old.tsv" "new.tsv" sinks ⟨false⟩ (fun _ => []) Observer.always () =
        (s', result) := ⟨_, _, rfl⟩
  have hsummary : result.toOption = some ⟨1, 0, 1, 1, 0, false⟩ := by
    rw [show result = _ from (congrArg Prod.snd hresult).symm]
    decide +kernel
  cases result with
  | error fault => exact nomatch hsummary
  | ok summary =>
      obtain rfl := Option.some.inj hsummary
      obtain ⟨-, olds, -, news, -, -, -, haccounts, hfiles⟩ := lines_in_sinks hstored hresult
      obtain ⟨place, shared, hplace, hshared, -, -, hone⟩ := hfiles .create "out.tsv" rfl
      obtain ⟨place', changed, hplace', hchanged, -, hstand, -⟩ := hfiles .update "changed.tsv" rfl
      obtain rfl : ["out.tsv"] = place := Option.some.inj (Eq.trans (by decide +kernel) hplace)
      obtain rfl : ["changed.tsv"] = place' :=
        Option.some.inj (Eq.trans (by decide +kernel) hplace')
      have hleads : ∀ kind, (sinks.place? s.storage kind = some ["out.tsv"] ↔ kind ≠ .update) ∧
          (sinks.place? s.storage kind = some ["changed.tsv"] ↔ kind = .update) := by
        intro kind
        cases kind <;> decide +kernel
      refine ⟨s', _, shared, changed, hstored, hresult, haccounts, hshared, hchanged, ?_, ?_⟩
      · intro call hcall hgoes
        refine hstand ?_ call hcall ⟨hgoes.1, (hleads _).2.mpr hgoes.2⟩
        intro call _ call' _ hgoes hgoes'
        exact ((hleads _).2.mp hgoes.2).trans ((hleads _).2.mp hgoes'.2).symm
      · intro hall
        have hkinds := (hone fun call hcall hgoes =>
          hall call hcall ⟨hgoes.1, (hleads _).1.mp hgoes.2⟩).resolve_right
            fun ⟨journal, hmine, _⟩ => nomatch hmine
        -- both kinds were told, as the summary says
        obtain ⟨created, hcreated, hcreate⟩ := List.countP_pos_iff.mp
          (Nat.lt_of_lt_of_eq Nat.one_pos (haccounts.told .create))
        obtain ⟨deleted, hdeleted, hdelete⟩ := List.countP_pos_iff.mp
          (Nat.lt_of_lt_of_eq Nat.one_pos (haccounts.told .delete))
        have hsame := hkinds created hcreated deleted hdeleted
          (Consultation.goes_of_tells hcreate ((hleads _).1.mpr (by decide)))
          (Consultation.goes_of_tells hdelete ((hleads _).1.mpr (by decide)))
        rw [(of_decide_eq_true hcreate).2, (of_decide_eq_true hdelete).2] at hsame
        exact nomatch hsame

/-- One section takes the place of another, and both changes go to one file: the line of the section
    that is gone stands there in place of the new one. -/
theorem shared_sink_overwritten :
    let s : Session := ⟨⟨[], [(["old.tsv"], .file (encodeUtf8 "A\n")),
      (["new.tsv"], .file (encodeUtf8 "B\n"))]⟩, none⟩
    let sinks : DiffSinks := ⟨some "out.tsv", some "out.tsv", none⟩
    let result := diffFiles s "old.tsv" "new.tsv" sinks ⟨false⟩ (fun _ => []) Observer.always ()
    let old := Row.about "A" ""
    let new := Row.about "B" ""
    (loadKeyed s "old.tsv").2.toOption = some (Keyed.ofRows [old]) ∧
      (loadKeyed s "new.tsv").2.toOption = some (Keyed.ofRows [new]) ∧
      changes (Keyed.ofRows [old]) (Keyed.ofRows [new]) = [.delete old, .create new] ∧
      result.2.toOption = some ⟨1, 0, 0, 1, 0, false⟩ ∧
      ∃ content, (result.1.storage.openEntry "out.tsv").toOption = some (.file content) ∧
        IsLine content (encodeUtf8 ((Change.delete old).format ⟨false⟩).encode) ∧
        ¬ IsLine content (encodeUtf8 ((Change.create new).format ⟨false⟩).encode) := by
  refine ⟨by decide +kernel, by decide +kernel, by decide +kernel, by decide +kernel,
    rowBytes ((Row.about "A" "").mark .delete), by decide +kernel, by decide +kernel,
    by decide +kernel⟩

end CourseFeed
