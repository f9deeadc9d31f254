import CourseFeed.Command.Run
import CourseFeed.Proofs.GivenOptions
import Mathlib.Data.List.Induction

/-!
# Layered settings

Settings are put together from layers. A layer adds its filters and replaces the other settings that
it sets, so that layers can be put together in any grouping and one that sets nothing may be left
out. An export leaves out the lowest layer when no stored settings are asked for, which is the same
as to have stored settings without members there.

* **`Settings.merge_assoc`**, **`Settings.empty_merge`**, **`Settings.merge_empty`** — the laws of
  layers; **`Settings.Replaced.foldl_merge`** and **`Settings.filters_foldl_merge`** — what comes of
  any number of them.
* **`Request.run_of_load`** — stored settings that set nothing make no difference to an export.
* **`request_of_alike`** — nor do they to what is asked for, if the arguments are read alike, which
  is **`alike_read_config`**.
* **`layered_settings`** — all of it.
-/

namespace CourseFeed

namespace Settings

/-! ## Layers -/

/-- **It does not matter which of three layers are put together first.** -/
theorem merge_assoc (a b c : Settings) : (a.merge b).merge c = a.merge (b.merge c) := by
  simp only [merge, Option.or_assoc, List.append_assoc]

theorem empty_merge (s : Settings) : merge {} s = s := by
  simp only [merge, Option.or_none, List.nil_append]

theorem merge_empty (s : Settings) : s.merge {} = s := by
  simp only [merge, Option.none_or, List.append_nil]

/-- A setting that a layer replaces if it sets it. -/
def Replaced {α : Type} (get : Settings → Option α) : Prop :=
  ∀ lower upper : Settings, get (lower.merge upper) = (get upper).or (get lower)

/-- **A setting is that of the last layer that sets it**, by induction from the last layer. -/
theorem Replaced.foldl_merge {α : Type} {get : Settings → Option α} (h : Replaced get)
    (base : Settings) (layers : List Settings) :
    get (layers.foldl merge base) = ((base :: layers).filterMap get).getLast? := by
  have hone : ∀ s : Settings, ([s].filterMap get).getLast? = get s := by
    intro s
    cases hs : get s with
    | none => exact congrArg List.getLast? (List.filterMap_cons_none hs)
    | some v => exact congrArg List.getLast? (List.filterMap_cons_some hs)
  induction layers using List.reverseRecOn with
  | nil => exact (hone base).symm
  | append_singleton layers last ih =>
      rw [← List.cons_append, List.filterMap_append, List.getLast?_append, hone, ← ih,
        List.foldl_append]
      exact h _ last

/-- The filters of all layers stand one behind the other. -/
theorem filters_foldl_merge (base : Settings) (layers : List Settings) :
    (layers.foldl merge base).filters = (base :: layers).flatMap filters := by
  induction layers generalizing base with
  | nil => exact (List.append_nil _).symm
  | cons layer layers ih =>
      rw [List.foldl_cons, ih]
      exact List.append_assoc ..

/-! ## Stored settings without members -/

theorem ofJson_empty : ofJson "\x7b\x7d" = .ok {} := rfl

theorem load_empty {storage : Storage} {path : String}
    (h : storage.readText path = .ok "\x7b\x7d") : load storage path = .ok {} := by
  rw [load, h]
  exact congrArg (Except.mapError Fault.json) ofJson_empty

end Settings

namespace Command

/-! ## Running with stored settings that set nothing -/

variable {storage : Storage} {path : String} {r : ExportRequest}

theorem ExportRequest.settings_of_load (hload : Settings.load storage path = .ok {})
    (hconfig : r.config = none) :
    { r with config := some path }.settings storage = r.settings storage := by
  have hstored : { r with config := some path }.settings storage =
      Settings.load storage path >>= fun stored => .ok (stored.merge r.overrides) := rfl
  rw [hstored, hload, settings, hconfig]
  exact congrArg Except.ok (Settings.empty_merge r.overrides)

/-- **Stored settings that set nothing make no difference to an export.** -/
theorem Request.run_of_load (hload : Settings.load storage path = .ok {})
    (hconfig : r.config = none) (time : String) :
    Request.run time storage (.exportCatalog { r with config := some path }) =
      Request.run time storage (.exportCatalog r) := by
  rw [run, run, ExportRequest.run, ExportRequest.run, ExportRequest.settings_of_load hload hconfig]

/-! ## Asking for stored settings -/

/-- Refuses the operations that exclude each other. -/
def exclusions (g : Given) : Except Stop Unit := do
  g.exclude "update" "delete"
  g.exclude "update" "rollover"
  g.exclude "delete" "rollover"

/-- The export that was asked for. -/
def exportOf (g : Given) : ExportRequest where
  config := g.value? "config"
  overrides :=
    { catalog := g.operands.head?
      output := g.value? "output"
      logFile := g.value? "log-file"
      filters := g.values "filter"
      operation := operationOf g }
  verbose := g.has "verbose"

/-- The request that was made. -/
def requestOf (g : Given) : Except Stop Request :=
  exclusions g >>= fun _ => .ok (.exportCatalog (exportOf g))

theorem Request.parseExport_eq (arguments : List String) :
    parseExport arguments = exportSignature.read arguments >>= requestOf := by
  have hdone : ∀ g, requestOf g = exclusions g >>= fun _ => .ok (.exportCatalog (exportOf g)) :=
    fun _ => rfl
  simp only [parseExport, funext hdone, exclusions, bind_assoc]
  rfl

/-- Stored settings do not exclude anything. -/
theorem exclusions_of_joined {g g' : Given} (h : Joined "config" path g g') :
    exclusions g' = exclusions g := by
  have hupdate := h.has_of_ne (show "config" ≠ "update" by decide)
  have hdelete := h.has_of_ne (show "config" ≠ "delete" by decide)
  have hrollover := h.has_of_ne (show "config" ≠ "rollover" by decide)
  simp only [exclusions, Given.exclude, hupdate, hdelete, hrollover]

/-- They do not change what else was asked for. -/
theorem exportOf_of_joined {g g' : Given} (h : Joined "config" path g g')
    (hnew : g.has "config" = false) : exportOf g' = { exportOf g with config := some path } := by
  have hconfig : g'.value? "config" = some path := congrArg List.head? (h.values_self hnew)
  have hupdate := h.has_of_ne (show "config" ≠ "update" by decide)
  have hdelete := h.has_of_ne (show "config" ≠ "delete" by decide)
  have hrollover := h.has_of_ne (show "config" ≠ "rollover" by decide)
  have hverbose := h.has_of_ne (show "config" ≠ "verbose" by decide)
  have houtput := h.value?_of_ne (show "config" ≠ "output" by decide)
  have hlogFile := h.value?_of_ne (show "config" ≠ "log-file" by decide)
  have hfilter := h.values_of_ne (show "config" ≠ "filter" by decide)
  simp only [exportOf, operationOf, hconfig, hupdate, hdelete, hrollover, hverbose, houtput,
    hlogFile, hfilter, h.operands_eq]

/-- **What comes of an export when stored settings are asked for as well.**  The request is the same
    but for them, and arguments that are refused are refused still, perhaps because they ask for
    stored settings themselves. -/
theorem request_of_alike {x x' : Except Stop Given} (h : Alike "config" path x x') :
    (∀ r, x >>= requestOf = .ok (.exportCatalog r) → r.config = none →
      x' >>= requestOf = .ok (.exportCatalog { r with config := some path })) ∧
    ∀ stop, x >>= requestOf = .error stop →
      x' >>= requestOf = .error stop ∨
      x' >>= requestOf = .error (.misuse (.repeated "config")) := by
  cases h with
  | @given g g' hjoined hnew =>
      have hrequest : requestOf g' = exclusions g >>= fun _ =>
          .ok (.exportCatalog { exportOf g with config := some path }) := by
        rw [requestOf, exclusions_of_joined hjoined, exportOf_of_joined hjoined hnew]
      constructor
      · intro r hr _
        obtain ⟨_, hallowed, hr⟩ := bind_eq_ok_iff.mp (show requestOf g = _ from hr)
        obtain rfl := Request.exportCatalog.inj (Except.ok.inj hr)
        exact hrequest.trans (bind_eq_ok_iff.mpr ⟨_, hallowed, rfl⟩)
      · intro stop hstop
        rcases bind_eq_error_iff.mp (show requestOf g = _ from hstop) with hrefused | ⟨_, _, hnever⟩
        · exact Or.inl (hrequest.trans (bind_eq_error_iff.mpr (Or.inl hrefused)))
        · cases hnever
  | stop cause =>
      constructor
      · intro r hr
        cases hr
      · exact fun _ hstop => Or.inl hstop
  | again hhas =>
      -- What was given has stored settings, so that the request would name them.
      constructor
      · intro r hr hnone
        obtain ⟨g, hg, hr⟩ := bind_eq_ok_iff.mp hr
        obtain ⟨_, _, hr⟩ := bind_eq_ok_iff.mp (show requestOf g = _ from hr)
        obtain rfl := Request.exportCatalog.inj (Except.ok.inj hr)
        have hsome : (g.value? "config").isSome = true := hhas g hg
        rw [show g.value? "config" = none from hnone] at hsome
        cases hsome
      · exact fun _ _ => Or.inr rfl

/-- The option for stored settings. -/
def configChoice : Choice := ⟨"config", some 'c', .path⟩

/-- Arguments with and without stored settings are read alike. -/
theorem alike_read_config {before : List String} {flag : String}
    (hflag : flag = "--config" ∨ flag = "-c") (hpath : path ≠ "")
    (hvalue : isOption path.toList = false) (hend : "--" ∉ before)
    (hbefore : (exportSignature.read before).isOk = true) (after : List String) :
    Alike "config" path (exportSignature.read (before ++ after))
      (exportSignature.read (before ++ flag :: path :: after)) := by
  obtain ⟨g, hg⟩ := exists_eq_ok_of_isOk hbefore
  have hasks : flag ≠ "--" ∧
      exportSignature.readArgument g flag = .ok (g, some configChoice) := by
    rcases hflag with rfl | rfl
    · exact ⟨by decide, rfl⟩
    · exact ⟨by decide, rfl⟩
  have hone : ∀ c ∈ exportSignature.choices, c.name = "config" → c.kind ≠ .texts := by decide
  rw [Signature.read, Signature.read, exportSignature.readFrom_append _ _ hend hg,
    exportSignature.readFrom_append _ _ hend hg,
    Signature.readFrom_option hasks.1 hasks.2 hvalue]
  exact Signature.alike_readFrom (o := configChoice) (by decide) hone hpath g after

end Command

/-! ## Together -/

open Command in
/-- **Settings in layers.**  Putting layers together is associative, and settings that set nothing
    are neutral in it.  Of any number of layers, each path and the operation are those of the last
    one that sets them, and the filters are those of all layers in order.  An export without stored
    settings does what it does with stored settings that set nothing: whatever its arguments are,
    and wherever among them an option may stand, asking for such settings changes neither the
    request nor what comes of it. -/
theorem layered_settings :
    (∀ a b c : Settings, (a.merge b).merge c = a.merge (b.merge c)) ∧
    (∀ s : Settings, Settings.merge {} s = s ∧ s.merge {} = s) ∧
    (∀ (base : Settings) (layers : List Settings),
      let merged := layers.foldl Settings.merge base
      merged.catalog = ((base :: layers).filterMap Settings.catalog).getLast? ∧
      merged.output = ((base :: layers).filterMap Settings.output).getLast? ∧
      merged.logFile = ((base :: layers).filterMap Settings.logFile).getLast? ∧
      merged.operation = ((base :: layers).filterMap Settings.operation).getLast? ∧
      merged.markOperation =
        ((base :: layers).filterMap Settings.operation).getLast?.getD .update ∧
      merged.filters = (base :: layers).flatMap Settings.filters) ∧
    ∀ (storage : Storage) (path : String), storage.readText path = .ok "\x7b\x7d" →
      (∀ (time : String) (r : ExportRequest), r.config = none →
        Request.run time storage (.exportCatalog { r with config := some path }) =
          Request.run time storage (.exportCatalog r)) ∧
      ∀ (before after : List String) (flag : String), flag = "--config" ∨ flag = "-c" →
        isOption path.toList = false → "--" ∉ before →
        (exportSignature.read before).isOk = true →
        (∀ r, Request.parse ("export" :: (before ++ after)) = .ok (.exportCatalog r) →
          r.config = none →
          Request.parse ("export" :: (before ++ flag :: path :: after)) =
            .ok (.exportCatalog { r with config := some path })) ∧
        ∀ stop, Request.parse ("export" :: (before ++ after)) = .error stop →
          Request.parse ("export" :: (before ++ flag :: path :: after)) = .error stop ∨
          Request.parse ("export" :: (before ++ flag :: path :: after)) =
            .error (.misuse (.repeated "config")) := by
  refine ⟨Settings.merge_assoc, fun s => ⟨s.empty_merge, s.merge_empty⟩, ?_, ?_⟩
  · intro base layers merged
    have hcatalog : Settings.Replaced Settings.catalog := fun _ _ => rfl
    have houtput : Settings.Replaced Settings.output := fun _ _ => rfl
    have hlogFile : Settings.Replaced Settings.logFile := fun _ _ => rfl
    have hoperation : Settings.Replaced Settings.operation := fun _ _ => rfl
    have hlast := hoperation.foldl_merge base layers
    have hmark := congrArg (fun op : Option Operation => op.getD .update) hlast
    exact ⟨hcatalog.foldl_merge base layers, houtput.foldl_merge base layers,
      hlogFile.foldl_merge base layers, hlast, hmark, Settings.filters_foldl_merge base layers⟩
  · intro storage path htext
    refine ⟨fun time r hconfig =>
      Request.run_of_load (Settings.load_empty htext) hconfig time, ?_⟩
    intro before after flag hflag hvalue hend hbefore
    have hpath : path ≠ "" := by
      rintro rfl
      cases htext
    have hrequest := request_of_alike (alike_read_config hflag hpath hvalue hend hbefore after)
    rw [← Request.parseExport_eq, ← Request.parseExport_eq] at hrequest
    exact hrequest

open Command in
/-- An explicit update is laid over a configured deletion, and goes with settings that set nothing
    as without them. -/
theorem layered_settings_update :
    let storage : Storage :=
      ⟨["home"], [(["home"], .directory), (["home", "settings.json"], .file [0x7b, 0x7d])]⟩
    let request : ExportRequest :=
      ⟨none, { catalog := some "catalog.json", operation := some .update }, false⟩
    ([{ operation := some .update }].foldl Settings.merge
      { operation := some .delete }).markOperation = .update ∧
    Request.parse ["export", "--update", "-c", "settings.json", "catalog.json"] =
      .ok (.exportCatalog { request with config := some "settings.json" }) ∧
    Request.run "" storage (.exportCatalog { request with config := some "settings.json" }) =
      Request.run "" storage (.exportCatalog request) ∧
    Request.parse ["export", "--update", "-c", "settings.json", "--delete"] =
      .error (.misuse (.conflict "update" "delete")) := by
  intro storage request
  obtain ⟨-, -, hlayers, hexport⟩ := layered_settings
  obtain ⟨-, -, -, -, hmark, -⟩ :=
    hlayers { operation := some .delete } [{ operation := some .update }]
  obtain ⟨hrun, hparse⟩ := hexport storage "settings.json" rfl
  have hparse := fun after => hparse ["--update"] after "-c" (Or.inr rfl) rfl (by decide) rfl
  refine ⟨hmark, (hparse ["catalog.json"]).1 request rfl rfl, hrun "" request rfl, ?_⟩
  exact ((hparse ["--delete"]).2 _ rfl).resolve_right (by decide)

end CourseFeed
