import CourseFeed.Proofs.FeedLines
import CourseFeed.Proofs.StoredFeeds
import CourseFeed.Proofs.WrittenJson
import CourseFeed.Settings.Json

/-!
# Saved settings

Settings are saved as an object with a member for each of them, and an operation only if it is set.
Each member that is there replaces the default of its field, and a field without a member keeps a
default that is what was left out.  So the settings that are loaded are those that were saved.

* **`Settings.takesMembers`** — the members of settings make these settings of the defaults.
* **`Settings.ofJson_pretty`** — what is written of settings is read as them.
* **`Storage.openEntry_of_create`** — a file that was made holds what was written to it, and
  **`Settings.save_eq_ok_iff`**: settings are saved just if it can be made.
* **`saved_settings_reloaded`** — settings that were saved are loaded unchanged.
-/

namespace CourseFeed

open CourseFeed.Json CourseFeed.Text

/-! ## Members -/

theorem rereads_optional_path : Rereads (readOptional readPath) (.optional .text) :=
  rereads_optional (rereads_text "path string") fun path depth => head?_prettyChars_text depth path

theorem rereads_filters : Rereads (readList readString) .texts :=
  rereads_list (rereads_text "a string")

/-- The name of an operation is written, which is that of no other. -/
theorem Operation.rereads : Rereads Operation.read Operation.toTree := by
  have hnames : ∀ op : Operation,
      findNamed? op.name (all.map fun op => (op.name, op)) = some op := by
    intro op
    cases op <;> rfl
  exact rereads_variant hnames

theorem Operation.rereads_optional :
    Rereads (readOptional Operation.read) (.optional Operation.toTree) :=
  Json.rereads_optional Operation.rereads fun op depth => head?_prettyChars_text depth op.name

namespace Settings

/-- The members that are written of settings. -/
def members (s : Settings) : List (String × Tree) :=
  [ ("catalog", .optional .text s.catalog),
    ("output", .optional .text s.output),
    ("log_file", .optional .text s.logFile),
    ("filters", .texts s.filters) ] ++
  s.operation.toList.map fun op => ("operation", op.toTree)

theorem toTree_eq (s : Settings) : s.toTree = .object s.members := rfl

/-- The names of the members that are always written, the last one first. -/
def writtenNames : List String := ["filters", "log_file", "output", "catalog"]

/-- Without an operation there are four members, and the fifth field keeps its default. -/
theorem takesMembers_unmarked (s : Settings) (depth : Nat) :
    TakesMembers shape.readMember (prettyMembers depth { s with operation := none }.members)
      shape.start ⟨{ s with operation := none }, writtenNames⟩ := by
  refine .cons (Shape.takesMember rfl rereads_optional_path rfl rfl) ?_
  refine .cons (Shape.takesMember rfl rereads_optional_path rfl rfl) ?_
  refine .cons (Shape.takesMember rfl rereads_optional_path rfl rfl) ?_
  refine .cons (Shape.takesMember rfl rereads_filters rfl rfl) ?_
  exact .nil _

/-- **The members that are written of settings make these settings of the defaults.** -/
theorem takesMembers (s : Settings) (depth : Nat) :
    ∃ given, TakesMembers shape.readMember (prettyMembers depth s.members) shape.start
      ⟨s, given⟩ := by
  have hunmarked := s.takesMembers_unmarked depth
  obtain ⟨catalog, output, logFile, filters, operation⟩ := s
  cases operation with
  | none => exact ⟨writtenNames, hunmarked⟩
  | some op =>
      have hlast : TakesMember shape.readMember
          (textLiteral "operation" ++ ':' :: ' ' ::
            prettyChars depth (.optional Operation.toTree (some op)))
          ⟨{ catalog, output, logFile, filters }, writtenNames⟩
          ⟨{ catalog, output, logFile, filters, operation := some op },
            "operation" :: writtenNames⟩ :=
        Shape.takesMember rfl Operation.rereads_optional rfl rfl
      exact ⟨"operation" :: writtenNames, hunmarked.concat hlast⟩

/-- **What is written of settings is read as them.** -/
theorem ofJson_pretty (s : Settings) : ofJson s.toTree.pretty = .ok s := by
  obtain ⟨given, htakes⟩ := s.takesMembers 1
  rw [ofJson, toTree_eq]
  exact readAll_pretty (Shape.readsItem_object htakes rfl)

end Settings

/-! ## Files -/

/-- **A file that was made holds what was written to it.** -/
theorem Storage.openEntry_of_create {s made : Storage} {path : String} {location : Location}
    (h : s.create path = .ok (made, location)) (bytes : List UInt8) :
    Storage.openEntry (made.writeAt location 0 bytes) path = .ok (.file bytes) := by
  have hcreate : Session.create ⟨s, none⟩ path = .ok (⟨made, none⟩, ⟨location, 0⟩) := by
    rw [Session.create, h]
  obtain ⟨hend, hempty⟩ := Feed.FeedFile.atEnd_of_create hcreate
  obtain ⟨hwritten, hcontent⟩ := hend.extended bytes
  have hsame := Except.ok.inj (hend.deliver_eq bytes)
  rw [hempty, List.nil_append] at hcontent
  rw [← hsame] at hwritten hcontent
  have hread := hwritten.openEntry_eq
  rw [hcontent] at hread
  exact hread

theorem Storage.readText_of_openEntry {s : Storage} {path text : String}
    (h : s.openEntry path = .ok (.file (encodeUtf8 text))) : s.readText path = .ok text := by
  rw [readText, h]
  simp only [Feed.decodeUtf8?_encodeUtf8]

/-- Settings are saved just if the file can be made, whatever they are, and then it holds what is
    written of them. -/
theorem Settings.save_eq_ok_iff (s : Settings) (storage saved : Storage) (path : String) :
    s.save storage path = .ok saved ↔ ∃ made location, storage.create path = .ok (made, location) ∧
      made.writeAt location 0 (encodeUtf8 s.toTree.pretty) = saved := by
  rw [save]
  cases storage.create path with
  | error fault =>
      constructor
      · intro h
        cases h
      · rintro ⟨made, location, hmade, -⟩
        cases hmade
  | ok found =>
      constructor
      · intro h
        exact ⟨found.1, found.2, rfl, Except.ok.inj h⟩
      · rintro ⟨made, location, hmade, rfl⟩
        obtain rfl := Except.ok.inj hmade
        rfl

/-- **Settings that were saved are loaded unchanged**, whatever stands in their paths and filters.
    They are saved just if the file can be made. -/
theorem saved_settings_reloaded (s : Settings) (storage : Storage) (path : String) :
    ((∃ saved, s.save storage path = .ok saved) ↔
      ∃ made location, storage.create path = .ok (made, location)) ∧
    ∀ saved, s.save storage path = .ok saved → Settings.load saved path = .ok s := by
  constructor
  · constructor
    · rintro ⟨saved, hsaved⟩
      obtain ⟨made, location, hmade, -⟩ := (s.save_eq_ok_iff storage saved path).mp hsaved
      exact ⟨made, location, hmade⟩
    · rintro ⟨made, location, hmade⟩
      exact ⟨_, (s.save_eq_ok_iff storage _ path).mpr ⟨made, location, hmade, rfl⟩⟩
  · intro saved hsaved
    obtain ⟨made, location, hmade, rfl⟩ := (s.save_eq_ok_iff storage saved path).mp hsaved
    have hopen := Storage.openEntry_of_create hmade (encodeUtf8 s.toTree.pretty)
    rw [Settings.load, Storage.readText_of_openEntry hopen]
    show (Settings.ofJson s.toTree.pretty).mapError Fault.json = _
    rw [s.ofJson_pretty]
    rfl

/-- Settings with quotes, backslashes, slashes and controls in them. -/
def Settings.escaping : Settings where
  catalog := some "a \"b\" \\ c.json"
  logFile := some "logs/é\x7f"
  filters := ["code = /^INF\\d+$/", "\x00\x08\x0c\n\r\t\x1f", ""]
  operation := some .rollover

theorem saved_settings_reloaded_escaping :
    ∃ saved,
      Settings.escaping.save ⟨["home"], [(["home"], .directory)]⟩ "settings.json" = .ok saved ∧
      Settings.load saved "settings.json" = .ok .escaping := by
  obtain ⟨hcan, hload⟩ :=
    saved_settings_reloaded .escaping ⟨["home"], [(["home"], .directory)]⟩ "settings.json"
  obtain ⟨saved, hsaved⟩ := exists_eq_ok_of_isOk
    (x := Settings.escaping.save ⟨["home"], [(["home"], .directory)]⟩ "settings.json")
    (by decide +kernel)
  exact ⟨saved, hsaved, hload saved hsaved⟩

end CourseFeed
