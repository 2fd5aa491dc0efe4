import VmMonitor.Proofs.Document.Decode
import VmMonitor.Settings.File

/-!
# What a configuration file says

A file sets what stands under one of the names of a setting and is not null, and nothing else: what it
says on one setting does not depend on what it says on others, and what it leaves out stays open. The
names are those of the fields and their other spellings; in JSON a list of all fields in their order
will do as well.

## What is proved

* `Decode.find?_eq_some_iff` — what is found in a record is what the document holds there.
* `Settings.filed_of_decode` — **the settings of a document** are what it gives, one by one.
* `Settings.load_spec` — the settings of **any file**, and when there are none.
-/

namespace VmMonitor

namespace Decode

variable {fields : List Field} {positional : Bool} {name : String} {d v : Doc} {r : Record}

/-- A document holds something under a field: it has an entry whose key names the field, or is a list
with an item in the place of the field. -/
def Holds (fields : List Field) (d : Doc) (name : String) (v : Doc) : Prop :=
  match d.untagged with
  | .table entries => ∃ key, (key, v) ∈ entries ∧ fieldOf? fields key = some name
  | .list items => (name, v) ∈ (fields.map (·.name)).zip items
  | _ => False

/-- A document gives a field a value: what it holds there is not null and can be read. -/
def Gives {α : Type} (fields : List Field) (d : Doc) (name : String) (decode : Decoder α) (x : α) :
    Prop :=
  ∃ v, Holds fields d name v ∧ optional decode v = some (some x)

/-- What is collected of a table is what its entries hold, once for every field. -/
theorem collect_spec {entries : List (Doc × Doc)} {known : List (String × Doc)}
    (h : collect fields entries = some known) : (Table.keys known).Nodup ∧
      ∀ name v, (name, v) ∈ known ↔ ∃ key, (key, v) ∈ entries ∧ fieldOf? fields key = some name := by
  induction entries generalizing known with
  | nil =>
    cases h
    simp [Table.keys]
  | cons e rest ih =>
    obtain ⟨key, d⟩ := e
    simp only [collect] at h
    split_ifs at h
    obtain ⟨others, hrest, h⟩ := Option.bind_eq_some_iff.1 h
    obtain ⟨hnodup, hmem⟩ := ih hrest
    split at h
    next hfield =>
      cases h
      refine ⟨hnodup, fun name v => (hmem name v).trans ?_⟩
      have hother : ¬∃ k, (k = key ∧ v = d) ∧ fieldOf? fields k = some name := by
        rintro ⟨k, ⟨rfl, -⟩, hk⟩
        rw [hfield] at hk
        cases hk
      simp only [List.mem_cons, Prod.mk.injEq, or_and_right, exists_or, hother, false_or]
    next field hfield =>
      split_ifs at h with htwice
      cases h
      rw [any_key_eq, decide_eq_true_eq] at htwice
      refine ⟨List.nodup_cons.2 ⟨htwice, hnodup⟩, fun name v => ?_⟩
      have hfirst : (∃ k, (k = key ∧ v = d) ∧ fieldOf? fields k = some name) ↔ name = field ∧ v = d := by
        simp [hfield, and_comm, eq_comm]
      simp only [List.mem_cons, Prod.mk.injEq, or_and_right, exists_or, hfirst, hmem]

theorem keys_zip_sublist {α : Type} (names : List String) (items : List α) :
    (Table.keys (names.zip items)).Sublist names := by
  induction names generalizing items with
  | nil => exact .slnil
  | cons name names ih =>
    cases items with
    | nil => exact List.nil_sublist _
    | cons item items => exact (ih items).cons_cons name

/-- What is found in a record is what the document holds under the field. -/
theorem find?_eq_some_iff (hnames : (fields.map (·.name)).Nodup)
    (hr : record? positional fields d = some r) : r.find? name = some v ↔ Holds fields d name v := by
  unfold record? at hr
  unfold Holds
  split at hr
  next entries hd =>
    obtain ⟨known, hknown, rfl⟩ := Option.map_eq_some_iff.1 hr
    obtain ⟨hnodup, hmem⟩ := collect_spec hknown
    rw [Record.find?_eq, Table.get?_eq_some_iff_of_nodup hnodup, hmem]
    simp only [hd]
  next items hd =>
    split_ifs at hr
    cases hr
    have hnodup := hnames.sublist (keys_zip_sublist _ items)
    rw [Record.find?_eq, Table.get?_eq_some_iff_of_nodup hnodup]
    simp only [hd]
  next hd =>
    cases hr
    simp [Record.find?, hd]
  next => cases hr

/-- A field that may be null has just the value that the document gives it. -/
theorem nullable_eq_some_iff {α : Type} (hnames : (fields.map (·.name)).Nodup)
    (hr : record? positional fields d = some r) {decode : Decoder α} {value : Option α}
    (h : r.nullable name decode = some value) (x : α) :
    value = some x ↔ Gives fields d name decode x := by
  simp only [Gives, ← find?_eq_some_iff hnames hr]
  unfold Record.nullable at h
  split at h
  next hnone =>
    split_ifs at h
    cases h
    simp [hnone]
  next v hfind => simp [hfind, h]

end Decode

namespace Settings

open Decode

theorem nodup_fields : (fields.map (·.name)).Nodup := by decide

/-- The document of a configuration file, with its format. -/
structure ConfigDoc where
  format : Format
  doc : Doc

/-- A configuration file, if there is one, sets this value. -/
def ConfigDoc.Sets {α : Type} (source : Option ConfigDoc) (name : String) (decode : Format → Decoder α)
    (x : α) : Prop :=
  ∃ f ∈ source, Gives fields f.doc name (decode f.format) x

/-- Settings are what a configuration file sets, each for itself. -/
structure Filed (source : Option ConfigDoc) (s : Settings) : Prop where
  delaySecs x : s.delaySecs = some x ↔ ConfigDoc.Sets source "delay_secs" (fun _ => float) x
  iterations n : s.iterations = some n ↔ ConfigDoc.Sets source "iterations" (fun _ => int64) n
  pid n : s.pid = some n ↔ ConfigDoc.Sets source "pid" (fun _ => natBelow (twoTo 32)) n
  statView b : s.statView = some b ↔ ConfigDoc.Sets source "stat_view" (fun _ => bool) b
  threadLimit n :
    s.threadLimit = some n ↔ ConfigDoc.Sets source "thread_limit" (fun _ => natBelow (twoTo 64)) n
  threadLimitEnabled b :
    s.threadLimitEnabled = some b ↔ ConfigDoc.Sets source "thread_limit_enabled" (fun _ => bool) b
  threadNameWidth n : s.threadNameWidth = some n ↔
    ConfigDoc.Sets source "thread_name_width" (fun _ => natBelow (twoTo 64)) n
  scanInterval n :
    s.scanInterval = some n ↔ ConfigDoc.Sets source "scan_interval" (fun _ => natBelow (twoTo 32)) n
  sortBy order : s.sortBy = some order ↔ ConfigDoc.Sets source "sort_by" SortOrder.decode order
  scenarioFile path :
    s.scenarioFile = some path ↔ ConfigDoc.Sets source "scenario_file" (fun _ => text) path
  logLevel name : s.logLevel = some name ↔ ConfigDoc.Sets source "log_level" (fun _ => text) name

/-- **The settings of a document** are what it gives. -/
theorem filed_of_decode {format : Format} {d : Doc} {s : Settings} (h : decode format d = some s) :
    Filed (some ⟨format, d⟩) s := by
  simp only [decode, bind, Option.bind_eq_some_iff, pure, Option.some.injEq] at h
  obtain ⟨r, hr, _, h₁, _, h₂, _, h₃, _, h₄, _, h₅, _, h₆, _, h₇, _, h₈, _, h₉, _, h₁₀, _, h₁₁, rfl⟩ := h
  have hfield {α : Type} {name : String} {decode : Format → Decoder α} {value : Option α}
      (hvalue : r.nullable name (decode format) = some value) (x : α) :
      value = some x ↔ ConfigDoc.Sets (some ⟨format, d⟩) name decode x := by
    simpa [ConfigDoc.Sets] using nullable_eq_some_iff nodup_fields hr hvalue x
  exact ⟨hfield h₁, hfield h₂, hfield h₃, hfield h₄, hfield h₅, hfield h₆, hfield h₇, hfield h₈,
    hfield h₉, hfield h₁₀, hfield h₁₁⟩

/-! ### Files -/

/-- The document that a text of a format stands for. -/
def document (format : Format) (content : String) : Option Doc :=
  match format with
  | .json => Json.read content
  | .yaml => Yaml.read content
  | .toml => Toml.read content

theorem ofText_eq (format : Format) (content : String) : ofText format content =
    match document format content >>= decode format with
    | some s => .ok s
    | none => .error (.malformed format) := rfl

/-- The file that is consulted: the one that was named or else the first one in the usual places, if it
is there. -/
def consulted? (files : Files) (named : Option String) : Option String :=
  (named <|> places.find? files.isThere).filter fun path => !path.isEmpty && files.isThere path

/-- A file, if one is consulted, is read as this document. -/
def ReadAs (files : Files) (path : Option String) (source : Option ConfigDoc) : Prop :=
  match path with
  | none => source = none
  | some path => ∃ content doc, files.content path = some content ∧
      document (formatOf path) content = some doc ∧ source = some ⟨formatOf path, doc⟩

/-- There is a file, and it cannot be read as settings. -/
def IsUnreadable (files : Files) (path : Option String) : Prop :=
  ∃ path' ∈ path, ∀ content doc, files.content path' = some content →
    document (formatOf path') content = some doc → decode (formatOf path') doc = none

/-- Settings before anything else is said: those of a file, or the standard ones where there is none. -/
def IsBase (source : Option ConfigDoc) (base : Settings) : Prop :=
  match source with
  | none => base = standard
  | some f => decode f.format f.doc = some base

/-- **The settings of a file** are there unless the file is consulted and cannot be read as settings. -/
theorem load_spec (files : Files) (named : Option String) : match load files named with
    | .ok base => ∃ source, ReadAs files (consulted? files named) source ∧ IsBase source base
    | .error _ => IsUnreadable files (consulted? files named) := by
  unfold load consulted?
  cases hpath : named <|> places.find? files.isThere with
  | none => exact ⟨none, rfl, rfl⟩
  | some path =>
    have hfilter : (some path).filter (fun path => !path.isEmpty && files.isThere path) =
        if path.isEmpty || !files.isThere path then none else some path := by
      cases hempty : path.isEmpty <;> cases hthere : files.isThere path <;>
        simp [Option.filter, hempty, hthere]
    simp only [hfilter]
    split_ifs with hmissing
    · exact ⟨none, rfl, rfl⟩
    · cases hcontent : files.content path with
      | none => exact ⟨path, rfl, by simp [hcontent]⟩
      | some content =>
        simp only [ofText_eq]
        cases hs : document (formatOf path) content >>= decode (formatOf path) with
        | some s =>
          obtain ⟨doc, hdoc, hdecode⟩ := Option.bind_eq_some_iff.1 hs
          exact ⟨some ⟨formatOf path, doc⟩, ⟨content, doc, hcontent, hdoc, rfl⟩, hdecode⟩
        | none =>
          refine ⟨path, rfl, fun content' doc hcontent' hdoc => ?_⟩
          obtain rfl := Option.some.inj (hcontent.symm.trans hcontent')
          rw [hdoc] at hs
          exact hs

end Settings

end VmMonitor
