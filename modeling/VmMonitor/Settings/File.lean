import VmMonitor.Document.Json
import VmMonitor.Document.Toml
import VmMonitor.Document.Toml.Pretty
import VmMonitor.Document.Yaml.Block
import VmMonitor.Files
import VmMonitor.Settings

/-!
# Settings as text

A configuration file is JSON or TOML if its extension says so in small letters, and YAML otherwise.
Without a path the usual places are looked at in turn. A file that is not there leaves the standard
settings; a file that is there gives only what it says.
-/

namespace VmMonitor.Settings

open Decode

def fields : List Field :=
  [⟨"delay_secs", ["delay"]⟩, ⟨"iterations", ["iteration"]⟩, ⟨"pid", []⟩, ⟨"stat_view", ["stat"]⟩,
    ⟨"thread_limit", ["threadlimit"]⟩, ⟨"thread_limit_enabled", ["threadlimit-enabled"]⟩,
    ⟨"thread_name_width", ["threadnamewidth"]⟩, ⟨"scan_interval", ["scan-interval"]⟩,
    ⟨"sort_by", ["sort-by"]⟩, ⟨"scenario_file", ["scenario"]⟩, ⟨"log_level", []⟩]

def decode (format : Format) : Decoder Settings := fun d => do
  let r ← record format fields d
  return {
    delaySecs := ← r.nullable "delay_secs" float
    iterations := ← r.nullable "iterations" int64
    pid := ← r.nullable "pid" (natBelow (twoTo 32))
    statView := ← r.nullable "stat_view" bool
    threadLimit := ← r.nullable "thread_limit" (natBelow (twoTo 64))
    threadLimitEnabled := ← r.nullable "thread_limit_enabled" bool
    threadNameWidth := ← r.nullable "thread_name_width" (natBelow (twoTo 64))
    scanInterval := ← r.nullable "scan_interval" (natBelow (twoTo 32))
    sortBy := ← r.nullable "sort_by" (SortOrder.decode format)
    scenarioFile := ← r.nullable "scenario_file" text
    logLevel := ← r.nullable "log_level" text }

/-- Every setting with its leaf, null where it was not given. -/
def leaves (s : Settings) : List (String × Scalar) :=
  let leaf {α : Type} (write : α → Scalar) (value : Option α) : Scalar :=
    match value with
    | some a => write a
    | none => .null
  [("delay_secs", leaf .float s.delaySecs), ("iterations", leaf .int s.iterations),
    ("pid", leaf (.int ∘ Int.ofNat) s.pid), ("stat_view", leaf .bool s.statView),
    ("thread_limit", leaf (.int ∘ Int.ofNat) s.threadLimit),
    ("thread_limit_enabled", leaf .bool s.threadLimitEnabled),
    ("thread_name_width", leaf (.int ∘ Int.ofNat) s.threadNameWidth),
    ("scan_interval", leaf (.int ∘ Int.ofNat) s.scanInterval),
    ("sort_by", leaf (.text ∘ SortOrder.name) s.sortBy),
    ("scenario_file", leaf .text s.scenarioFile), ("log_level", leaf .text s.logLevel)]

def encode (s : Settings) : Doc := .record (s.leaves.map fun (k, v) => (k, .scalar v))

/-! ### Reading -/

/-- Why a configuration file gives no settings. -/
inductive FileFault
  | unreadable
  | malformed (format : Format)
  deriving DecidableEq, Repr

/-- The wording of a fault; what a text lacks to be a document is not worded. -/
def FileFault.message : FileFault → String
  | unreadable => "The configuration file cannot be read"
  | malformed format => "The configuration file is not valid " ++ format.name

/-- The format of a file. -/
def formatOf (path : String) : Format :=
  match Path.extension? path with
  | some "json" => .json
  | some "toml" => .toml
  | _ => .yaml

/-- Reads settings from a text. -/
def ofText (format : Format) (content : String) : Except FileFault Settings :=
  let doc := match format with
    | .json => Json.read content
    | .yaml => Yaml.read content
    | .toml => Toml.read content
  match doc >>= decode format with
  | some s => .ok s
  | none => .error (.malformed format)

/-- Where a configuration file is looked for. -/
def places : List String :=
  ["/etc/herakles/jvmtop.yaml", "/etc/herakles/jvmtop.yml", "/etc/herakles/jvmtop.json",
    "./herakles-jvmtop.yaml", "./herakles-jvmtop.yml", "./herakles-jvmtop.json"]

/-- Reads the settings of a configuration file. -/
def load (files : Files) (path : Option String) : Except FileFault Settings :=
  match path <|> places.find? files.isThere with
  | none => .ok standard
  | some path =>
    if path.isEmpty || !files.isThere path then .ok standard
    else match files.content path with
      | none => .error .unreadable
      | some content => ofText (formatOf path) content

/-! ### Writing -/

/-- Writes settings in a format. -/
def write (format : Format) (s : Settings) : String :=
  match format with
  | .json => Json.pretty 0 s.encode
  | .yaml => Yaml.write s.encode
  | .toml => Toml.pairs s.leaves

end VmMonitor.Settings
