import VmMonitor.Document.Json
import VmMonitor.Document.Yaml
import VmMonitor.Files
import VmMonitor.Scenario

/-!
# Scenarios as text

A scenario is written as a JSON or YAML document. Most fields have a value to take their place, and
unknown ones are ignored. A file whose extension is `json` in letters of any case is read as JSON,
any other one as YAML.
-/

namespace VmMonitor

open Decode

namespace ConnectOutcome

def name : ConnectOutcome → String
  | ok => "ok"
  | refused => "refused"
  | error => "error"
  | dead => "dead"

def ofName? (s : String) : Option ConnectOutcome :=
  [ok, refused, error, dead].find? fun o => o.name = s

end ConnectOutcome

/-- Fields without other spellings. -/
def plainFields (names : List String) : List Field := names.map fun n => ⟨n, []⟩

namespace GcSample

def decode (format : Format) : Decoder GcSample := fun d => do
  let r ← record format (plainFields ["name", "time_ms", "count"]) d
  return {
    name := ← r.required "name" text
    timeMs := ← r.orElse "time_ms" 0 int64
    count := ← r.orElse "count" 0 int64 }

def encode (g : GcSample) : Doc :=
  .record [("name", .text g.name), ("time_ms", .int g.timeMs), ("count", .int g.count)]

end GcSample

namespace ScenarioThread

def decode (format : Format) : Decoder ScenarioThread := fun d => do
  let r ← record format (plainFields ["id", "name", "state", "cpu_time_ns", "lock_owner_id"]) d
  return {
    id := ← r.required "id" int64
    name := ← r.required "name" text
    state := ← r.orElse "state" "RUNNABLE" text
    cpuTimeNs := ← r.orElse "cpu_time_ns" 0 int64
    lockOwner := ← r.orElse "lock_owner_id" (-1) int64 }

def encode (t : ScenarioThread) : Doc :=
  .record [("id", .int t.id), ("name", .text t.name), ("state", .text t.state),
    ("cpu_time_ns", .int t.cpuTimeNs), ("lock_owner_id", .int t.lockOwner)]

end ScenarioThread

namespace Sample

def fields : List Field := plainFields
  ["uptime_ms", "cpu_time_ns", "gc", "heap", "non_heap", "loaded_classes", "thread_count",
    "peak_threads", "total_started_threads", "threads", "deadlocked", "monitor_deadlocked", "fail",
    "dead", "broken_attributes"]

def decode (format : Format) : Decoder Sample := fun d => do
  let r ← record format fields d
  return {
    uptimeMs := ← r.orElse "uptime_ms" 0 int64
    cpuTimeNs := ← r.orElse "cpu_time_ns" 0 int64
    gc := ← r.orElse "gc" [] (list (GcSample.decode format))
    heap := ← r.orElse "heap" {} (MemoryUsage.decode format)
    nonHeap := ← r.orElse "non_heap" {} (MemoryUsage.decode format)
    loadedClasses := ← r.orElse "loaded_classes" 0 int64
    threadCount := ← r.orElse "thread_count" none (optional int64)
    peakThreads := ← r.orElse "peak_threads" none (optional int64)
    totalStartedThreads := ← r.orElse "total_started_threads" none (optional int64)
    threads := ← r.orElse "threads" [] (list (ScenarioThread.decode format))
    deadlocked := ← r.orElse "deadlocked" none (optional (list int64))
    monitorDeadlocked := ← r.orElse "monitor_deadlocked" none (optional (list int64))
    fail := ← r.orElse "fail" false bool
    dead := ← r.orElse "dead" false bool
    brokenAttributes := ← r.orElse "broken_attributes" [] (list text) }

def encode (s : Sample) : Doc :=
  let ints (ns : List Int) : Doc := .list (ns.map .int)
  .record [("uptime_ms", .int s.uptimeMs), ("cpu_time_ns", .int s.cpuTimeNs),
    ("gc", .list (s.gc.map GcSample.encode)), ("heap", s.heap.encode),
    ("non_heap", s.nonHeap.encode), ("loaded_classes", .int s.loadedClasses),
    ("thread_count", .optional .int s.threadCount),
    ("peak_threads", .optional .int s.peakThreads),
    ("total_started_threads", .optional .int s.totalStartedThreads),
    ("threads", .list (s.threads.map ScenarioThread.encode)),
    ("deadlocked", .optional ints s.deadlocked),
    ("monitor_deadlocked", .optional ints s.monitorDeadlocked),
    ("fail", .bool s.fail), ("dead", .bool s.dead),
    ("broken_attributes", .list (s.brokenAttributes.map .text))]

end Sample

namespace ScenarioInstance

def fields : List Field := plainFields
  ["pid", "display_name", "attachable", "endpoint", "connect", "appears_at", "vanishes_at",
    "available_processors", "system_properties", "input_arguments", "thread_cpu_time_supported",
    "synchronizer_usage_supported", "samples"]

def decode (format : Format) : Decoder ScenarioInstance := fun d => do
  let r ← record format fields d
  return {
    pid := ← r.required "pid" (natBelow (twoTo 32))
    displayName := ← r.orElse "display_name" "" text
    attachable := ← r.orElse "attachable" true bool
    endpoint := ← r.orElse "endpoint" none (optional (Endpoint.decode format))
    connect := ← r.orElse "connect" .ok (word format ConnectOutcome.ofName?)
    appearsAt := ← r.orElse "appears_at" 0 (natBelow (twoTo 64))
    vanishesAt := ← r.orElse "vanishes_at" none (optional (natBelow (twoTo 64)))
    processors := ← r.orElse "available_processors" 1 int64
    systemProperties := ← r.orElse "system_properties" [] textTable
    inputArguments := ← r.orElse "input_arguments" [] (list text)
    threadCpuTimeSupported := ← r.orElse "thread_cpu_time_supported" true bool
    lockUsageSupported := ← r.orElse "synchronizer_usage_supported" true bool
    samples := ← r.orElse "samples" [] (list (Sample.decode format)) }

/-- A field that is left out where it has no value. -/
def optionalField {α : Type} (name : String) (write : α → Doc) : Option α → List (String × Doc)
  | none => []
  | some a => [(name, write a)]

def encode (i : ScenarioInstance) : Doc :=
  .record <|
    [("pid", .nat i.pid), ("display_name", .text i.displayName), ("attachable", .bool i.attachable)]
    ++ optionalField "endpoint" Endpoint.encode i.endpoint
    ++ [("connect", .text i.connect.name), ("appears_at", .nat i.appearsAt)]
    ++ optionalField "vanishes_at" Doc.nat i.vanishesAt
    ++ [("available_processors", .int i.processors),
      ("system_properties", .record (i.systemProperties.map fun (k, v) => (k, .text v))),
      ("input_arguments", .list (i.inputArguments.map .text)),
      ("thread_cpu_time_supported", .bool i.threadCpuTimeSupported),
      ("synchronizer_usage_supported", .bool i.lockUsageSupported),
      ("samples", .list (i.samples.map Sample.encode))]

end ScenarioInstance

namespace Scenario

def decode (format : Format) : Decoder Scenario := fun d => do
  let r ← record format (plainFields ["discovery_fails_at", "instances"]) d
  return {
    discoveryFailsAt := ← r.orElse "discovery_fails_at" none (optional (natBelow (twoTo 64)))
    instances := ← r.orElse "instances" [] (list (ScenarioInstance.decode format)) }

def encode (s : Scenario) : Doc :=
  .record <|
    ScenarioInstance.optionalField "discovery_fails_at" Doc.nat s.discoveryFailsAt
    ++ [("instances", .list (s.instances.map ScenarioInstance.encode))]

/-- Reads a scenario from JSON. -/
def ofJson (content : String) : Except ScenarioError Scenario :=
  match Json.read content >>= decode .json with
  | some s => s.validate
  | none => .error .json

/-- Reads a scenario from YAML. -/
def ofYaml (content : String) : Except ScenarioError Scenario :=
  match Yaml.read content >>= decode .yaml with
  | some s => s.validate
  | none => .error .yaml

/-- Whether a file is read as JSON. -/
def isJsonPath (path : String) : Bool :=
  match Path.extension? path with
  | some e => e.toList.map Char.toLower = ['j', 's', 'o', 'n']
  | none => false

/-- Reads a scenario from what a file holds. -/
def ofFile (path content : String) : Except ScenarioError Scenario :=
  if isJsonPath path then ofJson content else ofYaml content

/-- Reads the scenario that a file holds. -/
def load (files : Files) (path : String) : Except ScenarioError Scenario :=
  match files.content path with
  | some content => ofFile path content
  | none => .error (.io path (files.reasonUnreadable path))

end Scenario

end VmMonitor
