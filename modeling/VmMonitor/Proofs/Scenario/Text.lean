import VmMonitor.Proofs.AttributeValue
import VmMonitor.Proofs.Document.Yaml.Node
import VmMonitor.Scenario.Text

/-!
# Scenarios as they are read

What a scenario is written as is read as that scenario, whether the leaves come back as they are or as
they are spelled. The numbers have to fit the types that they are read with, and the system properties
have to be in the order in which a table has them. An endpoint of an instance's own is left out here:
it is never written with its password.

## What is proved

* `Scenario.decode_asRead` — a scenario is decoded from what is found where it was written; with one
  lemma for each record that it is made of.
* `Scenario.writable` — JSON tells all of it.
* `ScenarioInstance.blockwise` — YAML is written in blocks, if no text needs quotes.
-/

namespace VmMonitor

open Decode

/-! ### Fields of a record -/

namespace Decode.Record

variable {α : Type} (positional : Bool) (key : String) (d : Doc) (entries : List (String × Doc))
  (name : String) (value : α) (decode : Decoder α)

theorem find?_cons : find? ⟨positional, (key, d) :: entries⟩ name =
    if key = name then some d else find? ⟨positional, entries⟩ name := by
  by_cases h : key = name <;> simp [find?, h]

/-- A field that has to be there is in the first entry or behind it. -/
theorem required_cons : required ⟨positional, (key, d) :: entries⟩ name decode =
    if key = name then decode d else required ⟨positional, entries⟩ name decode := by
  rw [required, required, find?_cons]
  by_cases h : key = name
  · rw [if_pos h, if_pos h]
    rfl
  · rw [if_neg h, if_neg h]

/-- A field with a value to take its place is in the first entry, behind it, or nowhere. -/
theorem orElse_cons : orElse ⟨positional, (key, d) :: entries⟩ name value decode =
    if key = name then decode d else orElse ⟨positional, entries⟩ name value decode := by
  rw [orElse, orElse, find?_cons]
  by_cases h : key = name
  · rw [if_pos h, if_pos h]
  · rw [if_neg h, if_neg h]

theorem orElse_nil : orElse ⟨positional, []⟩ name value decode = some value := rfl

end Decode.Record

open Decode.Record

variable (format : Format)

theorem MemoryUsage.decode_asRead {u : MemoryUsage} (h : u.Fits) :
    MemoryUsage.decode format (u.encode.asRead format) = some u := by
  obtain ⟨hinit, hused, hcommitted, hmax⟩ := h
  rw [decode, encode, record_asRead format (by simp [fields]) (by simp [fields])
    (by simp [Table.keys]), Option.bind_eq_bind, Option.bind_some]
  simp only [ofRecord, required_cons, String.reduceEq, if_true, if_false, List.map_cons,
    List.map_nil, int64_asRead, *]
  rfl

namespace GcSample

def Fits (g : GcSample) : Prop := isInt64 g.timeMs ∧ isInt64 g.count

theorem decode_asRead {g : GcSample} (h : g.Fits) :
    GcSample.decode format (g.encode.asRead format) = some g := by
  obtain ⟨htime, hcount⟩ := h
  rw [decode, encode, record_asRead format (by simp [plainFields]) (by simp [plainFields])
    (by simp [Table.keys]), Option.bind_eq_bind, Option.bind_some]
  simp only [required_cons, orElse_cons, String.reduceEq, if_true, if_false, List.map_cons,
    List.map_nil, text_asRead, int64_asRead, *]
  rfl

end GcSample

namespace ScenarioThread

def Fits (t : ScenarioThread) : Prop :=
  isInt64 t.id ∧ isInt64 t.cpuTimeNs ∧ isInt64 t.lockOwner

theorem decode_asRead {t : ScenarioThread} (h : t.Fits) :
    ScenarioThread.decode format (t.encode.asRead format) = some t := by
  obtain ⟨hid, htime, howner⟩ := h
  rw [decode, encode, record_asRead format (by simp [plainFields]) (by simp [plainFields])
    (by simp [Table.keys]), Option.bind_eq_bind, Option.bind_some]
  simp only [required_cons, orElse_cons, String.reduceEq, if_true, if_false, List.map_cons,
    List.map_nil, text_asRead, int64_asRead, *]
  rfl

end ScenarioThread

namespace Sample

/-- All numbers of a sample fit in 64 bits. -/
structure Fits (x : Sample) : Prop where
  uptime : isInt64 x.uptimeMs
  cpuTime : isInt64 x.cpuTimeNs
  gc : ∀ g ∈ x.gc, g.Fits
  heap : x.heap.Fits
  nonHeap : x.nonHeap.Fits
  loadedClasses : isInt64 x.loadedClasses
  threadCount : ∀ n ∈ x.threadCount, isInt64 n
  peakThreads : ∀ n ∈ x.peakThreads, isInt64 n
  totalStartedThreads : ∀ n ∈ x.totalStartedThreads, isInt64 n
  threads : ∀ t ∈ x.threads, t.Fits
  deadlocked : ∀ ids ∈ x.deadlocked, ∀ n ∈ ids, isInt64 n
  monitorDeadlocked : ∀ ids ∈ x.monitorDeadlocked, ∀ n ∈ ids, isInt64 n

/-- A number that may be missing. -/
theorem optional_int64_asRead {o : Option Int} (h : ∀ n ∈ o, isInt64 n) :
    optional int64 ((Doc.optional .int o).asRead format) = some o := by
  cases o with
  | none => exact optional_null_asRead format int64
  | some n => exact optional_int_asRead format (int64_asRead format (h n rfl))

/-- A list of numbers that may be missing. -/
theorem optional_list_int64_asRead {o : Option (List Int)} (h : ∀ ids ∈ o, ∀ n ∈ ids, isInt64 n) :
    optional (list int64) ((Doc.optional (fun ids => .list (ids.map .int)) o).asRead format) =
      some o := by
  cases o with
  | none => exact optional_null_asRead format (list int64)
  | some ids =>
    exact optional_list_asRead format
      (list_asRead format fun n hn => int64_asRead format (h ids rfl n hn))

theorem decode_asRead {x : Sample} (h : x.Fits) :
    Sample.decode format (x.encode.asRead format) = some x := by
  rw [decode, encode, record_asRead format (by simp [fields, plainFields])
    (by simp [fields, plainFields]) (by simp [Table.keys]), Option.bind_eq_bind, Option.bind_some]
  -- Each field by itself: a simp that may open the binds passes through all of them for every field.
  simp only [orElse_cons, String.reduceEq, if_true, if_false, List.map_cons, List.map_nil,
    int64_asRead format h.uptime,
    int64_asRead format h.cpuTime, int64_asRead format h.loadedClasses,
    list_asRead format fun g hg => GcSample.decode_asRead format (h.gc g hg),
    list_asRead format fun t ht => ScenarioThread.decode_asRead format (h.threads t ht),
    list_asRead format fun s (_ : s ∈ x.brokenAttributes) => text_asRead format s,
    MemoryUsage.decode_asRead format h.heap, MemoryUsage.decode_asRead format h.nonHeap,
    optional_int64_asRead format h.threadCount, optional_int64_asRead format h.peakThreads,
    optional_int64_asRead format h.totalStartedThreads,
    optional_list_int64_asRead format h.deadlocked,
    optional_list_int64_asRead format h.monitorDeadlocked, bool_asRead]
  rfl

end Sample

theorem ConnectOutcome.word_asRead (o : ConnectOutcome) :
    word format ConnectOutcome.ofName? ((Doc.text o.name).asRead format) = some o := by
  cases format <;> cases o <;> decide

namespace ScenarioInstance

/-- All numbers of an instance fit their types, its properties are in order, and it has no endpoint of
its own. -/
structure Fits (i : ScenarioInstance) : Prop where
  pid : i.pid < twoTo 32
  endpoint : i.endpoint = none
  appearsAt : i.appearsAt < twoTo 64
  vanishesAt : ∀ n ∈ i.vanishesAt, n < twoTo 64
  processors : isInt64 i.processors
  systemProperties : (Table.keys i.systemProperties).Pairwise (· < ·)
  samples : ∀ x ∈ i.samples, x.Fits

/-- A number that is there. -/
theorem optional_natBelow_asRead {bound n : Nat} (h : n < bound) :
    optional (natBelow bound) ((Doc.nat n).asRead format) = some (some n) :=
  optional_int_asRead format (natBelow_asRead format h)

theorem decode_asRead {i : ScenarioInstance} (h : i.Fits) :
    ScenarioInstance.decode format (i.encode.asRead format) = some i := by
  obtain ⟨hpid, hendpoint, happears, hvanishes, hprocessors, hproperties, hsamples⟩ := h
  obtain ⟨pid, name, attachable, endpoint, connect, appearsAt, vanishesAt, processors, properties,
    arguments, times, locks, samples⟩ := i
  obtain rfl : endpoint = none := hendpoint
  cases vanishesAt
  case' some n => have hvanish := optional_natBelow_asRead format (hvanishes n rfl)
  all_goals
    rw [decode, encode, record_asRead format (by simp [fields, plainFields])
      (by simp [fields, plainFields, optionalField]) (by simp [Table.keys, optionalField]),
      Option.bind_eq_bind, Option.bind_some]
    simp only [required_cons, orElse_cons, orElse_nil, String.reduceEq, if_true, if_false,
      List.map_cons, List.map_nil, List.cons_append, List.nil_append, List.append_nil, optionalField,
      natBelow_asRead format hpid, text_asRead, bool_asRead, ConnectOutcome.word_asRead,
      natBelow_asRead format happears,
      int64_asRead format hprocessors, textTable_asRead format hproperties,
      list_asRead format fun s (_ : s ∈ arguments) => text_asRead format s,
      list_asRead format fun x hx => Sample.decode_asRead format (hsamples x hx), *]
    rfl

end ScenarioInstance

namespace Scenario

/-- All numbers of a scenario fit their types. -/
structure Fits (s : Scenario) : Prop where
  discoveryFailsAt : ∀ n ∈ s.discoveryFailsAt, n < twoTo 64
  instances : ∀ i ∈ s.instances, i.Fits

/-- **A scenario is decoded** from what is found where it was written. -/
theorem decode_asRead {s : Scenario} (h : s.Fits) :
    Scenario.decode format (s.encode.asRead format) = some s := by
  obtain ⟨hfails, hinstances⟩ := h
  obtain ⟨failsAt, instances⟩ := s
  cases failsAt
  case' some n => have hfail := ScenarioInstance.optional_natBelow_asRead format (hfails n rfl)
  all_goals
    rw [decode, encode, record_asRead format (by simp [plainFields])
      (by simp [plainFields, ScenarioInstance.optionalField])
      (by simp [Table.keys, ScenarioInstance.optionalField]),
      Option.bind_eq_bind, Option.bind_some]
    simp only [orElse_cons, orElse_nil, String.reduceEq, if_true, if_false, List.map_cons,
      List.map_nil, List.cons_append, List.nil_append, ScenarioInstance.optionalField,
      list_asRead format fun i hi => ScenarioInstance.decode_asRead format (hinstances i hi), *]
    rfl

end Scenario

/-! ### Values that may be missing -/

section Missing

variable {α : Type} {p : Doc → Prop} {write : α → Doc} {o : Option α}

/-- What holds of null and of every value is so for one that may be missing. -/
theorem of_optional (hnull : p .null) (h : ∀ a ∈ o, p (write a)) : p (Doc.optional write o) := by
  cases o with
  | none => exact hnull
  | some a => exact h a rfl

/-- A field that is left out asks for nothing. -/
theorem of_optionalField {name : String} (h : ∀ a ∈ o, p (write a)) :
    ∀ e ∈ ScenarioInstance.optionalField name write o, (e : String × Doc).1 = name ∧ p e.2 := by
  cases o with
  | none => exact nofun
  | some a => simpa [ScenarioInstance.optionalField] using h a rfl

end Missing

/-! ### Writing -/

theorem writable_of_isInt64 {n : Int} (h : isInt64 n) : (Doc.int n).Writable := by
  simp only [isInt64, Bool.and_eq_true, decide_eq_true_eq] at h
  have hbound : twoTo 63 < twoTo 64 := by decide
  exact .int h.1 (by omega)

theorem writable_nat {n bits : Nat} (h : n < twoTo bits) (hbits : bits ≤ 64) :
    (Doc.nat n).Writable := by
  have hbound : twoTo bits ≤ twoTo 64 := Nat.pow_le_pow_right (by decide) hbits
  exact .int (by omega) (by omega)

theorem writable_list {α : Type} {write : α → Doc} {as : List α} (h : ∀ a ∈ as, (write a).Writable) :
    (Doc.list (as.map write)).Writable := .list (List.forall_mem_map.2 h)

theorem MemoryUsage.writable {u : MemoryUsage} (h : u.Fits) : u.encode.Writable := by
  obtain ⟨hinit, hused, hcommitted, hmax⟩ := h
  exact .record (by simp [writable_of_isInt64, *])

theorem GcSample.writable {g : GcSample} (h : g.Fits) : g.encode.Writable := by
  obtain ⟨htime, hcount⟩ := h
  exact .record (by simp [writable_of_isInt64, Doc.Writable.text, *])

theorem ScenarioThread.writable {t : ScenarioThread} (h : t.Fits) : t.encode.Writable := by
  obtain ⟨hid, htime, howner⟩ := h
  exact .record (by simp [writable_of_isInt64, Doc.Writable.text, *])

theorem Sample.writable {x : Sample} (h : x.Fits) : x.encode.Writable := by
  have hints {o : Option Int} (ho : ∀ n ∈ o, isInt64 n) : (Doc.optional .int o).Writable :=
    of_optional .null fun n hn => writable_of_isInt64 (ho n hn)
  have hlists {o : Option (List Int)} (ho : ∀ ids ∈ o, ∀ n ∈ ids, isInt64 n) :
      (Doc.optional (fun ids => .list (ids.map .int)) o).Writable :=
    of_optional .null fun ids hids =>
      writable_list fun n hn => writable_of_isInt64 (ho ids hids n hn)
  refine .record ?_
  simp only [List.forall_mem_cons]
  exact ⟨writable_of_isInt64 h.uptime, writable_of_isInt64 h.cpuTime,
    writable_list fun g hg => GcSample.writable (h.gc g hg), MemoryUsage.writable h.heap,
    MemoryUsage.writable h.nonHeap,
    writable_of_isInt64 h.loadedClasses, hints h.threadCount, hints h.peakThreads,
    hints h.totalStartedThreads, writable_list fun t ht => ScenarioThread.writable (h.threads t ht),
    hlists h.deadlocked, hlists h.monitorDeadlocked, .bool _, .bool _, writable_list fun s _ => .text s,
    nofun⟩

theorem ScenarioInstance.writable {i : ScenarioInstance} (h : i.Fits) : i.encode.Writable := by
  have hvanishes : ∀ e ∈ optionalField "vanishes_at" Doc.nat i.vanishesAt,
      e.1 = "vanishes_at" ∧ e.2.Writable :=
    of_optionalField fun n hn => writable_nat (h.vanishesAt n hn) (by decide)
  refine .record ?_
  simp only [List.forall_mem_append, List.forall_mem_cons]
  refine ⟨⟨⟨⟨⟨writable_nat h.pid (by decide), .text _, .bool _, nofun⟩, ?_⟩,
    .text _, writable_nat h.appearsAt (by decide), nofun⟩,
    fun e he => (hvanishes e he).2⟩,
    writable_of_isInt64 h.processors, .record ?_, writable_list fun s _ => .text s, .bool _, .bool _,
    writable_list fun x hx => Sample.writable (h.samples x hx), nofun⟩
  · rw [h.endpoint]
    exact nofun
  · exact List.forall_mem_map.2 fun e _ => .text _

/-- **A scenario can be written** as JSON. -/
theorem Scenario.writable {s : Scenario} (h : s.Fits) : s.encode.Writable := by
  have hfails : ∀ e ∈ ScenarioInstance.optionalField "discovery_fails_at" Doc.nat s.discoveryFailsAt,
      e.1 = "discovery_fails_at" ∧ e.2.Writable :=
    of_optionalField fun n hn => writable_nat (h.discoveryFailsAt n hn) (by decide)
  refine .record ?_
  simp only [List.forall_mem_append, List.forall_mem_cons]
  exact ⟨fun e he => (hfails e he).2,
    writable_list fun i hi => ScenarioInstance.writable (h.instances i hi), nofun⟩

/-! ### Blocks -/

open Yaml (IsKey)

theorem Doc.Blockwise.text {s : String} (h : Yaml.style s = .plain) : (Doc.text s).Blockwise :=
  .scalar (.text h)

theorem Doc.Blockwise.int (n : Int) : (Doc.int n).Blockwise := .scalar (.int n)

theorem Doc.Blockwise.nat (n : Nat) : (Doc.nat n).Blockwise := .scalar (.int n)

theorem Doc.Blockwise.bool (b : Bool) : (Doc.bool b).Blockwise := .scalar (.bool b)

theorem blockwise_list {α : Type} {write : α → Doc} {as : List α} (h : ∀ a ∈ as, (write a).Blockwise)
    (hlist : ∀ a ds, write a ≠ .list ds) : (Doc.list (as.map write)).Blockwise := by
  cases as with
  | nil => exact .nothing
  | cons a as =>
    exact .list (List.cons_ne_nil _ _) (List.forall_mem_map.2 fun a _ => hlist a)
      (List.forall_mem_map.2 h)

/-- A record whose entries are all fields. -/
theorem blockwise_record (fields : List Field) (hfields : ∀ f ∈ fields, IsKey f.name)
    {entries : List (String × Doc)} (hnames : ∀ e ∈ entries, e.1 ∈ fields.map (·.name))
    (hne : entries ≠ []) (h : ∀ e ∈ entries, e.2.Blockwise) : (Doc.record entries).Blockwise := by
  refine .record hne (fun e he => ?_) h
  obtain ⟨f, hf, hname⟩ := List.mem_map.1 (hnames e he)
  exact hname ▸ hfields f hf

theorem MemoryUsage.blockwise (u : MemoryUsage) : u.encode.Blockwise :=
  blockwise_record fields (by decide) (by simp [fields]) (List.cons_ne_nil _ _)
    (by simp [Doc.Blockwise.int])

theorem GcSample.blockwise {g : GcSample} (h : Yaml.style g.name = .plain) : g.encode.Blockwise :=
  blockwise_record (plainFields ["name", "time_ms", "count"]) (by decide)
    (by simp [plainFields]) (List.cons_ne_nil _ _) (by simp [Doc.Blockwise.int, Doc.Blockwise.text h])

theorem ScenarioThread.blockwise {t : ScenarioThread} (hname : Yaml.style t.name = .plain)
    (hstate : Yaml.style t.state = .plain) : t.encode.Blockwise :=
  blockwise_record (plainFields ["id", "name", "state", "cpu_time_ns", "lock_owner_id"])
    (by decide) (by simp [plainFields]) (List.cons_ne_nil _ _)
    (by simp [Doc.Blockwise.int, Doc.Blockwise.text hname, Doc.Blockwise.text hstate])

/-- No text of a sample needs quotes. -/
structure Sample.Bare (x : Sample) : Prop where
  gc : ∀ g ∈ x.gc, Yaml.style g.name = .plain
  threads : ∀ t ∈ x.threads, Yaml.style t.name = .plain ∧ Yaml.style t.state = .plain
  brokenAttributes : ∀ s ∈ x.brokenAttributes, Yaml.style s = .plain

theorem Sample.blockwise {x : Sample} (h : x.Bare) : x.encode.Blockwise := by
  have hints (o : Option Int) : (Doc.optional .int o).Blockwise :=
    of_optional (.scalar .null) fun n _ => .int n
  have hlists (o : Option (List Int)) :
      (Doc.optional (fun ids => .list (ids.map .int)) o).Blockwise :=
    of_optional (.scalar .null) fun ids _ => blockwise_list (fun n _ => .int n) nofun
  refine blockwise_record fields (by decide) (by simp [fields, plainFields])
    (List.cons_ne_nil _ _) ?_
  simp only [List.forall_mem_cons]
  exact ⟨.int _, .int _, blockwise_list (fun g hg => GcSample.blockwise (h.gc g hg)) nofun,
    x.heap.blockwise, x.nonHeap.blockwise, .int _, hints _, hints _, hints _,
    blockwise_list (fun t ht => ScenarioThread.blockwise (h.threads t ht).1 (h.threads t ht).2) nofun,
    hlists _, hlists _, .bool _, .bool _,
    blockwise_list (fun s hs => .text (h.brokenAttributes s hs)) nofun, nofun⟩

/-- No text of an instance needs quotes, and it has properties, but no endpoint of its own. -/
structure ScenarioInstance.Bare (i : ScenarioInstance) : Prop where
  displayName : Yaml.style i.displayName = .plain
  endpoint : i.endpoint = none
  ne_nil : i.systemProperties ≠ []
  systemProperties : ∀ e ∈ i.systemProperties, IsKey e.1 ∧ Yaml.style e.2 = .plain
  inputArguments : ∀ s ∈ i.inputArguments, Yaml.style s = .plain
  samples : ∀ x ∈ i.samples, x.Bare

theorem ConnectOutcome.style_name (o : ConnectOutcome) : Yaml.style o.name = .plain := by
  cases o <;> decide

theorem ScenarioInstance.blockwise {i : ScenarioInstance} (h : i.Bare) : i.encode.Blockwise := by
  have hvanishes : ∀ e ∈ optionalField "vanishes_at" Doc.nat i.vanishesAt,
      e.1 = "vanishes_at" ∧ e.2.Blockwise :=
    of_optionalField fun n _ => .nat n
  have hproperties : (Doc.record (i.systemProperties.map fun e => (e.1, .text e.2))).Blockwise :=
    .record (by simpa using h.ne_nil)
      (List.forall_mem_map.2 fun e he => (h.systemProperties e he).1)
      (List.forall_mem_map.2 fun e he => .text (h.systemProperties e he).2)
  refine blockwise_record fields (by decide) ?_ (by simp) ?_
  · simp only [h.endpoint, List.forall_mem_append, List.forall_mem_cons]
    refine ⟨⟨⟨⟨?_, nofun⟩, ?_⟩, fun e he => (hvanishes e he).1 ▸ ?_⟩, ?_⟩ <;> simp [fields, plainFields]
  · have harguments : (Doc.list (i.inputArguments.map .text)).Blockwise :=
      blockwise_list (fun s hs => .text (h.inputArguments s hs)) nofun
    have hsamples : (Doc.list (i.samples.map Sample.encode)).Blockwise :=
      blockwise_list (fun x hx => Sample.blockwise (h.samples x hx)) fun _ => Doc.record_ne_list _
    simp only [List.forall_mem_append, List.forall_mem_cons]
    refine ⟨⟨⟨⟨⟨.nat _, .text h.displayName, .bool _, nofun⟩, ?_⟩,
      .text i.connect.style_name, .nat _, nofun⟩, fun e he => (hvanishes e he).2⟩,
      .int _, hproperties, harguments, .bool _, .bool _, hsamples, nofun⟩
    rw [h.endpoint]
    exact nofun

end VmMonitor
