import Mathlib.Algebra.Ring.Int.Defs
import Mathlib.Data.List.Nodup
import Mathlib.Data.List.TakeWhile
import VmMonitor.Proofs.Instance.Update
import VmMonitor.Proofs.Number.Counter
import VmMonitor.Proofs.ObjectName
import VmMonitor.Proofs.Scenario.CachedReplay

/-!
# Reading a sound sample

A sample is intact if no request about it is made to fail: the process lives, and no attribute is
broken. It is sound if the names of its collectors tell them apart, too. A full reading over a
connection that serves a sound sample ends well and takes exactly this sample in, whatever was cached
of others before. Over one that serves an intact sample it does so as far as the collectors are answered
for, and takes in what answers.

## What is proved

* `Replay.serves`, `Source.Serves.cached` — who serves a sample, and that a cache makes no difference.
* `Replay.readValue_garbageCollector` — who answers for a collector.
* `Source.Serves.counters` — the complete set of counters that is read.
* `Source.Serves.sample_of_learned`, `Source.Serves.sample` — **a full reading** and what it makes of
  the metrics.
-/

namespace VmMonitor

open Exchange

/-! ### Units -/

namespace VersionLabel

/-- A text contains another one that is a piece of it. -/
theorem contains_iff {part cs : List Char} : contains part cs = true ↔ part <:+: cs := by
  induction cs with
  | nil => simp [contains]
  | cons c cs ih => simp [contains, List.infix_cons_iff, ih]

/-- The unit is a hundred nanoseconds just if the name of the runtime contains `J9`. -/
theorem countsHundredNanos_iff {p : Properties} : countsHundredNanos p = true ↔
    ∃ name, Table.get? "java.vm.name" p = some name ∧ ['J', '9'] <:+: name.toList := by
  simp only [countsHundredNanos]
  cases Table.get? "java.vm.name" p with
  | none => simp
  | some name => simp [contains_iff]

end VersionLabel

/-- The name of the runtime contains `J9`. -/
def ScenarioInstance.IsJ9 (i : ScenarioInstance) : Prop :=
  ∃ name, Table.get? "java.vm.name" i.systemProperties = some name ∧ ['J', '9'] <:+: name.toList

instance (i : ScenarioInstance) : Decidable i.IsJ9 :=
  decidable_of_iff _ VersionLabel.countsHundredNanos_iff

/-! ### Samples -/

/-- Nothing about the sample is made to fail. -/
structure Sample.Intact (s : Sample) : Prop where
  answers : s.fail = false
  lives : s.dead = false
  whole : s.brokenAttributes = []

/-- Every request about the sample is answered. -/
structure Sample.Sound (s : Sample) : Prop where
  answers : s.fail = false
  lives : s.dead = false
  whole : s.brokenAttributes = []
  distinct : (s.gc.map (·.name)).Nodup
  commaFree : ∀ g ∈ s.gc, ',' ∉ g.name.toList

/-- The collector that answers for a name: the first one that is called what stands before the first
comma of the name. -/
def Sample.answering? (s : Sample) (name : String) : Option GcSample :=
  s.gc.find? fun g => g.name = String.ofList (name.toList.takeWhile (· ≠ ','))

/-- Each collector of the sample is answered for by one of `gs`, in their order. -/
def Sample.AnsweredBy (s : Sample) (gs : List GcSample) : Prop :=
  List.Forall₂ (fun g g' => s.answering? g.name = some g') s.gc gs

namespace Sample.Sound

variable {s : Sample}

theorem intact (h : s.Sound) : s.Intact := ⟨h.answers, h.lives, h.whole⟩

/-- A collector answers for itself. -/
theorem answering?_name (h : s.Sound) {g : GcSample} (hg : g ∈ s.gc) :
    s.answering? g.name = some g := by
  have hname : String.ofList (g.name.toList.takeWhile (· ≠ ',')) = g.name := by
    rw [List.takeWhile_eq_self_iff.2 fun c hc => ?_, String.ofList_toList]
    refine decide_eq_true fun heq => h.commaFree g hg (heq ▸ hc)
  rw [answering?, hname]
  cases hf : s.gc.find? fun g' => g'.name = g.name with
  | none => simpa using List.find?_eq_none.1 hf g hg
  | some g' =>
    have heq : g'.name = g.name := by simpa using List.find?_some hf
    rw [List.inj_on_of_nodup_map h.distinct (List.mem_of_find?_eq_some hf) hg heq]

theorem answeredBy (h : s.Sound) : s.AnsweredBy s.gc :=
  List.forall₂_same.2 fun _ hg => h.answering?_name hg

end Sample.Sound

/-- The time that all collectors took. -/
def Sample.gcTimeMs (s : Sample) : Int := s.gc.foldl (fun t g => t + g.timeMs) 0

/-- How often all collectors ran. -/
def Sample.gcCount (s : Sample) : Int := s.gc.foldl (fun n g => n + g.count) 0

theorem Sample.sum_timeMs (s : Sample) : (s.gc.map (·.timeMs)).sum = s.gcTimeMs := by
  rw [gcTimeMs, List.sum_eq_foldl, List.foldl_map]

theorem Sample.sum_count (s : Sample) : (s.gc.map (·.count)).sum = s.gcCount := by
  rw [gcCount, List.sum_eq_foldl, List.foldl_map]

/-- Whether a thread waits in a deadlock: over locks of any kind, if they can be asked for, or over
monitors. -/
def Sample.hasDeadlock (lockUsage : Bool) (s : Sample) : Bool :=
  (lockUsage && s.deadlocked.any fun ids => !ids.isEmpty) ||
    s.monitorDeadlocked.any fun ids => !ids.isEmpty

namespace ScenarioInstance

/-- The counters of a sample, as 64 bits keep them. The CPU time is given in the unit of the runtime,
which is a hundred nanoseconds for a J9 and one for any other. -/
def raw (i : ScenarioInstance) (s : Sample) : RawSample where
  uptimeMs := s.uptimeMs
  cpuTimeNs := if i.IsJ9 then Counter.mul s.cpuTimeNs 100 else s.cpuTimeNs
  gcTimeMs := Counter.wrap s.gcTimeMs

theorem raw_eq (i : ScenarioInstance) (s : Sample) : i.raw s =
    { uptimeMs := s.uptimeMs
      cpuTimeNs := if VersionLabel.countsHundredNanos i.systemProperties then
          Counter.mul s.cpuTimeNs 100
        else s.cpuTimeNs
      gcTimeMs := Counter.wrap s.gcTimeMs } := by
  have hunit : (if i.IsJ9 then Counter.mul s.cpuTimeNs 100 else s.cpuTimeNs) =
      if VersionLabel.countsHundredNanos i.systemProperties then Counter.mul s.cpuTimeNs 100
      else s.cpuTimeNs := if_congr VersionLabel.countsHundredNanos_iff.symm rfl rfl
  rw [raw, hunit]

/-- The metrics with what a sample says beside its counters. -/
def dress (i : ScenarioInstance) (s : Sample) (m : Metrics) : Metrics :=
  { m with
    gcCount := Counter.wrap s.gcCount
    heap := s.heap
    nonHeap := s.nonHeap
    loadedClasses := s.loadedClasses
    threadCount := s.threadTotal
    deadlocks := s.hasDeadlock i.lockUsageSupported }

/-- What a full reading of a sample makes of the metrics. -/
def take (i : ScenarioInstance) (s : Sample) (m : Metrics) : Metrics :=
  i.dress s (m.apply (i.raw s) i.processors)

/-- What is read of the sample, when its collectors are answered for by `gs`. -/
def counters (i : ScenarioInstance) (s : Sample) (gs : List GcSample) (hundred : Bool) :
    Gauges.Counters where
  processors := i.processors
  sample := {
    uptimeMs := s.uptimeMs
    cpuTimeNs := if hundred then Counter.mul s.cpuTimeNs 100 else s.cpuTimeNs
    gcTimeMs := Counter.wrap (gs.map (·.timeMs)).sum }
  gcCount := Counter.wrap (gs.map (·.count)).sum
  heap := s.heap
  nonHeap := s.nonHeap

/-- What a full reading of the sample makes of the metrics, when its collectors are answered for by
`gs`. -/
def takeAnswered (i : ScenarioInstance) (s : Sample) (gs : List GcSample) (hundred lockUsage : Bool)
    (m : Metrics) : Metrics :=
  { Gauges.takeCounters m (i.counters s gs hundred) with
    loadedClasses := s.loadedClasses
    threadCount := s.threadTotal
    deadlocks := s.hasDeadlock lockUsage }

/-- When each collector answers for itself, the sample is taken in as it is. -/
theorem takeAnswered_gc (i : ScenarioInstance) (s : Sample) (m : Metrics) :
    i.takeAnswered s s.gc (VersionLabel.countsHundredNanos i.systemProperties) i.lockUsageSupported m =
      i.take s m := by
  have hcounters : i.counters s s.gc (VersionLabel.countsHundredNanos i.systemProperties) =
      ⟨i.processors, i.raw s, Counter.wrap s.gcCount, s.heap, s.nonHeap⟩ := by
    rw [counters, s.sum_timeMs, s.sum_count, i.raw_eq]
  rw [takeAnswered, hcounters]
  rfl

end ScenarioInstance

/-- The metrics are `m`, and `R` holds of the constants. -/
def Gauges.Has (m : Metrics) (R : Option RuntimeInfo → Prop) (g : Gauges) : Prop :=
  g.metrics = m ∧ R g.runtime

/-- The metrics are `m`, and the unit of the CPU time is right if it was learned. -/
def Gauges.Knows (i : ScenarioInstance) (m : Metrics) (g : Gauges) : Prop :=
  g.metrics = m ∧ ∀ info, g.runtime = some info →
    info.cpuInHundredNanos = VersionLabel.countsHundredNanos i.systemProperties

/-! ### What is answered -/

/-- In a state with `P` requests are answered from the sample `s` of the instance `i`, and leave such a
state. -/
structure Source.Serves {σ : Type} (src : Source σ) (P : σ → Prop) (i : ScenarioInstance)
    (s : Sample) : Prop where
  single : ∀ {o n v}, Replay.readValue i s o n = .ok v → Gives P (src.ask (.single o n)) v P
  query : ∀ p, Gives P (src.ask (.query p)) ((Replay.registeredNames s).filter p.isMatch) P
  invoke : ∀ {o operation params v}, Replay.invoke s o operation params = .ok v →
    Gives P (src.ask (.invoke o operation params)) v P

namespace Replay

variable {i : ScenarioInstance} {s : Sample} {cycle : Nat}

theorem current_of_intact (hvisible : i.isVisible cycle) (hs : (i.sampleAt cycle).Intact)
    {x : ReplayConnection} (htarget : x.target = i) (hopen : x.closed = false) :
    current x cycle = .ok (i.sampleAt cycle) := by
  subst htarget
  simp [current, hopen, hvisible, hs.answers]

/-- An open connection serves the sample of the cycle. -/
theorem serves (c : ConnectionId) (hvisible : i.isVisible cycle) (hs : (i.sampleAt cycle).Intact) :
    (transport.source c).Serves (Holds c i cycle) i (i.sampleAt cycle) := by
  have hgives (r : Request) {a : r.Answer}
      (ha : ∀ x : ReplayConnection, x.target = i → x.closed = false → answer x cycle r = .ok a) :
      Gives (Holds c i cycle) ((transport.source c).ask r) a (Holds c i cycle) := by
    rintro w ⟨hclock, x, hx, htarget, hopen⟩
    refine ⟨{ w with stats := ReplayStats.count w.stats r }, ?_, hclock, x, hx, htarget, hopen⟩
    rw [run_ask hx, hclock, ha x htarget hopen]
  refine ⟨fun hv => hgives _ fun x htarget hopen => ?_, fun p => hgives _ fun x htarget hopen => ?_,
    fun hv => hgives _ fun x htarget hopen => ?_⟩
  · rw [answer, current_of_intact hvisible hs htarget hopen, htarget]
    exact hv
  · rw [answer, current_of_intact hvisible hs htarget hopen]
    rfl
  · rw [answer, current_of_intact hvisible hs htarget hopen]
    exact hv

/-- What the platform's own objects say is read. -/
theorem readValue_of_platform (hs : s.Intact) {o : ObjectName} {n : String} {v : AttributeValue}
    (h : platformValue i s o n = some (some v)) : readValue i s o n = .ok v := by
  simp [readValue, hs.whole, h]

/-- What is asked of a collector is answered by the one that answers for its name. -/
theorem readValue_garbageCollector (hs : s.Intact) (name n : String) :
    readValue i s (.garbageCollector name) n =
      match s.answering? name with
      | none => .error (.notRegistered (.garbageCollector name))
      | some g =>
        match collectorValue g n with
        | some v => .ok v
        | none => .error (.unreadable (.garbageCollector name) n "no such attribute") := by
  obtain ⟨h₁, h₂, h₃, h₄, h₅⟩ := ObjectName.garbageCollector_ne name
  have hplatform : platformValue i s (.garbageCollector name) n = none := by
    simp [platformValue, h₁, h₂, h₃, h₄, h₅]
  have hname : collectorName? (.garbageCollector name) =
      some (String.ofList (name.toList.takeWhile (· ≠ ','))) := by
    rw [collectorName?, ObjectName.keyProperty?_type, ObjectName.keyProperty?_name]
    exact if_pos ⟨rfl, rfl⟩
  have hfind : (collectorName? (.garbageCollector name)).bind (fun gc =>
      s.gc.find? fun g => g.name = gc) = s.answering? name := by
    rw [hname]
    rfl
  simp only [readValue, hs.whole, hplatform, hfind]
  cases s.answering? name with
  | none => rfl
  | some g => cases hv : collectorValue g n <;> simp [hv]

/-- The collectors are listed in their order. -/
theorem registered_collectors (s : Sample) :
    (registeredNames s).filter ObjectName.garbageCollectors.isMatch =
      s.gc.map fun g => .garbageCollector g.name := by
  have hown : ([.memory, .runtime, .threading, .classLoading, .operatingSystem] : List ObjectName).filter
      ObjectName.garbageCollectors.isMatch = [] := by decide
  rw [registeredNames, List.filter_append, hown, List.nil_append, List.filter_eq_self]
  intro o ho
  obtain ⟨g, -, rfl⟩ := List.mem_map.1 ho
  exact ObjectName.isMatch_garbageCollectors g.name

end Replay

namespace Source.Serves

variable {σ : Type} {src : Source σ} {P : σ → Prop} {i : ScenarioInstance} {s : Sample}

/-- A cache around a source that tells the sample's values makes no difference. -/
theorem cached (h : src.Serves P i s) {value : Readable} (ht : src.Tells P value)
    (hvalue : ∀ o n v, Replay.readValue i s o n = .ok v → value o n = some v) :
    (Cache.source src).Serves (fun x => Cache.Coherent value x.1 ∧ P x.2) i s where
  single {o n v} hv x hx := by
    have hresult := (ht.cached.single hx o n v).2 (hvalue o n v hv)
    have hkeeps := ht.cached.keeps (.single o n) x hx
    rcases hrun : ((Cache.source src).ask (.single o n)).run x with ⟨result, x'⟩
    rw [hrun] at hresult hkeeps
    exact ⟨x', by rw [← hresult], hkeeps⟩
  query p := (h.query p).beside (Cache.Coherent value)
  invoke hv := (h.invoke hv).beside (Cache.Coherent value)

/-- An open connection serves the sample of the cycle through a cache, too. -/
theorem cached_replay (c : ConnectionId) {cycle : Nat} (hvisible : i.isVisible cycle)
    (hs : (i.sampleAt cycle).Intact) :
    (Cache.source (Replay.transport.source c)).Serves
      (fun x => Cache.Coherent (Replay.readable i cycle) x.1 ∧ Replay.Holds c i cycle x.2) i
      (i.sampleAt cycle) := by
  refine (Replay.serves c hvisible hs).cached (Replay.tells c i cycle) fun o n v hv => ?_
  rw [Replay.readable, Replay.current_of_intact hvisible hs rfl rfl]
  exact Replay.toOption_eq_some_iff.2 hv

/-! ### Single readings -/

variable (h : src.Serves P i s)
include h

theorem long {o : ObjectName} {n : String} {v : Int} (hv : Replay.readValue i s o n = .ok (.long v)) :
    Gives P (src.long o n) v P := (h.single hv).bind (.ofExcept rfl)

theorem usage {o : ObjectName} {n : String} {v : MemoryUsage}
    (hv : Replay.readValue i s o n = .ok (.usage v)) : Gives P (src.usage o n) v P :=
  (h.single hv).bind (.ofExcept rfl)

/-- Whether locks of any kind can be asked for. -/
theorem lockUsageSupported (hs : s.Intact) :
    Gives P src.lockUsageSupported i.lockUsageSupported P :=
  (h.single (Replay.readValue_of_platform hs rfl)).bind (.ofExcept rfl)

theorem isRegistered_threading : Gives P (src.isRegistered .threading) true P := by
  have hmem : ObjectName.threading ∈ (Replay.registeredNames s).filter ObjectName.threading.isMatch := by
    refine List.mem_filter.2 ⟨?_, by decide⟩
    simp [Replay.registeredNames]
  have hne : (!((Replay.registeredNames s).filter ObjectName.threading.isMatch).isEmpty) = true := by
    simpa [List.isEmpty_iff] using List.ne_nil_of_mem hmem
  have hgives : Gives P (src.isRegistered .threading)
      (!((Replay.registeredNames s).filter ObjectName.threading.isMatch).isEmpty) P :=
    (h.query .threading).bind (.pure _)
  rwa [hne] at hgives

/-- A fresh connection is of use. -/
theorem probe (hs : s.Intact) : Gives P (Session.probe src) i.lockUsageSupported P :=
  h.isRegistered_threading.bind ((h.lockUsageSupported hs).tryCatch _)

theorem fetch (hs : s.Intact) : ∃ info : RuntimeInfo,
    info.cpuInHundredNanos = VersionLabel.countsHundredNanos i.systemProperties ∧
    Gives P (RuntimeInfo.fetch src) info P := by
  refine ⟨{
    systemProperties := i.systemProperties
    inputArguments := i.inputArguments
    vmVersion := VersionLabel.shortOf i.systemProperties
    osUser := Table.get? "user.name" i.systemProperties
    cpuInHundredNanos := VersionLabel.countsHundredNanos i.systemProperties }, rfl, ?_⟩
  have hproperties : Gives P src.systemProperties i.systemProperties P :=
    (h.single (Replay.readValue_of_platform hs rfl)).bind (.ofExcept rfl)
  have harguments : Gives P src.inputArguments i.inputArguments P :=
    (h.single (Replay.readValue_of_platform hs rfl)).bind (.ofExcept rfl)
  exact hproperties.bind (harguments.bind (.pure _))

/-! ### Counters -/

/-- The totals over some of the collectors are those over the ones that answer for them. -/
theorem collections (hs : s.Intact) {cs gs : List GcSample}
    (hgs : List.Forall₂ (fun c g => s.answering? c.name = some g) cs gs) (time count : Int) :
    Gives P (Gauges.collections src (cs.map fun c => .garbageCollector c.name)
        (Counter.wrap time, Counter.wrap count))
      (Counter.wrap (time + (gs.map (·.timeMs)).sum), Counter.wrap (count + (gs.map (·.count)).sum))
      P := by
  induction hgs generalizing time count with
  | nil =>
    simp only [List.map_nil, List.sum_nil, Int.add_zero]
    exact .pure _
  | @cons c g cs gs hg _ ih =>
    have hread (n : String) {v : AttributeValue} (hv : Replay.collectorValue g n = some v) :
        Replay.readValue i s (.garbageCollector c.name) n = .ok v := by
      rw [Replay.readValue_garbageCollector hs, hg]
      simp only [hv]
    have htime : Gives P (src.collectionTime (.garbageCollector c.name)) g.timeMs P :=
      h.long (hread _ rfl)
    have hcount : Gives P (src.collectionCount (.garbageCollector c.name)) g.count P :=
      h.long (hread _ rfl)
    simp only [List.map_cons, List.sum_cons, ← Int.add_assoc]
    refine htime.bind (hcount.bind ?_)
    rw [Counter.wrap_add_wrap, Counter.wrap_add_wrap]
    exact ih _ _

/-- **The counters** of the sample are read, with the totals over the collectors that answer, and the
CPU time in either unit. -/
theorem counters (hs : s.Intact) {gs : List GcSample} (hgs : s.AnsweredBy gs) (hundred : Bool) :
    Gives P (Gauges.readCounters src hundred) (i.counters s gs hundred) P := by
  have hread {o : ObjectName} {n : String} {v : AttributeValue}
      (hv : Replay.platformValue i s o n = some (some v)) : Replay.readValue i s o n = .ok v :=
    Replay.readValue_of_platform hs hv
  have hprocessors : Gives P src.availableProcessors i.processors P := h.long (hread rfl)
  have huptime : Gives P src.uptime s.uptimeMs P := h.long (hread rfl)
  have hcpu : Gives P src.processCpuTime s.cpuTimeNs P := h.long (hread rfl)
  have hnames : Gives P src.garbageCollectors (s.gc.map fun g => .garbageCollector g.name) P := by
    have hquery := h.query .garbageCollectors
    rwa [Replay.registered_collectors] at hquery
  have hgc := h.collections hs hgs 0 0
  rw [Int.zero_add, Int.zero_add, Counter.wrap_zero] at hgc
  have hheap : Gives P src.heap s.heap P := h.usage (hread rfl)
  have hnonHeap : Gives P src.nonHeap s.nonHeap P := h.usage (hread rfl)
  exact hprocessors.bind (huptime.bind (hcpu.bind (hnames.bind (hgc.bind (hheap.bind
    (hnonHeap.bind (.pure _)))))))

/-- The lists of deadlocked threads that are asked for. -/
theorem deadlocks (lockUsage : Bool) :
    Gives P (Gauges.readDeadlocks src lockUsage) (s.hasDeadlock lockUsage) P := by
  have hlocks : Gives P src.deadlockedThreads? s.deadlocked P := by
    refine (h.invoke (v := (s.deadlocked.elim .null .longs)) ?_).bind (.ofExcept ?_)
    · cases hd : s.deadlocked <;> simp [Replay.invoke, hd]
    · cases s.deadlocked <;> rfl
  have hmonitors : Gives P src.monitorDeadlockedThreads? s.monitorDeadlocked P := by
    refine (h.invoke (v := (s.monitorDeadlocked.elim .null .longs)) ?_).bind (.ofExcept ?_)
    · cases hd : s.monitorDeadlocked <;> simp [Replay.invoke, hd]
    · cases s.monitorDeadlocked <;> rfl
  cases lockUsage with
  | true => exact hlocks.bind (hmonitors.bind (.pure _))
  | false => exact (Gives.pure none).bind (hmonitors.bind (.pure _))

/-! ### A full reading -/

theorem learnRuntime (hs : s.Intact) (m : Metrics) :
    Gives (fun x => Gauges.Knows i m x.1 ∧ P x.2) (Gauges.learnRuntime src)
      (VersionLabel.countsHundredNanos i.systemProperties) fun x => Gauges.Knows i m x.1 ∧ P x.2 := by
  rintro ⟨g, w⟩ ⟨hg, hw⟩
  cases hr : g.runtime with
  | some info =>
    rw [Gauges.run_learnRuntime_of_some src hr, hg.2 info hr]
    exact ⟨(g, w), rfl, hg, hw⟩
  | none =>
    obtain ⟨info, hinfo, hfetch⟩ := h.fetch hs
    have hset := Gives.modify (P := P) (K := Gauges.Knows i m) (L := Gauges.Knows i m)
      (f := fun g => { g with runtime := some info })
      fun g hg => ⟨hg.1, fun info' heq => Option.some_inj.1 heq ▸ hinfo⟩
    have hlearned := hset.bind (f := fun _ => pure info.cpuInHundredNanos) (.pure _)
    rw [Gauges.run_learnRuntime_of_none src hr, ← hinfo]
    exact ((hfetch.beside _).bind hlearned) (g, w) ⟨hg, hw⟩

/-- Whatever was learned before, the constants are known after this. -/
theorem exists_learned (hs : s.Intact) (g : Gauges) : ∃ hundred,
    Gives (fun x => x.1 = g ∧ P x.2) (Gauges.learnRuntime src) hundred
      fun x => Gauges.Has g.metrics (fun _ => True) x.1 ∧ P x.2 := by
  cases hg : g.runtime with
  | some info =>
    refine ⟨info.cpuInHundredNanos, ?_⟩
    rintro ⟨g', w⟩ ⟨heq, hw⟩
    obtain rfl : g = g' := heq.symm
    exact ⟨_, Gauges.run_learnRuntime_of_some src hg w, ⟨rfl, trivial⟩, hw⟩
  | none =>
    refine ⟨VersionLabel.countsHundredNanos i.systemProperties, ?_⟩
    rintro ⟨g', w⟩ ⟨heq, hw⟩
    obtain rfl : g = g' := heq.symm
    obtain ⟨x, hrun, hknows, hP⟩ := h.learnRuntime hs g.metrics (g, w) ⟨⟨rfl, by simp [hg]⟩, hw⟩
    exact ⟨x, hrun, ⟨hknows.1, trivial⟩, hP⟩

/-- **A full reading**, with the totals over the collectors that answer: what follows the constants
is taken in. -/
theorem sample_of_learned (hs : s.Intact) {gs : List GcSample} (hgs : s.AnsweredBy gs)
    {K : Gauges → Prop} {R : Option RuntimeInfo → Prop} {m : Metrics} {hundred : Bool}
    (hlearn : Gives (fun x => K x.1 ∧ P x.2) (Gauges.learnRuntime src) hundred
      fun x => Gauges.Has m R x.1 ∧ P x.2) (lockUsage : Bool) :
    Gives (fun x => K x.1 ∧ P x.2) (Gauges.sample src lockUsage) ()
      fun x => Gauges.Has (i.takeAnswered s gs hundred lockUsage m) R x.1 ∧ P x.2 := by
  have hmodify {m : Metrics} (f : Metrics → Metrics) :
      Gives (fun x => Gauges.Has m R x.1 ∧ P x.2) (Gauges.modifyMetrics f) ()
        fun x => Gauges.Has (f m) R x.1 ∧ P x.2 :=
    Gives.modify (f := fun g : Gauges => { g with metrics := f g.metrics })
      fun g hg => ⟨congrArg f hg.1, hg.2⟩
  have hclasses : Gives P src.totalLoadedClasses s.loadedClasses P :=
    h.long (Replay.readValue_of_platform hs rfl)
  have hthreads : Gives P src.threadCount s.threadTotal P :=
    h.long (Replay.readValue_of_platform hs rfl)
  refine hlearn.bind ?_
  refine ((h.counters hs hgs hundred).beside _).bind ((hmodify _).bind ?_)
  refine (hclasses.beside _).bind ((hmodify _).bind ?_)
  refine (hthreads.beside _).bind ((hmodify _).bind ?_)
  exact ((h.deadlocks lockUsage).beside _).bind (hmodify _)

/-- **A full reading** of a sound sample takes it in. -/
theorem sample (hs : s.Sound) (m : Metrics) :
    Gives (fun x => Gauges.Knows i m x.1 ∧ P x.2) (Gauges.sample src i.lockUsageSupported) ()
      fun x => Gauges.Knows i (i.take s m) x.1 ∧ P x.2 := by
  rw [← i.takeAnswered_gc]
  exact h.sample_of_learned (R := fun r => ∀ info, r = some info →
    info.cpuInHundredNanos = VersionLabel.countsHundredNanos i.systemProperties)
    hs.intact hs.answeredBy (h.learnRuntime hs.intact m) _

end Source.Serves

end VmMonitor
