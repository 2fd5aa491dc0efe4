import VmMonitor.Peer

/-!
# Telemetry of a runtime

What the platform's management objects say, under the names and types they say it by. The same
readings work on a bare connection and on a cache around it.
-/

namespace VmMonitor.Source

variable {σ : Type} (src : Source σ)

def long (object : ObjectName) (name : String) : Exchange σ Int := do
  ofExcept ((← src.ask (.single object name)).asLong name)

def bool (object : ObjectName) (name : String) : Exchange σ Bool := do
  ofExcept ((← src.ask (.single object name)).asBool name)

def usage (object : ObjectName) (name : String) : Exchange σ MemoryUsage := do
  ofExcept ((← src.ask (.single object name)).asUsage name)

/-! ### Runtime and operating system -/

def uptime : Exchange σ Int := src.long .runtime "Uptime"

def inputArguments : Exchange σ (List String) := do
  ofExcept ((← src.ask (.single .runtime "InputArguments")).asTexts "InputArguments")

def systemProperties : Exchange σ Properties := do
  ofExcept ((← src.ask (.single .runtime "SystemProperties")).asProperties "SystemProperties")

def availableProcessors : Exchange σ Int := src.long .operatingSystem "AvailableProcessors"

def processCpuTime : Exchange σ Int := src.long .operatingSystem "ProcessCpuTime"

/-! ### Memory and classes -/

def heap : Exchange σ MemoryUsage := src.usage .memory "HeapMemoryUsage"

def nonHeap : Exchange σ MemoryUsage := src.usage .memory "NonHeapMemoryUsage"

def totalLoadedClasses : Exchange σ Int := src.long .classLoading "TotalLoadedClassCount"

/-! ### Threads -/

def threadCount : Exchange σ Int := src.long .threading "ThreadCount"

def peakThreadCount : Exchange σ Int := src.long .threading "PeakThreadCount"

def totalStartedThreads : Exchange σ Int := src.long .threading "TotalStartedThreadCount"

/-- All thread ids; null is an empty list. -/
def threadIds : Exchange σ (List Int) := do
  let ids ← ofExcept ((← src.ask (.single .threading "AllThreadIds")).asLongs? "AllThreadIds")
  return ids.getD []

def threadCpuTimeSupported : Exchange σ Bool := src.bool .threading "ThreadCpuTimeSupported"

def lockUsageSupported : Exchange σ Bool := src.bool .threading "SynchronizerUsageSupported"

/-- The CPU time of a thread in nanoseconds, `-1` if the thread is gone. -/
def threadCpuTime (tid : Int) : Exchange σ Int := do
  ofExcept ((← src.ask (.invoke .threading "getThreadCpuTime" [.long tid])).asLong
    "getThreadCpuTime")

/-- A thread, unless it is gone. -/
def threadInfo? (tid : Int) : Exchange σ (Option ThreadInfo) := do
  ofExcept ((← src.ask (.invoke .threading "getThreadInfo" [.long tid])).asThread? "getThreadInfo")

/-- The threads that wait for each other over locks of any kind. -/
def deadlockedThreads? : Exchange σ (Option (List Int)) := do
  ofExcept ((← src.ask (.invoke .threading "findDeadlockedThreads" [])).asLongs?
    "findDeadlockedThreads")

/-- The threads that wait for each other over monitors. -/
def monitorDeadlockedThreads? : Exchange σ (Option (List Int)) := do
  ofExcept ((← src.ask (.invoke .threading "findMonitorDeadlockedThreads" [])).asLongs?
    "findMonitorDeadlockedThreads")

/-! ### Garbage collectors -/

def garbageCollectors : Exchange σ (List ObjectName) := src.ask (.query .garbageCollectors)

def collectionTime (collector : ObjectName) : Exchange σ Int := src.long collector "CollectionTime"

def collectionCount (collector : ObjectName) : Exchange σ Int :=
  src.long collector "CollectionCount"

/-- Whether a name stands for a registered object. -/
def isRegistered (object : ObjectName) : Exchange σ Bool := do
  return !(← src.ask (.query object)).isEmpty

end VmMonitor.Source
