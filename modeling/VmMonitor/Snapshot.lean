import VmMonitor.Detail

/-!
# What was observed, as documents

Rows, runtimes and threads in the form in which other programs read them.
-/

namespace VmMonitor

/-- A table of texts. -/
def Properties.encode (p : Properties) : Doc := .record (p.map fun (k, s) => (k, .text s))

/-- The document of metrics. -/
def Metrics.encode (m : Metrics) : Doc := .record
  [("uptime_ms", .int m.uptimeMs), ("process_cpu_time_ns", .int m.processCpuTimeNs),
    ("gc_time_ms", .int m.gcTimeMs), ("gc_count", .int m.gcCount), ("heap", m.heap.encode),
    ("non_heap", m.nonHeap.encode), ("loaded_class_count", .int m.loadedClasses),
    ("thread_count", .int m.threadCount), ("deadlocks_detected", .bool m.deadlocks),
    ("available_processors", .int m.processors), ("prev_uptime_ms", .int m.prevUptimeMs),
    ("prev_cpu_time_ns", .int m.prevCpuTimeNs), ("prev_gc_time_ms", .int m.prevGcTimeMs),
    ("delta_uptime_ms", .int m.deltaUptimeMs), ("delta_cpu_time_ms", .int m.deltaCpuTimeMs),
    ("delta_gc_time_ms", .int m.deltaGcTimeMs), ("cpu_load", .float m.cpuLoad),
    ("gc_load", .float m.gcLoad), ("update_error_count", .nat m.updateErrors)]

/-- The document of a row. -/
def InstanceRow.encode (r : InstanceRow) : Doc := .record
  [("id", .nat r.id), ("display_name", .text r.displayName), ("state", .text r.state.name),
    ("metrics", Metrics.encode r.metrics), ("vm_version", .optional .text r.vmVersion),
    ("os_user", .optional .text r.osUser)]

/-- The document of a runtime's constants. -/
def RuntimeInfo.encode (r : RuntimeInfo) : Doc := .record
  [("system_properties", r.systemProperties.encode),
    ("input_arguments", .list (r.inputArguments.map .text)), ("vm_version", .text r.vmVersion),
    ("os_user", .optional .text r.osUser), ("cpu_in_100ns", .bool r.cpuInHundredNanos)]

/-- The document of a thread. -/
def ThreadRow.encode (t : ThreadRow) : Doc := .record
  [("tid", .int t.tid), ("name", .text t.name), ("state", .text t.state),
    ("cpu_percent", .float t.cpuPercent), ("total_cpu_percent", .float t.totalCpuPercent),
    ("blocked_by", .optional .int t.blockedBy)]

/-- The document of the threads of a cycle. -/
def ThreadReport.encode (r : ThreadReport) : Doc := .record
  [("rows", .list (r.rows.map ThreadRow.encode)), ("truncated", .bool r.truncated),
    ("cpu_time_supported", .bool r.cpuTimeSupported)]

/-- The document of a report on one instance. -/
def DetailReport.encode (r : DetailReport) : Doc := .record
  [("row", r.row.encode), ("main_class", .optional .text r.mainClass),
    ("arguments", .list (r.arguments.map .text)),
    ("input_arguments", .list (r.inputArguments.map .text)),
    ("vendor", .optional .text r.vendor), ("vm_name", .optional .text r.vmName),
    ("java_version", .optional .text r.javaVersion),
    ("peak_thread_count", .int r.peakThreadCount),
    ("total_started_thread_count", .int r.totalStartedThreads),
    ("threads", r.threads.encode)]

end VmMonitor
