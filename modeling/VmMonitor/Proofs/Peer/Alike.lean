import VmMonitor.Instance
import VmMonitor.Proofs.Peer.Cache

/-!
# Peers that answer alike

Two sources answer alike under a relation of their states when every request, asked in related
states, gets the same answer from both and leaves the states related. Nothing that is read through
requests can tell such sources apart.

## What is proved

* `Source.Alike.cached` — caches around sources that answer alike answer alike.
* `Source.Alike.sample` — a full reading gives the same result over both, takes the same values in
  and keeps the relation.

The relation is free. One that equates the state of a peer with what is left of it when a record of
its traffic is dropped says that the record does not disturb; one that also bounds the record says
what a reading may send.
-/

namespace VmMonitor

open Exchange

variable {σ τ : Type} {R : σ → τ → Prop}

namespace Gauges

variable (src : Source σ) {g : Gauges}

theorem run_learnRuntime_of_some {info : RuntimeInfo} (h : g.runtime = some info) (s : σ) :
    (learnRuntime src).run (g, s) = (.ok info.cpuInHundredNanos, g, s) := by
  have hget : (get : Exchange (Gauges × σ) (Gauges × σ)).run (g, s) = (.ok (g, s), g, s) := rfl
  simp only [learnRuntime, run_bind, hget, h]
  rfl

/-- The first reading takes the constants in. -/
theorem run_learnRuntime_of_none (h : g.runtime = none) (s : σ) :
    (learnRuntime src).run (g, s) =
      ((RuntimeInfo.fetch src).beside Gauges >>= fun info => do
        modify fun (g, s) => ({ g with runtime := some info }, s)
        return info.cpuInHundredNanos : Exchange (Gauges × σ) Bool).run (g, s) := by
  have hget : (get : Exchange (Gauges × σ) (Gauges × σ)).run (g, s) = (.ok (g, s), g, s) := rfl
  simp only [learnRuntime, run_bind, hget, h]

end Gauges

/-- Every request gets the same answer from both sources. -/
def Source.Alike (R : σ → τ → Prop) (src : Source σ) (src' : Source τ) : Prop :=
  ∀ r, (src.ask r).Alike R (src'.ask r)

namespace Source.Alike

variable {src : Source σ} {src' : Source τ}

/-! ### Single readings -/

theorem long (h : src.Alike R src') (o : ObjectName) (n : String) :
    (src.long o n).Alike R (src'.long o n) := (h (.single o n)).bind fun _ => .ofExcept _

theorem bool (h : src.Alike R src') (o : ObjectName) (n : String) :
    (src.bool o n).Alike R (src'.bool o n) := (h (.single o n)).bind fun _ => .ofExcept _

theorem usage (h : src.Alike R src') (o : ObjectName) (n : String) :
    (src.usage o n).Alike R (src'.usage o n) := (h (.single o n)).bind fun _ => .ofExcept _

theorem isRegistered (h : src.Alike R src') (o : ObjectName) :
    (src.isRegistered o).Alike R (src'.isRegistered o) := (h (.query o)).bind fun _ => .pure _

theorem deadlockedThreads? (h : src.Alike R src') :
    src.deadlockedThreads?.Alike R src'.deadlockedThreads? := (h _).bind fun _ => .ofExcept _

theorem monitorDeadlockedThreads? (h : src.Alike R src') :
    src.monitorDeadlockedThreads?.Alike R src'.monitorDeadlockedThreads? :=
  (h _).bind fun _ => .ofExcept _

/-- What a fresh connection is asked before it is of use. -/
theorem probe (h : src.Alike R src') : (Session.probe src).Alike R (Session.probe src') := by
  refine (h.isRegistered .threading).bind fun registered => ?_
  cases registered with
  | true => exact (h.bool _ _).tryCatch fun _ => .pure false
  | false => exact .throw _

theorem fetch (h : src.Alike R src') : (RuntimeInfo.fetch src).Alike R (RuntimeInfo.fetch src') := by
  have hp : src.systemProperties.Alike R src'.systemProperties := (h _).bind fun _ => .ofExcept _
  have ha : src.inputArguments.Alike R src'.inputArguments := (h _).bind fun _ => .ofExcept _
  exact hp.bind fun _ => ha.bind fun _ => .pure _

/-! ### A full reading -/

theorem collections (h : src.Alike R src') (cs : List ObjectName) (totals : Int × Int) :
    (Gauges.collections src cs totals).Alike R (Gauges.collections src' cs totals) := by
  induction cs generalizing totals with
  | nil => exact .pure _
  | cons c cs ih => exact (h.long c _).bind fun _ => (h.long c _).bind fun _ => ih _

theorem readCounters (h : src.Alike R src') (hundred : Bool) :
    (Gauges.readCounters src hundred).Alike R (Gauges.readCounters src' hundred) :=
  (h.long _ _).bind fun _ => (h.long _ _).bind fun _ => (h.long _ _).bind fun _ =>
    (h (.query .garbageCollectors)).bind fun _ => (h.collections _ _).bind fun _ =>
      (h.usage _ _).bind fun _ => (h.usage _ _).bind fun _ => .pure _

theorem readDeadlocks (h : src.Alike R src') (lockUsage : Bool) :
    (Gauges.readDeadlocks src lockUsage).Alike R (Gauges.readDeadlocks src' lockUsage) := by
  cases lockUsage with
  | true => exact h.deadlockedThreads?.bind fun _ => h.monitorDeadlockedThreads?.bind fun _ => .pure _
  | false =>
    exact (Exchange.Alike.pure none).bind fun _ => h.monitorDeadlockedThreads?.bind fun _ => .pure _

theorem learnRuntime (h : src.Alike R src') :
    (Gauges.learnRuntime src).Alike (Beside R) (Gauges.learnRuntime src') := by
  rintro ⟨g, s⟩ ⟨g', u⟩ ⟨hg, hsu⟩
  obtain rfl : g = g' := hg
  cases hr : g.runtime with
  | some info =>
    rw [Gauges.run_learnRuntime_of_some src hr, Gauges.run_learnRuntime_of_some src' hr]
    exact ⟨rfl, rfl, hsu⟩
  | none =>
    rw [Gauges.run_learnRuntime_of_none src hr, Gauges.run_learnRuntime_of_none src' hr]
    have hset (info : RuntimeInfo) :=
      Exchange.Alike.modify (R := R) fun g : Gauges => { g with runtime := some info }
    exact (h.fetch.beside Gauges).bind (fun info => (hset info).bind fun _ => .pure _) _ _ ⟨rfl, hsu⟩

theorem modifyMetrics (f : Metrics → Metrics) :
    (Gauges.modifyMetrics f : Exchange (Gauges × σ) Unit).Alike (Beside R)
      (Gauges.modifyMetrics f : Exchange (Gauges × τ) Unit) :=
  Exchange.Alike.modify fun g : Gauges => { g with metrics := f g.metrics }

theorem sample (h : src.Alike R src') (lockUsage : Bool) :
    (Gauges.sample src lockUsage).Alike (Beside R) (Gauges.sample src' lockUsage) :=
  h.learnRuntime.bind fun _ => ((h.readCounters _).beside _).bind fun _ =>
    (modifyMetrics _).bind fun _ => ((h.long _ _).beside _).bind fun _ =>
    (modifyMetrics _).bind fun _ => ((h.long _ _).beside _).bind fun _ =>
    (modifyMetrics _).bind fun _ => ((h.readDeadlocks _).beside _).bind fun _ => modifyMetrics _

/-! ### Through a cache -/

theorem lookup (h : src.Alike R src') (o : ObjectName) (ns : List String) :
    (Cache.lookup src o ns).Alike (Beside R) (Cache.lookup src' o ns) := by
  rintro ⟨c, s⟩ ⟨c', u⟩ ⟨hc, hsu⟩
  obtain rfl : c = c' := hc
  cases hhit : c.hit? o ns with
  | some m =>
    rw [Cache.run_lookup_of_hit src hhit, Cache.run_lookup_of_hit src' hhit]
    exact ⟨rfl, rfl, hsu⟩
  | none =>
    obtain ⟨hr, hR⟩ := h (.batch o (c.wanted o ns)) s u hsu
    rcases hx : (src.ask (.batch o (c.wanted o ns))).run s with ⟨r, s'⟩
    rcases hy : (src'.ask (.batch o (c.wanted o ns))).run u with ⟨r', u'⟩
    rw [hx, hy] at hr hR
    obtain rfl : r = r' := hr
    cases r with
    | error e =>
      rw [Cache.run_lookup_of_error hhit hx, Cache.run_lookup_of_error hhit hy]
      exact ⟨rfl, rfl, hR⟩
    | ok m =>
      rw [Cache.run_lookup_of_ok hhit hx, Cache.run_lookup_of_ok hhit hy]
      exact ⟨rfl, rfl, hR⟩

/-- Caches around sources that answer alike answer alike. -/
theorem cached (h : src.Alike R src') :
    (Cache.source src).Alike (Beside R) (Cache.source src') := by
  intro r
  cases r with
  | single o n =>
    refine (h.lookup o [n]).bind fun m => ?_
    cases Table.get? n m with
    | some v => exact .pure v
    | none => exact (h (.single o n)).beside _
  | batch o ns => exact (h.lookup o ns).bind fun _ => .pure _
  | query o => exact (h (.query o)).beside _
  | invoke o op params => exact (h (.invoke o op params)).beside _

end Source.Alike

end VmMonitor
