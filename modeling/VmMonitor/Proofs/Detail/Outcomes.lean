import VmMonitor.Proofs.Detail.Windows
import VmMonitor.Proofs.Instance.Constants

/-!
# How a cycle ends

A cycle publishes the row of its instance before it knows how it will end: the threads are read after
that. They are read over an attached session, and a failure to read them neither moves the session
nor counts as a failed update, so row and state are at the end of a cycle what they were when the row
was published.

## What is proved

* `Session.Settled` — between two cycles a session holds a connection or is over.
* `DetailMonitor.succeeds_readThreads` — what it takes to read the threads.
* `DetailMonitor.ends_of_cycle` — the ways in which a cycle ends.
* `DetailMonitor.cycle_outcomes` — the outcome of any cycle after any others, and what follows one that
  finds the instance not attached.
-/

namespace VmMonitor

open Exchange

variable {ω : Type} {t : Transport ω}

/-! ### Settled sessions -/

theorem SessionState.isAttached_iff {s : SessionState} :
    s.isAttached ↔ s = .attached ∨ s = .attachedUpdateError := by
  cases s <;> simp [isAttached]

namespace Session

/-- A session that holds a connection, or is over. -/
def Settled (s : Session) : Prop := (s.state.isAttached ∧ s.connection.isSome) ∨ s.state.isTerminal

variable {s s' : Session} {w w' : ω}

theorem Settled.apply (h : s.Settled) (e : SessionEvent) (w : ω) : (s.apply t e w).1.Settled := by
  rcases h with ⟨hs, hc⟩ | hover
  · by_cases hend : (s.state.next e).isTerminal
    · right
      rwa [apply_state]
    · left
      rw [apply_of_next_not_isTerminal t hend]
      exact ⟨(SessionState.isAttached_or_isTerminal_next hs e).resolve_right hend, hc⟩
  · right
    rwa [apply_of_isTerminal t hover]

theorem Settled.isLive (h : s.Settled) {alive : Bool} (hlive : s.isLive t w = (alive, s', w')) :
    s'.Settled := by
  cases alive with
  | true => exact isLive_of_true t hlive ▸ h
  | false =>
    right
    rw [isLive_state_of_false t hlive]
    rcases h with ⟨hs, -⟩ | hover
    · rw [SessionState.next_livenessLost (SessionState.not_isTerminal_of_isAttached hs)]
      rfl
    · rwa [SessionState.next_of_isTerminal hover]

/-- An attempt to connect a new session settles it. -/
theorem settled_connect (id : InstanceId) (e : Endpoint) (w : ω) :
    ((new id e).connect t w).2.1.Settled := by
  rcases connect_cases t (s := new id e) rfl rfl w with
    ⟨_, w₁, -, hend⟩ | ⟨c, w₁, alive, w₂, -, -, ⟨-, hend⟩ | ⟨-, _, w₃, -, hend⟩ | ⟨-, l, w₃, -, hok⟩⟩
  · exact .inr hend.isTerminal
  · exact .inr hend.isTerminal
  · exact .inr hend.isTerminal
  · rw [hok]
    exact .inl ⟨rfl, rfl⟩

end Session

namespace Gauges

theorem settled_readSession {s : Session} (h : s.Settled) (g : Gauges) (w : ω) :
    (g.readSession t s w).2.2.1.Settled := by
  cases hc : s.connection with
  | none =>
    have hover := h.resolve_left fun hs => by simp [hc] at hs
    right
    rwa [readSession_state]
  | some c =>
    rcases hrun : (sample (Cache.source (t.source c.id)) s.lockUsage).run (g, c.cache.flush, w)
      with ⟨result, g₁, cache, w₁⟩
    rw [readSession_of_run t hc hrun]
    exact h.imp_left fun hs => ⟨hs.1, rfl⟩

/-- An update goes over a settled session, or ends it. -/
theorem settled_update {s : Session} (h : s.Settled) (id : InstanceId) (g : Gauges) (w : ω) :
    (g.update t id s w).2.2.1.Settled := by
  have hread {x : Except ConnectionError Unit} {g₁ : Gauges} {s₁ s₂ : Session} {w₁ w₂ w' : ω}
      {e : SessionEvent} (hr : g.readSession t s w₁ = (x, g₁, s₁, w₂))
      (ha : s₁.apply t e w₂ = (s₂, w')) : s₂.Settled := by
    have hsettled := settled_readSession (t := t) h g w₁
    rw [hr] at hsettled
    simpa only [ha] using hsettled.apply (t := t) e w₂
  generalize hu : g.update t id s w = x
  cases way_of_update t hu with
  | idle => exact h
  | lost _ hlive => exact h.isLive hlive
  | done _ _ hr ha => exact hread hr ha
  | failed _ _ hr ha => exact hread hr ha

end Gauges

/-! ### Settled instances -/

namespace TrackedVm

/-- The instance has a session, and that is settled. -/
def Settled (r : Registry) (vm : TrackedVm) : Prop :=
  ∃ s, r.session? vm.session = some s ∧ s.Settled

theorem Settled.update {vm : TrackedVm} {world : World ω} (h : vm.Settled world.registry) :
    (vm.update t world).2.1.Settled (vm.update t world).2.2.registry := by
  obtain ⟨s, hs, hsettled⟩ := h
  simp only [TrackedVm.update, World.onSession_of_some hs]
  exact ⟨_, Registry.session?_put_self hs, Gauges.settled_update hsettled _ _ _⟩

/-- Whoever is tracked for the first time is settled, whether or not the attempt to connect works. -/
theorem settled_settle {d : VmDescriptor} {world : World ω} (h : world.registry.get? d.id = none) :
    (settle t d world).1.Settled (settle t d world).2.registry := by
  have hnew : (World.mk (world.registry.attach d.id d.endpoint).2 world.peers).registry.session?
      (world.registry.attach d.id d.endpoint).1 = some (Session.new d.id d.endpoint) := by
    simp [Registry.attach_of_get?_eq_none h, Registry.session?]
  simp only [settle, World.onSession_of_some hnew]
  refine ⟨_, Registry.session?_put_self hnew, ?_⟩
  split_ifs
  · exact Session.settled_connect _ _ _
  · right
    rw [Session.markNotAttachable, Session.apply_state]
    rfl

theorem settled_attach {d : VmDescriptor} {world : World ω} (h : world.registry.get? d.id = none) :
    (attach t d world).1.Settled (attach t d world).2.registry := by
  rw [attach_eq]
  split_ifs
  · exact (settled_settle h).update
  · exact settled_settle h

/-- An instance that is over is not updated. -/
theorem update_of_isTerminal {vm : TrackedVm} {world : World ω}
    (h : (vm.state world.registry).isTerminal) : vm.update t world = (.ok (), vm, world) := by
  cases hs : world.registry.session? vm.session with
  | none => exact update_of_no_session t hs
  | some s =>
    rw [state_of_some hs] at h
    have hoff : s.state.isAttached = false := by
      by_contra hon
      rw [SessionState.not_isTerminal_of_isAttached (by simpa using hon)] at h
      cases h
    rw [update_of_session t hs (Gauges.update_of_idle hoff), Registry.put_of_session? hs]

end TrackedVm

namespace DetailMonitor

/-! ### Reading the threads -/

section

variable {σ : Type} (src : Source σ) (m : DetailMonitor)

/-- All that a cycle asks for beyond the update is told: the highest count of threads and the count of
all that were started, and what a reading of the threads asks for if they are shown. -/
def Told (s : σ) : Prop :=
  ∃ peak s₁ started s₂, src.peakThreadCount.run s = (.ok peak, s₁) ∧
    src.totalStartedThreads.run s₁ = (.ok started, s₂) ∧
    (m.withThreads → ThreadTracker.Told src m.threadLimit m.tracker s₂)

/-- The readings beyond the update end well just when all that they ask for is told. -/
theorem succeeds_readThreads (s : σ) :
    (m.readThreads src).Succeeds (m.tracker, s) ↔ m.Told src s := by
  constructor
  · intro h
    obtain ⟨peak, s₁, hpeak, h⟩ := succeeds_beside_bind.1 h
    obtain ⟨started, s₂, hstarted, h⟩ := succeeds_beside_bind.1 h
    refine ⟨peak, s₁, started, s₂, hpeak, hstarted, fun hshown => ?_⟩
    rw [if_pos hshown] at h
    exact (ThreadTracker.succeeds_sample src).1 (succeeds_bind_pure.1 h)
  · rintro ⟨peak, s₁, started, s₂, hpeak, hstarted, htold⟩
    refine succeeds_beside_bind.2 ⟨peak, s₁, hpeak, succeeds_beside_bind.2 ⟨started, s₂, hstarted, ?_⟩⟩
    split_ifs with hshown
    · exact succeeds_bind_pure.2 ((ThreadTracker.succeeds_sample src).2 (htold hshown))
    · exact ⟨_, _, rfl⟩

end

/-- The threads of the instance can be read, over the connection of its session. -/
def CanRead (t : Transport ω) (m : DetailMonitor) (w : ω) : Prop :=
  ∃ s c, m.registry.session? m.vm.session = some s ∧ s.connection = some c ∧
    m.Told (Cache.source (t.source c.id)) (c.cache, w)

/-! ### The end of a cycle -/

/-- What the readings beyond the update leave alone. -/
structure Undisturbed (m m' : DetailMonitor) : Prop where
  vm : m'.vm = m.vm
  published : m'.published = m.published
  state : m'.vm.state m'.registry = m.vm.state m.registry
  settled : m'.vm.Settled m'.registry

theorem Undisturbed.row {m m' : DetailMonitor} (h : Undisturbed m m') : m'.row = m.row := by
  simp only [DetailMonitor.row, TrackedVm.row, h.state]
  rw [h.vm]

/-- How a cycle ends that has updated its instance and published the row, with the monitor `m` and the
peers `w`. -/
inductive Ends (t : Transport ω) (m : DetailMonitor) (w : ω) : DetailCycle → DetailMonitor → ω → Prop
  /-- The instance is over. -/
  | notAttached : (m.vm.state m.registry).isTerminal → Ends t m w .notAttached m w
  /-- The update has failed. -/
  | notUpdated : m.vm.state m.registry = .attachedUpdateError → Ends t m w .fetchFailed m w
  /-- The threads could not be read. -/
  | notRead {m' : DetailMonitor} {w' : ω} : m.vm.state m.registry = .attached → ¬ m.CanRead t w →
      Undisturbed m m' → Ends t m w .fetchFailed m' w'
  | reported {m' : DetailMonitor} {w' : ω} {r : DetailReport} : m.vm.state m.registry = .attached →
      m.CanRead t w → Undisturbed m m' → r.row = m'.row → Ends t m w (.report r) m' w'

variable {m m₁ m' : DetailMonitor} {w w' : ω} {world₁ : World ω} {result : DetailCycle}

theorem registry_of_updated (hu : m.updated t w = (m₁, world₁)) : m₁.registry = world₁.registry := by
  obtain ⟨rfl, rfl⟩ := Prod.ext_iff.1 hu
  rfl

theorem published_of_updated (hu : m.updated t w = (m₁, world₁)) : m₁.published = [m₁.row] := by
  obtain ⟨rfl, -⟩ := Prod.ext_iff.1 hu
  rfl

theorem settled_of_updated (h : m.vm.Settled m.registry) (hu : m.updated t w = (m₁, world₁)) :
    m₁.vm.Settled m₁.registry := by
  have hworld : m.vm.Settled (World.mk m.registry w).registry := h
  obtain ⟨rfl, -⟩ := Prod.ext_iff.1 hu
  exact hworld.update

/-- Reading over the connection of an attached session disturbs nothing. -/
theorem undisturbed_put {s : Session} (hs : m.registry.session? m.vm.session = some s)
    (hon : s.state.isAttached) (c : Connection) (tracker : ThreadTracker) :
    Undisturbed m { m with
      tracker
      registry := m.registry.put m.vm.session { s with connection := some c } } where
  vm := rfl
  published := rfl
  state := (TrackedVm.state_of_some (Registry.session?_put_self hs)).trans
    (TrackedVm.state_of_some hs).symm
  settled := ⟨_, Registry.session?_put_self hs, .inl ⟨hon, rfl⟩⟩

theorem canRead_iff {s : Session} {c : Connection} (hs : m.registry.session? m.vm.session = some s)
    (hc : s.connection = some c) : m.CanRead t w ↔
      (m.readThreads (Cache.source (t.source c.id))).Succeeds (m.tracker, c.cache, w) := by
  rw [succeeds_readThreads]
  constructor
  · rintro ⟨s', c', hs', hc', htold⟩
    obtain rfl : s = s' := Option.some_inj.1 (hs.symm.trans hs')
    obtain rfl : c = c' := Option.some_inj.1 (hc.symm.trans hc')
    exact htold
  · exact fun htold => ⟨s, c, hs, hc, htold⟩

theorem conclude_of_isTerminal {world : World ω} (h : (m.vm.state m.registry).isTerminal) :
    m.conclude t world = (.notAttached, m, world.peers) := by
  simp only [conclude]
  split
  · rename_i hs
    simp [hs, SessionState.isTerminal] at h
  · rename_i hs
    simp [hs, SessionState.isTerminal] at h
  · rfl

/-- A cycle ends in one of these ways. -/
theorem ends_of_cycle (h : m.vm.Settled m.registry) (hu : m.updated t w = (m₁, world₁))
    (hc : m.cycle t w = (result, m', w')) : Ends t m₁ world₁.peers result m' w' := by
  have hregistry := registry_of_updated hu
  obtain ⟨s, hs, hsettled⟩ := settled_of_updated h hu
  have hstate : m₁.vm.state m₁.registry = s.state := TrackedVm.state_of_some hs
  have hend : m₁.conclude t world₁ = (result, m', w') := by rw [← hc, cycle_eq, hu]
  rcases hsettled with ⟨hon, hsome⟩ | hover
  swap
  · have hover : (m₁.vm.state m₁.registry).isTerminal := hstate ▸ hover
    rw [conclude_of_isTerminal hover] at hend
    obtain ⟨rfl, rfl, rfl⟩ := by simpa only [Prod.mk.injEq] using hend
    exact .notAttached hover
  rcases SessionState.isAttached_iff.1 hon with hs' | hs'
  swap
  · simp only [conclude, hstate.trans hs', Prod.mk.injEq] at hend
    obtain ⟨rfl, rfl, rfl⟩ := hend
    exact .notUpdated (hstate.trans hs')
  · obtain ⟨c, hconnection⟩ := Option.isSome_iff_exists.1 hsome
    rcases hrun : (m₁.readThreads (Cache.source (t.source c.id))).run
      (m₁.tracker, c.cache, world₁.peers) with ⟨answer, tracker, cache, w₂⟩
    have hread : m₁.vm.read t m₁.readings world₁ = (some (answer, tracker),
        ⟨m₁.registry.put m₁.vm.session { s with connection := some { c with cache } }, w₂⟩) := by
      rw [hregistry]
      refine TrackedVm.read_of_connection t (hregistry ▸ hs) hon hconnection ?_
      simp only [readings, StateT.run, hrun]
    have hundisturbed := undisturbed_put hs hon { c with cache } tracker
    simp only [conclude, hstate.trans hs', hread] at hend
    cases answer with
    | error e =>
      obtain ⟨rfl, rfl, rfl⟩ := by simpa only [Prod.mk.injEq] using hend
      refine .notRead (hstate.trans hs') ?_ hundisturbed
      rw [canRead_iff hs hconnection]
      rintro ⟨_, _, hsucceeds⟩
      cases hrun.symm.trans hsucceeds
    | ok counts =>
      obtain ⟨rfl, rfl, rfl⟩ := by simpa only [Prod.mk.injEq] using hend
      exact .reported (hstate.trans hs') ((canRead_iff hs hconnection).2 ⟨_, _, hrun⟩) hundisturbed rfl

namespace Ends

variable (h : Ends t m w result m' w')
include h

theorem notAttached_iff : result = .notAttached ↔ (m.vm.state m.registry).isTerminal := by
  cases h with
  | notAttached hs => exact iff_of_true rfl hs
  | notUpdated hs => exact iff_of_false (by simp) (by simp [hs, SessionState.isTerminal])
  | notRead hs _ _ => exact iff_of_false (by simp) (by simp [hs, SessionState.isTerminal])
  | reported hs _ _ _ => exact iff_of_false (by simp) (by simp [hs, SessionState.isTerminal])

theorem report_iff : (∃ r, result = .report r) ↔
    m.vm.state m.registry = .attached ∧ m.CanRead t w := by
  cases h with
  | notAttached hs =>
    refine iff_of_false (by simp) fun ⟨hwell, _⟩ => ?_
    simp [hwell, SessionState.isTerminal] at hs
  | notUpdated hs => exact iff_of_false (by simp) (by simp [hs])
  | notRead _ hno _ => exact iff_of_false (by simp) fun ⟨_, hcan⟩ => hno hcan
  | reported hs hcan _ _ => exact iff_of_true ⟨_, rfl⟩ ⟨hs, hcan⟩

/-- A reading is told to have failed in all other cases. -/
theorem fetchFailed_iff : result = .fetchFailed ↔ ¬ (m.vm.state m.registry).isTerminal ∧
    ¬ (m.vm.state m.registry = .attached ∧ m.CanRead t w) := by
  rw [← h.notAttached_iff, ← h.report_iff]
  cases result <;> simp

theorem published (hp : m.published = [m.row]) : m'.published = [m'.row] := by
  cases h with
  | notAttached _ => exact hp
  | notUpdated _ => exact hp
  | notRead _ _ hsame => rw [hsame.published, hsame.row, hp]
  | reported _ _ hsame _ => rw [hsame.published, hsame.row, hp]

theorem row {r : DetailReport} (hr : result = .report r) :
    r.row = m'.row ∧ r.row.state = .attached := by
  subst hr
  cases h with
  | reported hs _ hsame hrow => exact ⟨hrow, (hrow.trans hsame.row) ▸ hs⟩

theorem settled (hs : m.vm.Settled m.registry) : m'.vm.Settled m'.registry := by
  cases h with
  | notAttached _ => exact hs
  | notUpdated _ => exact hs
  | notRead _ _ hsame => exact hsame.settled
  | reported _ _ hsame _ => exact hsame.settled

theorem isTerminal (hr : result = .notAttached) : (m'.vm.state m'.registry).isTerminal := by
  subst hr
  cases h with
  | notAttached hs => exact hs

end Ends

/-- The cycle of a monitor whose instance is over does nothing, not even to the published row. -/
theorem cycle_of_isTerminal (h : (m.vm.state m.registry).isTerminal) (hp : m.published = [m.row])
    (w : ω) : m.cycle t w = (.notAttached, m, w) := by
  have hworld : (m.vm.state (World.mk m.registry w).registry).isTerminal := h
  have hu : m.updated t w = (m, ⟨m.registry, w⟩) := by
    simp only [updated, TrackedVm.update_of_isTerminal hworld]
    rw [← hp]
  rw [cycle_eq, hu, conclude_of_isTerminal h]

/-! ### Runs of cycles -/

/-- What a cycle returned and published, and the peers before and after it, with all that was sent to
them. -/
structure CycleRecord (ω : Type) where
  result : DetailCycle
  published : List InstanceRow
  before : Logged ω
  after : Logged ω

/-- The cycles of a monitor from `x` on. Between two cycles anything may happen to the peers. -/
inductive Followed (t : Transport ω) (x : DetailMonitor × Logged ω) :
    List (CycleRecord ω) → DetailMonitor × Logged ω → Prop
  | none : Followed t x [] x
  | cycle {us : List (CycleRecord ω)} {m m' : DetailMonitor} {w w' : Logged ω} {result : DetailCycle} :
      Followed t x us (m, w) → m.cycle t.logged w = (result, m', w') →
      Followed t x (us ++ [⟨result, m'.published, w, w'⟩]) (m', w')
  | elsewhere {us : List (CycleRecord ω)} {m : DetailMonitor} {w : Logged ω} (w' : Logged ω) :
      Followed t x us (m, w) → Followed t x us (m, w')

namespace Followed

variable {x y : DetailMonitor × Logged ω} {us : List (CycleRecord ω)}

/-- **The invariant**: after any cycles the session is settled. -/
theorem settled (h : Followed t x us y) (hx : x.1.vm.Settled x.1.registry) :
    y.1.vm.Settled y.1.registry := by
  induction h with
  | none => exact hx
  | @cycle us m m' w w' result _ hc ih =>
    rcases hu : m.updated t.logged w with ⟨m₁, world₁⟩
    exact (ends_of_cycle ih hu hc).settled (settled_of_updated ih hu)
  | elsewhere _ _ ih => exact ih

/-- A monitor whose instance is over goes on telling so. -/
theorem quiet (h : Followed t x us y) (hx : (x.1.vm.state x.1.registry).isTerminal)
    (hp : x.1.published = [x.1.row]) :
    y.1 = x.1 ∧ ∀ u ∈ us, u.result = .notAttached ∧ u.after = u.before ∧
      u.published = x.1.published := by
  induction h with
  | none => exact ⟨rfl, by simp⟩
  | @cycle us m m' w w' result _ hc ih =>
    obtain ⟨rfl, hus⟩ := ih
    rw [cycle_of_isTerminal hx hp] at hc
    cases hc
    refine ⟨rfl, fun u hu => ?_⟩
    rcases List.mem_append.1 hu with hu | hu
    · exact hus u hu
    · obtain rfl := List.mem_singleton.1 hu
      exact ⟨rfl, rfl, rfl⟩
  | elsewhere _ _ ih => exact ih

end Followed

/-! ### Since it is opened -/

theorem settled_of_open {directory : Directory ω} {id : InstanceId} {limit : Option Nat}
    {withThreads : Bool} (h : DetailMonitor.open t directory id limit withThreads w = (.ok m, w')) :
    m.vm.Settled m.registry := by
  simp only [DetailMonitor.open] at h
  split at h
  · cases h
  · cases h
    exact TrackedVm.settled_attach rfl

/-- **The outcome of a cycle**, whatever cycles went before it since the monitor was opened. One row is
published, and that is how the instance stands. The instance is told not to be attached just when its
state after the update is terminal; there is a report just when it is attached and well then, and all
that is asked for beyond that is told; in any other case the reading is told to have failed. A report
shows the published row, and the instance as attached. Once an instance is told not to be attached, it
is so in every later cycle, nothing is sent for that, and the same row is published. -/
theorem cycle_outcomes {directory : Directory (Logged ω)} {id : InstanceId} {limit : Option Nat}
    {withThreads : Bool} {w₀ w₁ w w' : Logged ω} {m₀ m m₁ m' : DetailMonitor}
    {world₁ : World (Logged ω)} {us : List (CycleRecord ω)} {result : DetailCycle}
    (hopen : DetailMonitor.open t.logged directory id limit withThreads w₀ = (.ok m₀, w₁))
    (h : Followed t (m₀, w₁) us (m, w)) (hu : m.updated t.logged w = (m₁, world₁))
    (hc : m.cycle t.logged w = (result, m', w')) :
    m'.published = [m'.row] ∧
      (result = .notAttached ↔ (m₁.vm.state m₁.registry).isTerminal) ∧
      ((∃ r, result = .report r) ↔
        m₁.vm.state m₁.registry = .attached ∧ m₁.CanRead t.logged world₁.peers) ∧
      (result = .fetchFailed ↔ ¬ (m₁.vm.state m₁.registry).isTerminal ∧
        ¬ (m₁.vm.state m₁.registry = .attached ∧ m₁.CanRead t.logged world₁.peers)) ∧
      (∀ r, result = .report r → m'.published = [r.row] ∧ r.row.state = .attached) ∧
      (result = .notAttached → ∀ later m'' w'', Followed t (m', w') later (m'', w'') →
        m'' = m' ∧ ∀ u ∈ later, u.result = .notAttached ∧ u.after = u.before ∧
          u.published = m'.published) := by
  have hends : Ends t.logged m₁ world₁.peers result m' w' :=
    ends_of_cycle (h.settled (settled_of_open hopen)) hu hc
  have hpublished := hends.published (published_of_updated hu)
  refine ⟨hpublished, hends.notAttached_iff, hends.report_iff, hends.fetchFailed_iff, ?_, ?_⟩
  · intro r hr
    obtain ⟨hrow, hstate⟩ := hends.row hr
    exact ⟨hrow ▸ hpublished, hstate⟩
  · intro hr later m'' w'' hlater
    exact hlater.quiet (hends.isTerminal hr) hpublished

/-- A peer with one thread, which answers all that a cycle asks for. -/
def threaded : Script :=
  { Script.talkative with
    values := (.threading, [("ThreadCount", .long 1), ("PeakThreadCount", .long 2),
      ("TotalStartedThreadCount", .long 3), ("ThreadCpuTimeSupported", .bool true),
      ("AllThreadIds", .longs [1])]) :: Script.talkative.values
    results := ("getThreadCpuTime:1", .long 5) :: ("getThreadInfo:1", .thread ⟨1, "main", "RUNNABLE", -1⟩)
      :: Script.talkative.results }

/-- The instance behind that peer, as it is listed and as it is first tracked. -/
def threadedInstance : VmDescriptor := ⟨7, "", true, .localProcess 7⟩

def threadedStart : TrackedVm × World (Logged Script) :=
  TrackedVm.attach Script.transport.logged threadedInstance ⟨{}, [], threaded⟩

/-- Its monitor before the first cycle. -/
def threadedMonitor : DetailMonitor :=
  ⟨threadedStart.2.registry, threadedStart.1, {}, none, true, []⟩

/-- The first cycle. -/
def threadedCycle : DetailCycle × DetailMonitor × Logged Script :=
  threadedMonitor.cycle Script.transport.logged threadedStart.2.peers

/-- An instance that is listed is opened. -/
theorem open_of_find {ω : Type} {t : Transport ω} {directory : Directory ω} {id : InstanceId}
    {limit : Option Nat} {withThreads : Bool} {w w' : ω} {visible : List VmDescriptor}
    {d : VmDescriptor} {tracked : TrackedVm × World ω}
    (hlist : directory.list w = (.ok visible, w'))
    (hfind : visible.find? (fun vm => vm.id = id) = some d)
    (hattach : TrackedVm.attach t d ⟨{}, w'⟩ = tracked) :
    DetailMonitor.open t directory id limit withThreads w =
      (.ok ⟨tracked.2.registry, tracked.1, {}, limit, withThreads, []⟩, tracked.2.peers) := by
  simp [DetailMonitor.open, hlist, hfind, hattach]

/-- The second cycle reports on the thread. -/
theorem cycle_outcomes_of_threaded : ∃ directory m₀ w₁ us m w m₁ world₁ r m' w',
    DetailMonitor.open Script.transport.logged directory 7 none true ([], threaded) = (.ok m₀, w₁) ∧
      Followed Script.transport (m₀, w₁) us (m, w) ∧
      m.updated Script.transport.logged w = (m₁, world₁) ∧
      m.cycle Script.transport.logged w = (.report r, m', w') ∧ r.threads.rows.length = 1 ∧
      m₁.CanRead Script.transport.logged world₁.peers ∧ m'.published = [r.row] := by
  have hrows : (report? (threadedCycle.2.1.cycle Script.transport.logged threadedCycle.2.2).1).map
      (fun r => r.threads.rows.length) = some 1 := by decide +kernel
  have hopen : DetailMonitor.open Script.transport.logged ⟨fun x => (.ok [threadedInstance], x)⟩ 7
      none true ([], threaded) = (.ok threadedMonitor, threadedStart.2.peers) :=
    open_of_find rfl rfl rfl
  rcases hcycle : threadedCycle with ⟨first, m, w⟩
  have hfirst : Followed Script.transport (threadedMonitor, threadedStart.2.peers) _ (m, w) :=
    Followed.none.cycle hcycle
  rw [hcycle] at hrows
  rcases hu : m.updated Script.transport.logged w with ⟨m₁, world₁⟩
  rcases hc : m.cycle Script.transport.logged w with ⟨result, m', w'⟩
  rw [hc] at hrows
  obtain ⟨r, hr, hone⟩ := Option.map_eq_some_iff.1 hrows
  cases result with
  | fetchFailed => cases hr
  | notAttached => cases hr
  | report r' =>
    obtain rfl : r' = r := Option.some_inj.1 hr
    obtain ⟨-, -, hreport, -, hrow, -⟩ := cycle_outcomes hopen hfirst hu hc
    obtain ⟨-, hcan⟩ := hreport.1 ⟨r', rfl⟩
    exact ⟨_, _, _, _, m, w, m₁, world₁, r', m', w', hopen, hfirst, hu, hc, hone, hcan,
      (hrow r' rfl).1⟩

end DetailMonitor

end VmMonitor
