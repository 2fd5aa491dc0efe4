import VmMonitor.Proofs.Scenario
import VmMonitor.Proofs.Scenario.Watching

/-!
# Isolation of instances

The instances of a scenario share one monitor, one registry, one clock and one list that is sorted
again in every cycle. What is shown of an instance does not depend on the others, however they fail:
two runs over two scenarios that have an instance in common show the same of it in every cycle. All
that the scenarios have to agree on besides is when listings fail, and that nobody else is reached at
the address of the instance.

## What is proved

* `Scenario.listings_agree` — listings of the two scenarios fail alike, and list the instance alike.
* `Monitor.Agree.cycle` — **the relation** between two runs is kept by a cycle.
* `Replay.isolated` — the runs show the same of the instance in every cycle.
-/

namespace VmMonitor

/-! ### One member of a list -/

section

variable {α κ : Type} [DecidableEq κ] {f : α → κ} {xs ys : List α}

/-- A member of a list is found by its key, if the keys are distinct. -/
theorem filter_key_eq_singleton (h : (xs.map f).Nodup) {x : α} (hx : x ∈ xs) :
    xs.filter (fun y => f y = f x) = [x] := by
  induction xs with
  | nil => cases hx
  | cons y ys ih =>
    obtain ⟨hy, hys⟩ := List.nodup_cons.1 h
    rcases List.mem_cons.1 hx with rfl | hx
    · have hno : ys.filter (fun y => f y = f x) = [] := by
        simpa [List.filter_eq_nil_iff] using hy
      simp [hno]
    · have hne : f y ≠ f x := fun heq => hy (heq ▸ List.mem_map_of_mem hx)
      simp [hne, ih hys hx]

/-- Lists with distinct keys that have the same under a key have it once or not at all. -/
theorem filter_eq_filter (hxs : (xs.map f).Nodup) (hys : (ys.map f).Nodup) {k : κ}
    (h : ∀ x, f x = k → (x ∈ xs ↔ x ∈ ys)) :
    xs.filter (fun x => f x = k) = ys.filter (fun x => f x = k) := by
  by_cases hk : ∃ x ∈ xs, f x = k
  · obtain ⟨x, hx, rfl⟩ := hk
    rw [filter_key_eq_singleton hxs hx, filter_key_eq_singleton hys ((h x rfl).1 hx)]
  · have hxs' : xs.filter (fun x => f x = k) = [] :=
      List.filter_eq_nil_iff.2 fun x hx hk' => hk ⟨x, hx, by simpa using hk'⟩
    have hys' : ys.filter (fun x => f x = k) = [] := by
      refine List.filter_eq_nil_iff.2 fun y hy hk' => hk ⟨y, ?_, by simpa using hk'⟩
      exact (h y (by simpa using hk')).2 hy
    rw [hxs', hys']

end

/-! ### Scenarios with one instance in common -/

namespace Scenario

/-- The scenario is valid, it has the instance, and no other one is reached where that is. -/
structure Houses (s : Scenario) (a : ScenarioInstance) : Prop where
  valid : s.validate = .ok s
  mem : a ∈ s.instances
  alone : ∀ b ∈ s.instances, b.address = a.address → b = a

end Scenario

section

variable {a : ScenarioInstance} {s s₁ s₂ : Scenario} {interval n : Nat}

/-- Where nobody else is reached, the instance itself is met, or nobody. -/
theorem Replay.target?_of_houses {r : Replay} (h : r.scenario.Houses a) :
    r.target? a.address = if a.isVisible r.cycle then some a else none := by
  simp only [target?]
  cases hf : r.scenario.instances.find? fun i => i.address = a.address ∧ i.isVisible r.cycle with
  | some b =>
    have hb := List.find?_some hf
    simp only [decide_eq_true_eq] at hb
    obtain rfl := h.alone b (List.mem_of_find?_eq_some hf) hb.1
    simp [hb.2]
  | none =>
    have hno := List.find?_eq_none.1 hf a h.mem
    simp only [decide_eq_true_eq, true_and] at hno
    simp [hno]

theorem Replay.meet_of_houses {r₁ r₂ : Replay} (h₁ : r₁.scenario.Houses a) (h₂ : r₂.scenario.Houses a)
    (hcycle : r₁.cycle = r₂.cycle) : r₁.meet a.address = r₂.meet a.address := by
  simp only [meet, target?_of_houses h₁, target?_of_houses h₂, hcycle]

namespace Scenario

/-- Under its process id nobody but the instance is listed. -/
theorem eq_of_listed (h : s.Houses a) {ds : List VmDescriptor}
    (hds : Monitor.listing s interval n = .ok ds) {d : VmDescriptor} (hd : d ∈ ds)
    (hid : d.id = a.pid) : d = a.descriptor := by
  simp only [Monitor.listing, Replay.list] at hds
  split_ifs at hds
  · obtain rfl := Except.ok.inj hds
    obtain ⟨b, hb, rfl⟩ := List.mem_map.1 hd
    have hmem : b ∈ s.instances := List.mem_of_mem_filter hb
    rw [List.inj_on_of_nodup_map (validate_eq_ok_iff.1 h.valid) hmem h.mem hid]
  · obtain rfl := Except.ok.inj hds
    simp at hd

/-- Whether the instance is listed, in a cycle in which listings do not fail. -/
theorem listed_iff (h : s.Houses a) {ds : List VmDescriptor}
    (hds : Monitor.listing s interval n = .ok ds) :
    a.descriptor ∈ ds ↔ n % max interval 1 = 0 ∧ a.isVisible n := by
  simp only [Monitor.listing, Replay.list] at hds
  split_ifs at hds with hdue
  · obtain rfl := Except.ok.inj hds
    constructor
    · intro hd
      obtain ⟨b, hb, heq⟩ := List.mem_map.1 hd
      obtain ⟨hmem, hvisible⟩ := List.mem_filter.1 hb
      obtain rfl := List.inj_on_of_nodup_map (validate_eq_ok_iff.1 h.valid) hmem h.mem
        (congrArg VmDescriptor.id heq)
      exact ⟨hdue, hvisible⟩
    · rintro ⟨-, hvisible⟩
      exact List.mem_map_of_mem (List.mem_filter.2 ⟨h.mem, hvisible⟩)
  · obtain rfl := Except.ok.inj hds
    simp [hdue]

/-- An instance that is listed and was not seen is fresh. -/
theorem fresh_of_listed (h : s.Houses a) {ds : List VmDescriptor}
    (hds : Monitor.listing s interval n = .ok ds) (hlisted : a.descriptor ∈ ds)
    {seen : List InstanceId} (hseen : a.pid ∉ seen) : a.descriptor ∈ fresh seen ds := by
  have hmem : a.pid ∈ seen ++ (fresh seen ds).map (·.id) :=
    mem_fresh.2 (.inr (List.mem_map_of_mem (f := (·.id)) hlisted))
  obtain ⟨d, hd, hid⟩ := List.mem_map.1 ((List.mem_append.1 hmem).resolve_left hseen)
  rwa [eq_of_listed h hds (mem_of_mem_fresh hd) hid] at hd

/-- Whether a listing fails depends on when listings fail. -/
theorem listings_agree (hfails : s₁.discoveryFailsAt = s₂.discoveryFailsAt) (interval n : Nat) :
    (∃ e, Monitor.listing s₁ interval n = .error e ∧ Monitor.listing s₂ interval n = .error e) ∨
    ∃ ds₁ ds₂, Monitor.listing s₁ interval n = .ok ds₁ ∧ Monitor.listing s₂ interval n = .ok ds₂ := by
  simp only [Monitor.listing, Replay.list, hfails]
  split_ifs
  · exact .inl ⟨_, rfl, rfl⟩
  · exact .inr ⟨_, _, rfl, rfl⟩
  · exact .inr ⟨_, _, rfl, rfl⟩

end Scenario

end

/-! ### Two runs -/

namespace Monitor

/-- Of the instance `id` both have the same. -/
def Agree (id : InstanceId) (sts₁ sts₂ : List Standing) : Prop :=
  ∀ st : Standing, st.1.id = id → (st ∈ sts₁ ↔ st ∈ sts₂)

/-- The rows of the instance `id` among those that a cycle returned, or its error. -/
def rowsOf (id : InstanceId) (result : Except MonitorError (List InstanceRow)) :
    Except MonitorError (List InstanceRow) :=
  result.map fun rows => rows.filter fun row => row.id = id

variable {a : ScenarioInstance} {s₁ s₂ : Scenario} {interval n : Nat} {m₁ m₂ : Monitor}
  {r₁ r₂ : Replay} {ds₁ ds₂ : List VmDescriptor}

namespace Agree

theorem symm (h : Agree a.pid (m₁.standings r₁) (m₂.standings r₂)) :
    Agree a.pid (m₂.standings r₂) (m₁.standings r₁) := fun st hst => (h st hst).symm

/-- An instance that is tracked in the first run is tracked in the second, with the same standing. -/
theorem exists_mem (h : Agree a.pid (m₁.standings r₁) (m₂.standings r₂)) {vm : TrackedVm}
    (hvm : vm ∈ m₁.tracked) (hid : vm.id = a.pid) :
    ∃ vm' ∈ m₂.tracked, vm'.standing ⟨m₂.registry, r₂⟩ = vm.standing ⟨m₁.registry, r₁⟩ :=
  List.mem_map.1 ((h _ hid).1 (List.mem_map_of_mem hvm))

theorem mem_ids (h : Agree a.pid (m₁.standings r₁) (m₂.standings r₂)) :
    a.pid ∈ m₁.tracked.map (·.id) → a.pid ∈ m₂.tracked.map (·.id) := by
  intro hid
  obtain ⟨vm, hvm, heq⟩ := List.mem_map.1 hid
  obtain ⟨vm', hvm', hst⟩ := h.exists_mem hvm heq
  refine List.mem_map.2 ⟨vm', hvm', ?_⟩
  rw [← heq]
  exact congrArg (·.1.id) hst

/-- It has the same row, or none. -/
theorem rows (h : Agree a.pid (m₁.standings r₁) (m₂.standings r₂))
    (h₁ : (m₁.tracked.map (·.id)).Nodup) (h₂ : (m₂.tracked.map (·.id)).Nodup) :
    (m₁.tracked.map fun vm => vm.row m₁.registry).filter (fun row => row.id = a.pid) =
      (m₂.tracked.map fun vm => vm.row m₂.registry).filter (fun row => row.id = a.pid) := by
  have hsubset {m₁ m₂ : Monitor} {r₁ r₂ : Replay} {row : InstanceRow}
      (h : Agree a.pid (m₁.standings r₁) (m₂.standings r₂)) (hid : row.id = a.pid)
      (hrow : row ∈ m₁.tracked.map fun vm => vm.row m₁.registry) :
      row ∈ m₂.tracked.map fun vm => vm.row m₂.registry := by
    obtain ⟨vm, hvm, rfl⟩ := List.mem_map.1 hrow
    obtain ⟨vm', hvm', hst⟩ := h.exists_mem hvm hid
    exact List.mem_map.2 ⟨vm', hvm', TrackedVm.row_eq_of_standing hst⟩
  refine filter_eq_filter (f := InstanceRow.id) ?_ ?_ fun row hid =>
    ⟨hsubset h hid, hsubset h.symm hid⟩
  · simpa [List.map_map, Function.comp_def, TrackedVm.row] using h₁
  · simpa [List.map_map, Function.comp_def, TrackedVm.row] using h₂

/-- What a cycle makes of the instance in the first run it makes of it in the second. -/
theorem onward_subset (h : Agree a.pid (m₁.standings r₁) (m₂.standings r₂))
    (h₁ : Watches s₁ interval n m₁ r₁) (h₂ : Watches s₂ interval n m₂ r₂)
    (ha₁ : s₁.Houses a) (ha₂ : s₂.Houses a) (hds₁ : listing s₁ interval n = .ok ds₁)
    (hds₂ : listing s₂ interval n = .ok ds₂) {st : Standing} (hid : st.1.id = a.pid)
    (hst : st ∈ m₁.onward r₁ ds₁) : st ∈ m₂.onward r₂ ds₂ := by
  have hcycle : r₁.cycle = r₂.cycle := h₁.clock.trans h₂.clock.symm
  rcases List.mem_append.1 hst with hst | hst
  · -- It was tracked before.
    obtain ⟨vm, hvm, rfl⟩ := List.mem_map.1 hst
    obtain ⟨vm', hvm', hsame⟩ := h.exists_mem hvm hid
    have hupdated : vm'.updated ⟨m₂.registry, r₂⟩ = vm.updated ⟨m₁.registry, r₁⟩ :=
      TrackedVm.standing_update hsame hcycle.symm
    exact List.mem_append_left _ (List.mem_map.2 ⟨vm', hvm', hupdated⟩)
  · -- It is fresh, so it is listed, and in the second run it is fresh as well.
    obtain ⟨d, hd, rfl⟩ := List.mem_map.1 hst
    have hid' : d.id = a.pid := by rwa [TrackedVm.joined_descriptor] at hid
    obtain rfl := Scenario.eq_of_listed ha₁ hds₁ (mem_of_mem_fresh hd) hid'
    have hseen : a.pid ∉ m₂.tracked.map (·.id) := fun hmem =>
      not_mem_of_mem_fresh hd (h.symm.mem_ids hmem)
    have hlisted : a.descriptor ∈ ds₂ := (Scenario.listed_iff ha₂ hds₂).2
      ((Scenario.listed_iff ha₁ hds₁).1 (mem_of_mem_fresh hd))
    have hfresh : a.descriptor ∈ fresh (m₂.tracked.map (·.id)) ds₂ :=
      Scenario.fresh_of_listed ha₂ hds₂ hlisted hseen
    have hnone₁ : m₁.registry.get? a.descriptor.id = none :=
      h₁.registered.get?_eq_none (not_mem_of_mem_fresh hd)
    have hnone₂ : m₂.registry.get? a.descriptor.id = none := h₂.registered.get?_eq_none hseen
    have hmeet : r₂.meet a.address = r₁.meet a.address :=
      Replay.meet_of_houses (h₂.scenario ▸ ha₂) (h₁.scenario ▸ ha₁) hcycle.symm
    have hjoined : TrackedVm.joined ⟨m₂.registry, r₂⟩ a.descriptor =
        TrackedVm.joined ⟨m₁.registry, r₁⟩ a.descriptor := by
      refine TrackedVm.standing_update (TrackedVm.standing_attach h₂.crew.apart h₁.crew.apart hnone₂
        hnone₁ hcycle.symm hmeet) ?_
      rw [(TrackedVm.spares_attach h₂.crew.apart hnone₂).1.cycle,
        (TrackedVm.spares_attach h₁.crew.apart hnone₁).1.cycle]
      exact hcycle.symm
    exact List.mem_append_right _ (List.mem_map.2 ⟨_, hfresh, hjoined⟩)

/-- **The relation is kept** by a cycle, and the cycle returns the same of the instance. -/
theorem cycle (h : Agree a.pid (m₁.standings r₁) (m₂.standings r₂))
    (h₁ : Watches s₁ interval n m₁ r₁) (h₂ : Watches s₂ interval n m₂ r₂)
    (ha₁ : s₁.Houses a) (ha₂ : s₂.Houses a) (hfails : s₁.discoveryFailsAt = s₂.discoveryFailsAt) :
    rowsOf a.pid (m₁.cycle Replay.transport Replay.directory r₁).1 =
      rowsOf a.pid (m₂.cycle Replay.transport Replay.directory r₂).1 ∧
    Agree a.pid
      ((m₁.cycle Replay.transport Replay.directory r₁).2.1.standings
        (m₁.cycle Replay.transport Replay.directory r₁).2.2.tick)
      ((m₂.cycle Replay.transport Replay.directory r₂).2.1.standings
        (m₂.cycle Replay.transport Replay.directory r₂).2.2.tick) := by
  rcases Scenario.listings_agree hfails interval n with ⟨e, he₁, he₂⟩ | ⟨ds₁, ds₂, hds₁, hds₂⟩
  · obtain ⟨m₁', hc₁, hst₁, -⟩ := h₁.cycle_of_error he₁
    obtain ⟨m₂', hc₂, hst₂, -⟩ := h₂.cycle_of_error he₂
    rw [hc₁, hc₂, hst₁, hst₂]
    exact ⟨rfl, h⟩
  · obtain ⟨m₁', r₁', hc₁, hperm₁, hnext₁⟩ := h₁.cycle_of_ok hds₁
    obtain ⟨m₂', r₂', hc₂, hperm₂, hnext₂⟩ := h₂.cycle_of_ok hds₂
    have hagree : Agree a.pid (m₁'.standings r₁'.tick) (m₂'.standings r₂'.tick) := by
      intro st hid
      rw [hperm₁.mem_iff, hperm₂.mem_iff]
      constructor
      · exact h.onward_subset h₁ h₂ ha₁ ha₂ hds₁ hds₂ hid
      · exact h.symm.onward_subset h₂ h₁ ha₂ ha₁ hds₂ hds₁ hid
    rw [hc₁, hc₂]
    exact ⟨congrArg Except.ok (hagree.rows hnext₁.nodup hnext₂.nodup), hagree⟩

end Agree

end Monitor

/-! ### The runs -/

namespace Replay

variable {a : ScenarioInstance} {s₁ s₂ : Scenario} {interval : Nat} {order₁ order₂ : SortOrder}

theorem watch_agree (ha₁ : s₁.Houses a) (ha₂ : s₂.Houses a)
    (hfails : s₁.discoveryFailsAt = s₂.discoveryFailsAt) (n : Nat) : Monitor.Agree a.pid
      ((watch order₁ interval s₁ n).1.standings (watch order₁ interval s₁ n).2)
      ((watch order₂ interval s₂ n).1.standings (watch order₂ interval s₂ n).2) := by
  induction n with
  | zero => exact fun st _ => Iff.rfl
  | succ n ih =>
    exact (ih.cycle (watch_watches order₁ interval s₁ n) (watch_watches order₂ interval s₂ n) ha₁ ha₂
      hfails).2

/-- **Isolation.** Take two valid scenarios that both have an instance, and in each of which no other
instance is reached where it is; let listings fail at the same time in both, and let the two differ
in all the rest. Then in every cycle of monitors that list equally often, in whatever order they sort,
either both cycles fail by the same error, or both return rows and the rows of the instance are the
same. -/
theorem isolated (ha₁ : s₁.Houses a) (ha₂ : s₂.Houses a)
    (hfails : s₁.discoveryFailsAt = s₂.discoveryFailsAt) (order₁ order₂ : SortOrder)
    (interval n : Nat) :
    Monitor.rowsOf a.pid (shown order₁ interval s₁ n) =
      Monitor.rowsOf a.pid (shown order₂ interval s₂ n) :=
  ((watch_agree ha₁ ha₂ hfails n).cycle (watch_watches order₁ interval s₁ n)
    (watch_watches order₂ interval s₂ n) ha₁ ha₂ hfails).1

/-- A neighbour that refuses connections is not noticed, although it comes first. -/
theorem isolated_from_refusing :
    let a : ScenarioInstance := { pid := 7, samples := [{ uptimeMs := 4 }] }
    let s₁ : Scenario := ⟨none, [a]⟩
    let s₂ : Scenario := ⟨none, [{ pid := 8, connect := .refused }, a]⟩
    (∃ rows, shown .cpu 1 s₁ 0 = .ok rows ∧ rows.map (·.id) = [7]) ∧
      ∀ n, Monitor.rowsOf 7 (shown .cpu 1 s₁ n) = Monitor.rowsOf 7 (shown .heap 1 s₂ n) := by
  intro a s₁ s₂
  have ha₁ : s₁.Houses a := ⟨rfl, by decide, by decide⟩
  have ha₂ : s₂.Houses a := ⟨rfl, by decide, by decide⟩
  exact ⟨⟨_, rfl, by decide +kernel⟩, isolated ha₁ ha₂ rfl .cpu .heap 1⟩

end Replay

end VmMonitor
