import VmMonitor.Discovery
import VmMonitor.Proofs.Table

/-!
# What discovery reports

A listing is compared with the one that was merged before it, and with nothing older: an instance that
was gone for one listing is new again. Between two listings there may be cycles without one, listings
that fail, and listings that are merged without a cycle, in any number. None of these hides an
instance. What is known is always the listing that was merged last, so whatever is not reported was
merged before, and the first listing that had it was compared with one that did not.

A history keeps for each call what the directory was asked in its course, which is found out by asking
a directory that records its answers. What the rules say of a call is said in terms of the calls before
it alone.

## What is proved

* `Discovery.knows_merge` — what is known after a listing.
* `Discovery.Reflects.observe` — a call follows the rules, and its history goes on being **reflected**.
* `Discovery.diffing` — the rules for every call of a history, and that every listed instance is
  reported.
-/

namespace VmMonitor

variable {ω : Type}

/-- The directory beside a record of its answers. -/
def Directory.recorded (directory : Directory ω) :
    Directory (List (Except MonitorError (List VmDescriptor)) × ω) where
  list := fun (answers, w) =>
    let (answer, w) := directory.list w
    (answer, (answers ++ [answer], w))

namespace Discovery

/-! ### Histories -/

/-- A call: a cycle goes by, or a listing is merged that somebody else has made. -/
inductive Call
  | poll
  | merge (listing : List VmDescriptor)

/-- A call and what came of it. -/
structure Event where
  call : Call
  /-- What the directory answered while the call went on. -/
  asked : List (Except MonitorError (List VmDescriptor))
  report : Except MonitorError (List VmDescriptor)
  /-- What is known after the call. -/
  known : Table InstanceId VmDescriptor

/-- One call, with what came of it. -/
def observe (directory : Directory ω) (d : Discovery) (w : ω) : Call → Event × Discovery × ω
  | .poll =>
    let (report, d, (asked, w)) := d.poll directory.recorded ([], w)
    (⟨.poll, asked, report, d.known⟩, d, w)
  | .merge listing =>
    let (added, d) := d.merge listing
    (⟨.merge listing, [], .ok added, d.known⟩, d, w)

/-- What comes of some calls, one after the other. -/
def history (directory : Directory ω) (d : Discovery) (w : ω) : List Call → List Event
  | [] => []
  | call :: calls =>
    let (e, d, w) := d.observe directory w call
    e :: history directory d w calls

/-- The listing that the call has merged. -/
def Event.merged? (e : Event) : Option (List VmDescriptor) :=
  match e.call, e.asked with
  | .merge listing, _ => some listing
  | .poll, [.ok listing] => some listing
  | .poll, _ => none

def Event.isPoll (e : Event) : Bool :=
  match e.call with
  | .poll => true
  | .merge _ => false

/-- The cycles that went by. -/
def polls (h : List Event) : Nat := h.countP (·.isPoll)

/-- The listing that was merged last; before the first one nothing is listed. -/
def lastMerged (h : List Event) : List VmDescriptor := (h.filterMap (·.merged?)).getLast?.getD []

/-- What is known after the calls. -/
def knownAfter (h : List Event) : Table InstanceId VmDescriptor := (h.getLast?.map (·.known)).getD []

/-- All that was reported. -/
def reported (h : List Event) : List VmDescriptor := h.flatMap fun e => e.report.toOption.getD []

/-- Known are the instances of a listing, each by the last of its descriptions. -/
structure Knows (known : Table InstanceId VmDescriptor) (listing : List VmDescriptor) : Prop where
  pairwise_keys : (Table.keys known).Pairwise (· < ·)
  mem_iff : ∀ id vm, (id, vm) ∈ known ↔ ∃ earlier later,
    listing = earlier ++ vm :: later ∧ vm.id = id ∧ ∀ other ∈ later, other.id ≠ id

/-- The rules for a call that comes after others. -/
structure Event.Follows (interval : Nat) (before : List Event) (e : Event) : Prop where
  /-- The directory is asked once in every so many cycles, and never else. -/
  asked_length : e.asked.length =
    if e.isPoll ∧ max interval 1 ∣ polls before then 1 else 0
  /-- A cycle without a listing reports nothing and leaves what is known. -/
  idle : e.isPoll → e.asked = [] → e.report = .ok [] ∧ e.known = knownAfter before
  /-- A listing that fails is reported as failed and leaves what is known. -/
  failed : ∀ err, e.asked = [.error err] → e.report = .error err ∧ e.known = knownAfter before
  /-- Of a listing is reported what the one before did not have, and it is what is known. -/
  merged : ∀ listing, e.merged? = some listing →
    e.report = .ok (listing.filter fun vm => vm.id ∉ (lastMerged before).map (·.id)) ∧
      Knows e.known listing

/-! ### One listing -/

section

variable (d : Discovery) (listing : List VmDescriptor)

/-- What is known after a listing. -/
theorem knows_merge : Knows (d.merge listing).2.known listing := by
  have hpairwise : (Table.keys (d.merge listing).2.known).Pairwise (· < ·) :=
    Table.pairwise_keys_ofList _
  refine ⟨hpairwise, fun id vm => ?_⟩
  have hget : Table.get? id (d.merge listing).2.known =
      listing.reverse.find? fun vm => vm.id = id := by
    rw [merge, Table.get?_ofList, ← List.map_reverse, Table.get?, List.find?_map, Option.map_map]
    exact Option.map_id_fun ▸ rfl
  rw [← Table.get?_eq_some_iff_of_pairwise hpairwise, hget, List.find?_eq_some_iff_append]
  simp only [decide_eq_true_eq, Bool.not_eq_true', decide_eq_false_iff_not]
  constructor
  · rintro ⟨hid, later, earlier, hlisting, hlater⟩
    refine ⟨earlier.reverse, later.reverse, ?_, hid, by simpa using hlater⟩
    simpa using congrArg List.reverse hlisting
  · rintro ⟨earlier, later, rfl, hid, hlater⟩
    exact ⟨hid, later.reverse, earlier.reverse, by simp, by simpa using hlater⟩

theorem has_merge (id : InstanceId) :
    Table.has id (d.merge listing).2.known ↔ id ∈ listing.map (·.id) := by
  rw [merge, Table.has_ofList]
  simp only [List.mem_map, Prod.mk.injEq]
  constructor
  · rintro ⟨-, vm, hvm, hid, -⟩
    exact ⟨vm, hvm, hid⟩
  · rintro ⟨vm, hvm, hid⟩
    exact ⟨vm, vm, hvm, hid, rfl⟩

end

/-! ### One call -/

section

variable {directory : Directory ω} {d : Discovery} {w w' : ω}

theorem observe_of_not_due (hdue : ¬ d.cycle % d.interval = 0) : d.observe directory w .poll =
    (⟨.poll, [], .ok [], d.known⟩, { d with cycle := d.cycle + 1 }, w) := by
  simp [observe, poll, hdue]

theorem observe_of_error {err : MonitorError} (hdue : d.cycle % d.interval = 0)
    (hlist : directory.list w = (.error err, w')) : d.observe directory w .poll =
      (⟨.poll, [.error err], .error err, d.known⟩, { d with cycle := d.cycle + 1 }, w') := by
  simp [observe, poll, hdue, Directory.recorded, hlist]

theorem observe_of_ok {listing : List VmDescriptor} (hdue : d.cycle % d.interval = 0)
    (hlist : directory.list w = (.ok listing, w')) : d.observe directory w .poll =
      (⟨.poll, [.ok listing], .ok (d.merge listing).1, (d.merge listing).2.known⟩,
        { (d.merge listing).2 with cycle := d.cycle + 1 }, w') := by
  simp [observe, poll, hdue, Directory.recorded, hlist, merge]

end

/-! ### One call more -/

section

variable (h : List Event) (e : Event)

theorem polls_concat : polls (h ++ [e]) = polls h + if e.isPoll then 1 else 0 := by
  simp [polls, List.countP_append]

theorem knownAfter_concat : knownAfter (h ++ [e]) = e.known := by
  simp [knownAfter]

theorem reported_concat : reported (h ++ [e]) = reported h ++ e.report.toOption.getD [] := by
  simp [reported]

variable {h e}

theorem lastMerged_concat_of_some {listing : List VmDescriptor} (hm : e.merged? = some listing) :
    lastMerged (h ++ [e]) = listing := by
  simp [lastMerged, hm]

theorem lastMerged_concat_of_none (hm : e.merged? = none) :
    lastMerged (h ++ [e]) = lastMerged h := by
  simp [lastMerged, hm]

/-- What was merged last was merged by some call, unless nothing was. -/
theorem exists_of_mem_lastMerged {vm : VmDescriptor} (hvm : vm ∈ lastMerged h) :
    ∃ e ∈ h, e.merged? = some (lastMerged h) := by
  cases hlast : (h.filterMap (·.merged?)).getLast? with
  | none => simp [lastMerged, hlast] at hvm
  | some listing =>
    obtain ⟨e, he, hmerged⟩ := List.mem_filterMap.1 (List.mem_of_getLast? hlast)
    exact ⟨e, he, by simp [lastMerged, hlast, hmerged]⟩

end

/-- A discovery is what its history says, and every instance of the history was reported. -/
structure Reflects (interval : Nat) (h : List Event) (d : Discovery) : Prop where
  cycle : d.cycle = polls h
  interval_eq : d.interval = max interval 1
  known : d.known = knownAfter h
  has_iff : ∀ id, Table.has id d.known ↔ id ∈ (lastMerged h).map (·.id)
  told : ∀ e ∈ h, ∀ listing, e.merged? = some listing → ∀ vm ∈ listing,
    vm.id ∈ (reported h).map (·.id)

namespace Reflects

variable {interval : Nat} {h : List Event} {d d' : Discovery} {e : Event}

theorem new (interval : Nat) : Reflects interval [] (new interval) :=
  ⟨rfl, rfl, rfl, by simp [Discovery.new, Table.has, Table.get?, lastMerged], by simp⟩

/-- What was reported stays reported. -/
theorem told_concat (hr : Reflects interval h d) (e : Event) : ∀ e' ∈ h, ∀ listing,
    e'.merged? = some listing → ∀ vm ∈ listing, vm.id ∈ (reported (h ++ [e])).map (·.id) := by
  intro e' he' listing hmerged vm hvm
  rw [reported_concat, List.map_append]
  exact List.mem_append_left _ (hr.told e' he' listing hmerged vm hvm)

/-- A call that merges nothing leaves what is known. -/
theorem keep (hr : Reflects interval h d) (hmerged : e.merged? = none) (hknown : e.known = d.known)
    (hknown' : d'.known = d.known) (hinterval : d'.interval = d.interval)
    (hcycle : d'.cycle = polls (h ++ [e])) : Reflects interval (h ++ [e]) d' where
  cycle := hcycle
  interval_eq := hinterval.trans hr.interval_eq
  known := by rw [knownAfter_concat, hknown', hknown]
  has_iff := by
    rw [hknown', lastMerged_concat_of_none hmerged]
    exact hr.has_iff
  told := by
    intro e' he' listing hlisting vm hvm
    rcases List.mem_append.1 he' with he' | he'
    · exact hr.told_concat e e' he' listing hlisting vm hvm
    · obtain rfl := List.mem_singleton.1 he'
      simp [hmerged] at hlisting

/-- The new entries of a listing are those that the listing before did not have. -/
theorem merge_eq (hr : Reflects interval h d) (listing : List VmDescriptor) : (d.merge listing).1 =
    listing.filter fun vm => vm.id ∉ (lastMerged h).map (·.id) := by
  refine List.filter_congr fun vm _ => ?_
  rw [Bool.eq_iff_iff, Bool.not_eq_true', ← Bool.not_eq_true, hr.has_iff, decide_eq_true_eq]

/-- A call that merges a listing reports whatever was not reported before. -/
theorem take (hr : Reflects interval h d) {listing : List VmDescriptor}
    (hmerged : e.merged? = some listing) (hreport : e.report = .ok (d.merge listing).1)
    (hknown : e.known = (d.merge listing).2.known) (hknown' : d'.known = e.known)
    (hinterval : d'.interval = d.interval) (hcycle : d'.cycle = polls (h ++ [e])) :
    Reflects interval (h ++ [e]) d' where
  cycle := hcycle
  interval_eq := hinterval.trans hr.interval_eq
  known := by rw [knownAfter_concat, hknown']
  has_iff := by
    rw [hknown', hknown, lastMerged_concat_of_some hmerged]
    exact has_merge d listing
  told := by
    intro e' he' listing' hlisting' vm hvm
    rcases List.mem_append.1 he' with he' | he'
    · exact hr.told_concat e e' he' listing' hlisting' vm hvm
    obtain rfl := List.mem_singleton.1 he'
    obtain rfl := Option.some.inj (hlisting'.symm.trans hmerged)
    by_cases hold : vm.id ∈ (lastMerged h).map (·.id)
    · -- The listing before had the instance, so it was reported by then.
      obtain ⟨vm', hvm', hid⟩ := List.mem_map.1 hold
      obtain ⟨e'', he'', hlast⟩ := exists_of_mem_lastMerged hvm'
      exact hid ▸ hr.told_concat e' e'' he'' _ hlast vm' hvm'
    · rw [reported_concat, hreport, hr.merge_eq, List.map_append]
      refine List.mem_append_right _ (List.mem_map_of_mem ?_)
      exact List.mem_filter.2 ⟨hvm, by simpa using hold⟩

theorem due_iff (hr : Reflects interval h d) :
    d.cycle % d.interval = 0 ↔ max interval 1 ∣ polls h := by
  rw [hr.cycle, hr.interval_eq, Nat.dvd_iff_mod_eq_zero]

/-- **A call follows the rules**, and what it leaves goes on being reflected. -/
theorem observe (hr : Reflects interval h d) (directory : Directory ω) (w : ω) (call : Call) :
    (d.observe directory w call).1.Follows interval h ∧
      Reflects interval (h ++ [(d.observe directory w call).1]) (d.observe directory w call).2.1 := by
  have hcycle {e : Event} (he : e.isPoll) : d.cycle + 1 = polls (h ++ [e]) := by
    rw [polls_concat, hr.cycle, if_pos he]
  cases call with
  | merge listing =>
    have hpolls : d.cycle = polls (h ++ [(d.observe directory w (.merge listing)).1]) := by
      rw [polls_concat, hr.cycle]
      rfl
    refine ⟨⟨rfl, nofun, nofun, ?_⟩, hr.take rfl rfl rfl rfl rfl hpolls⟩
    rintro _ ⟨⟩
    exact ⟨congrArg _ (hr.merge_eq listing), knows_merge d listing⟩
  | poll =>
    by_cases hdue : d.cycle % d.interval = 0
    · have hasked : (1 : Nat) = if max interval 1 ∣ polls h then 1 else 0 :=
        (if_pos (hr.due_iff.1 hdue)).symm
      rcases hlist : directory.list w with ⟨err | listing, w'⟩
      · rw [observe_of_error hdue hlist]
        refine ⟨⟨by simpa [Event.isPoll] using hasked, nofun, ?_, nofun⟩,
          hr.keep rfl rfl rfl rfl (hcycle rfl)⟩
        rintro _ ⟨⟩
        exact ⟨rfl, hr.known⟩
      · rw [observe_of_ok hdue hlist]
        refine ⟨⟨by simpa [Event.isPoll] using hasked, nofun, nofun, ?_⟩,
          hr.take rfl rfl rfl rfl rfl (hcycle rfl)⟩
        rintro _ ⟨⟩
        exact ⟨congrArg _ (hr.merge_eq listing), knows_merge d listing⟩
    · have hasked : (0 : Nat) = if max interval 1 ∣ polls h then 1 else 0 :=
        (if_neg (hdue ∘ hr.due_iff.2)).symm
      rw [observe_of_not_due hdue]
      exact ⟨⟨by simpa [Event.isPoll] using hasked, fun _ _ => ⟨rfl, hr.known⟩, nofun, nofun⟩,
        hr.keep rfl rfl rfl rfl (hcycle rfl)⟩

/-- Any number of calls follow the rules, each after those before it. -/
theorem history (hr : Reflects interval h d) (directory : Directory ω) (calls : List Call) (w : ω) :
    (∀ before e later, d.history directory w calls = before ++ e :: later →
      e.Follows interval (h ++ before)) ∧
    ∃ d', Reflects interval (h ++ d.history directory w calls) d' := by
  induction calls generalizing h d w with
  | nil => exact ⟨by simp [Discovery.history], d, by simpa [Discovery.history] using hr⟩
  | cons call calls ih =>
    obtain ⟨hfollows, hr'⟩ := hr.observe directory w call
    obtain ⟨hcalls, d', hr''⟩ := ih hr' (d.observe directory w call).2.2
    refine ⟨fun before e later heq => ?_, d', ?_⟩
    · simp only [Discovery.history] at heq
      cases before with
      | nil =>
        obtain ⟨rfl, -⟩ := List.cons.inj heq
        simpa using hfollows
      | cons e' before =>
        obtain ⟨rfl, hlater⟩ := List.cons.inj heq
        simpa using hcalls before e later hlater
    · simpa [Discovery.history] using hr''

end Reflects

/-! ### Any calls -/

/-- A history has an event for each call. -/
theorem map_call_history (directory : Directory ω) (d : Discovery) (w : ω) (calls : List Call) :
    (d.history directory w calls).map (·.call) = calls := by
  induction calls generalizing d w with
  | nil => rfl
  | cons call calls ih =>
    have hcall : (d.observe directory w call).1.call = call := by cases call <;> rfl
    simp [history, ih, hcall]

/-- **What discovery reports.** Each call of a history follows the rules after those before it: a
listing is due in every so many cycles, whether it fails or not, a listing is compared with the one that
was merged before it, and nothing else is reported or changes what is known. Every instance that was
ever listed is among those reported. -/
theorem diffing (directory : Directory ω) (interval : Nat) (w : ω) (calls : List Call) :
    let h := (new interval).history directory w calls
    h.map (·.call) = calls ∧
    (∀ before e later, h = before ++ e :: later → e.Follows interval before) ∧
    ∀ e ∈ h, ∀ listing, e.merged? = some listing → ∀ vm ∈ listing,
      vm.id ∈ (reported h).map (·.id) := by
  obtain ⟨hfollows, d', hr⟩ := (Reflects.new interval).history directory calls w
  exact ⟨map_call_history directory _ w calls, by simpa using hfollows, by simpa using hr.told⟩

/-- A directory that answers from a list. -/
def scripted : Directory (List (Except MonitorError (List VmDescriptor))) where
  list := fun answers => (answers.headD (.ok []), answers.tail)

def seen : VmDescriptor := ⟨7, "", true, .localProcess 7⟩

/-- In every other cycle a listing: one with an instance, one that fails, and the first one again. An
empty listing is merged before the one that fails. -/
def interrupted : List Event :=
  (new 2).history scripted [.ok [seen], .error (.discovery "gone"), .ok [seen]]
    [.poll, .poll, .merge [], .poll, .poll, .poll]

/-- The instance is reported again, since the listing that was merged last did not have it. -/
theorem diffing_of_interrupted : ∃ before e, interrupted = before ++ [e] ∧
    e.merged? = some [seen] ∧ polls before = 4 ∧ e.asked.length = 1 ∧ e.report = .ok [seen] ∧
    seen.id ∈ (reported interrupted).map (·.id) := by
  obtain ⟨-, hfollows, htold⟩ := diffing scripted 2
    [.ok [seen], .error (.discovery "gone"), .ok [seen]]
    [.poll, .poll, .merge [], .poll, .poll, .poll]
  have hsplit : interrupted = interrupted.take 5 ++ [interrupted[5]] := rfl
  have hlast := hfollows (interrupted.take 5) interrupted[5] [] hsplit
  refine ⟨_, _, hsplit, rfl, rfl, hlast.asked_length, (hlast.merged [seen] rfl).1, ?_⟩
  exact htold interrupted[5] (List.getElem_mem _) [seen] rfl seen (.head _)

end Discovery

end VmMonitor
