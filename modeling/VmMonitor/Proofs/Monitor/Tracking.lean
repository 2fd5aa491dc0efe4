import VmMonitor.Monitor
import VmMonitor.Proofs.Instance.Update

/-!
# Which instances are tracked

Listings may repeat an instance, drop it, bring it back, or fail. Discovery reports whatever the last
listing did not have, tracking skips what is tracked, and the registry keeps a session per instance;
together they see to it that an instance is tracked once, and that one attempt is made to connect to
it.

## What is proved

* `fresh` — what a listing adds to the tracked instances, and that discovery reports enough for it.
* `Monitor.track_spec`, `Monitor.updateAll_spec` — what the two halves of a cycle do.
* `Monitor.exists_worksOff` — what a cycle does with a listing, over any peers.
* `Monitor.Tracks.cycle` — **the invariant** is kept by a cycle, whatever its listing is.
* `Monitor.tracking` — what that comes to, for any run of cycles and for the next one.
-/

namespace VmMonitor

/-! ### What a listing adds -/

/-- The first entry of each instance that is not among the given ones, in the order of the listing. -/
def fresh : List InstanceId → List VmDescriptor → List VmDescriptor
  | _, [] => []
  | seen, d :: ds => if d.id ∈ seen then fresh seen ds else d :: fresh (seen ++ [d.id]) ds

theorem nodup_fresh {seen : List InstanceId} (h : seen.Nodup) (ds : List VmDescriptor) :
    (seen ++ (fresh seen ds).map (·.id)).Nodup := by
  induction ds generalizing seen with
  | nil => simpa [fresh] using h
  | cons d ds ih =>
    simp only [fresh]
    split_ifs with hd
    · exact ih h
    · have hnodup : (seen ++ [d.id]).Nodup := by
        rw [List.nodup_append]
        refine ⟨h, by simp, fun id hid id' hid' heq => ?_⟩
        obtain rfl := List.mem_singleton.1 hid'
        exact hd (heq ▸ hid)
      simpa using ih hnodup

/-- Whoever is fresh was not seen before. -/
theorem not_mem_of_mem_fresh {seen : List InstanceId} {ds : List VmDescriptor} {d : VmDescriptor}
    (h : d ∈ fresh seen ds) : d.id ∉ seen := by
  induction ds generalizing seen with
  | nil => simp [fresh] at h
  | cons d' ds ih =>
    simp only [fresh] at h
    split_ifs at h with hd'
    · exact ih h
    · rcases List.mem_cons.1 h with rfl | h
      · exact hd'
      · exact fun hd => ih h (List.mem_append_left _ hd)

theorem mem_of_mem_fresh {seen : List InstanceId} {ds : List VmDescriptor} {d : VmDescriptor}
    (h : d ∈ fresh seen ds) : d ∈ ds := by
  induction ds generalizing seen with
  | nil => simp [fresh] at h
  | cons d' ds ih =>
    simp only [fresh] at h
    split_ifs at h
    · exact .tail _ (ih h)
    · rcases List.mem_cons.1 h with rfl | h
      · exact .head _
      · exact .tail _ (ih h)

theorem mem_fresh {seen : List InstanceId} {ds : List VmDescriptor} {id : InstanceId} :
    id ∈ seen ++ (fresh seen ds).map (·.id) ↔ id ∈ seen ∨ id ∈ ds.map (·.id) := by
  induction ds generalizing seen with
  | nil => simp [fresh]
  | cons d ds ih =>
    simp only [fresh]
    split_ifs with hd
    · rw [ih, List.map_cons, List.mem_cons]
      constructor
      · exact Or.imp_right .inr
      · rintro (h | rfl | h)
        · exact .inl h
        · exact .inl hd
        · exact .inr h
    · have hcons := @ih (seen ++ [d.id])
      simp only [List.append_assoc, List.singleton_append] at hcons
      rw [List.map_cons, hcons]
      simp [or_assoc]

/-- Entries of given instances may be left out before. -/
theorem fresh_filter {seen : List InstanceId} {p : VmDescriptor → Bool} {ds : List VmDescriptor}
    (h : ∀ d ∈ ds, p d = false → d.id ∈ seen) : fresh seen (ds.filter p) = fresh seen ds := by
  induction ds generalizing seen with
  | nil => rfl
  | cons d ds ih =>
    have hd := h d (.head _)
    have hds : ∀ d ∈ ds, p d = false → d.id ∈ seen := fun d hd => h d (.tail _ hd)
    cases hp : p d with
    | false => simp [fresh, hp, hd hp, ih hds]
    | true =>
      simp only [List.filter_cons, hp, if_true, fresh]
      split_ifs
      · exact ih hds
      · rw [ih fun d hd hp => List.mem_append_left _ (hds d hd hp)]

/-- The attempts to connect that tracking the instances takes. -/
def attempts (ds : List VmDescriptor) : List Endpoint := (ds.filter (·.attachable)).map (·.endpoint)

theorem attempts_append (ds ds' : List VmDescriptor) :
    attempts (ds ++ ds') = attempts ds ++ attempts ds' := by
  simp [attempts]

theorem attempts_perm {ds ds' : List VmDescriptor} (h : ds.Perm ds') :
    (attempts ds).Perm (attempts ds') := (h.filter _).map _

/-! ### Listings -/

namespace Directory

variable {ω : Type}

/-- The directory beside a record of traffic, to which it adds nothing. -/
def logged (directory : Directory ω) : Directory (Logged ω) where
  list := fun (log, w) =>
    let (result, w) := directory.list w
    (result, (log, w))

end Directory

namespace Discovery

variable {ω : Type}

/-- The listing of a cycle; empty if none is due. -/
def scan (directory : Directory ω) (d : Discovery) (w : ω) :
    Except MonitorError (List VmDescriptor) × ω :=
  if d.cycle % d.interval = 0 then directory.list w else (.ok [], w)

/-- A record of traffic makes no difference to a listing. -/
theorem scan_logged {directory : Directory ω} {d : Discovery} {w w' : ω}
    {result : Except MonitorError (List VmDescriptor)} (h : d.scan directory w = (result, w'))
    (log : List Traffic) : d.scan directory.logged (log, w) = (result, (log, w')) := by
  simp only [scan] at h ⊢
  split_ifs at h ⊢ with hdue
  · simp [Directory.logged, h]
  · cases h
    rfl

/-- A failed listing is passed on, and what is known stays. -/
theorem poll_of_error {directory : Directory ω} {d : Discovery} {w w' : ω} {e : MonitorError}
    (h : d.scan directory w = (.error e, w')) :
    d.poll directory w = (.error e, { d with cycle := d.cycle + 1 }, w') := by
  simp only [scan] at h
  split_ifs at h with hdue
  · simp [poll, hdue, h]
  · simp at h

/-- What is reported are entries of the listing, and among them all of instances that were not
known; what is known after that was known or listed. -/
theorem poll_of_ok {directory : Directory ω} {d : Discovery} {w w' : ω} {listing : List VmDescriptor}
    (h : d.scan directory w = (.ok listing, w')) :
    ∃ d', d.poll directory w =
        (.ok (listing.filter fun vm => !Table.has vm.id d.known), d', w') ∧
      d'.cycle = d.cycle + 1 ∧ d'.interval = d.interval ∧
      ∀ id, Table.has id d'.known → Table.has id d.known ∨ id ∈ listing.map (·.id) := by
  simp only [scan] at h
  split_ifs at h with hdue
  · have hpoll : d.poll directory w =
        (.ok (d.merge listing).1, { (d.merge listing).2 with cycle := d.cycle + 1 }, w') := by
      simp [poll, hdue, h, merge]
    refine ⟨_, hpoll, rfl, rfl, fun id hid => .inr ?_⟩
    obtain ⟨vm, hvm⟩ := (Table.has_ofList id _).1 hid
    obtain ⟨vm', hvm', heq⟩ := List.mem_map.1 hvm
    exact List.mem_map.2 ⟨vm', hvm', (Prod.mk.inj heq).1⟩
  · simp only [Prod.mk.injEq, Except.ok.injEq] at h
    obtain ⟨rfl, rfl⟩ := h
    exact ⟨{ d with cycle := d.cycle + 1 }, by simp [poll, hdue], rfl, rfl, fun id hid => .inl hid⟩

end Discovery

/-! ### Tracking one instance -/

section

variable {ω : Type} (t : Transport ω)

/-- Whoever is registered is tracked. -/
def Registry.Within (r : Registry) (ids : List InstanceId) : Prop :=
  ∀ id i, r.get? id = some i → id ∈ ids

namespace TrackedVm

/-- An update makes no attempt to connect. -/
theorem opens_update (vm : TrackedVm) (world : World (Logged ω)) :
    opens (vm.update t.logged world).2.2.peers.1 = opens world.peers.1 := by
  rcases hu : vm.update t.logged world with ⟨result, vm', world'⟩
  obtain ⟨sent, hsent, -, hcourse⟩ := update_course t hu
  simp [hsent, opens_append, opens_eq_nil hcourse.not_isConnect]

/-- A new session tries to connect if the instance can be attached to. -/
theorem opens_attach (d : VmDescriptor) {world : World (Logged ω)}
    (h : world.registry.get? d.id = none) :
    opens (attach t.logged d world).2.peers.1 = opens world.peers.1 ++ attempts [d] := by
  have hsettle : opens (settle t.logged d world).2.peers.1 = opens world.peers.1 ++ attempts [d] := by
    simp only [settle, Registry.attach_of_get?_eq_none h]
    rw [World.onSession_of_some (s := Session.new d.id d.endpoint) (by simp [Registry.session?])]
    cases ha : d.attachable with
    | false =>
      simp [attempts, ha, Session.markNotAttachable, Session.apply_of_none, Session.new]
    | true =>
      obtain ⟨l, hl, hne, hpast, hendpoint⟩ :=
        Session.Past.of_connect (t := t) (s := Session.new d.id d.endpoint) rfl rfl world.peers
      have hopens : opens l = [d.endpoint] := by
        rw [hpast.opens_eq hne, hendpoint]
        rfl
      simp [attempts, ha, hl, opens_append, hopens]
  rw [attach_eq]
  split_ifs
  · exact (opens_update t _ _).trans hsettle
  · exact hsettle

/-- An instance that is not registered yet gets a session of its own, under which it is registered. -/
theorem attach_within (d : VmDescriptor) {world : World ω} {ids : List InstanceId}
    (h : world.registry.get? d.id = none) (hreg : world.registry.Within ids) :
    (attach t d world).1.descriptor = d ∧ (attach t d world).2.registry.Within (ids ++ [d.id]) := by
  have hregistered : (settle t d world).2.registry.registered =
      world.registry.registered.set d.id world.registry.sessions.length := by
    simp only [settle, Registry.attach_of_get?_eq_none h]
    rw [World.onSession_registered]
  have hwithin : ∀ r : Registry, r.registered = (settle t d world).2.registry.registered →
      r.Within (ids ++ [d.id]) := by
    intro r hr id i hid
    rw [Registry.get?, hr, hregistered, Register.get?_set] at hid
    split_ifs at hid with hd
    · simp [hd]
    · exact List.mem_append_left _ (hreg id i hid)
  rw [attach_eq]
  split_ifs
  · exact ⟨rfl, hwithin _ (update_registered _ _ _)⟩
  · exact ⟨rfl, hwithin _ rfl⟩

end TrackedVm

theorem Registry.Within.get?_eq_none {r : Registry} {ids : List InstanceId} (h : r.Within ids)
    {id : InstanceId} (hid : id ∉ ids) : r.get? id = none := by
  rw [Option.eq_none_iff_forall_ne_some]
  exact fun i hi => hid (h id i hi)

/-! ### One cycle -/

namespace Monitor

theorem track_cons_of_mem {d : VmDescriptor} {tracked : List TrackedVm}
    (h : d.id ∈ tracked.map (·.id)) (ds : List VmDescriptor) (world : World ω) :
    track t (d :: ds) tracked world = track t ds tracked world := by
  have hany : tracked.any fun vm => vm.id = d.id := by simpa using h
  simp only [track, hany, if_true]

theorem track_cons_of_not_mem {d : VmDescriptor} {tracked : List TrackedVm}
    (h : d.id ∉ tracked.map (·.id)) (ds : List VmDescriptor) (world : World ω) :
    track t (d :: ds) tracked world = track t ds (tracked ++ [(TrackedVm.attach t d world).1])
      (TrackedVm.attach t d world).2 := by
  have hany : (tracked.any fun vm => vm.id = d.id) = false := by simpa using h
  simp only [track, hany, Bool.false_eq_true, if_false]

/-- Tracked are the fresh ones, after those that were. -/
theorem track_spec (ds : List VmDescriptor) {tracked : List TrackedVm} {world : World ω}
    (hreg : world.registry.Within (tracked.map (·.id))) :
    ∃ vms, (track t ds tracked world).1 = tracked ++ vms ∧
      vms.map (·.descriptor) = fresh (tracked.map (·.id)) ds ∧
      (track t ds tracked world).2.registry.Within ((tracked ++ vms).map (·.id)) := by
  induction ds generalizing tracked world with
  | nil => exact ⟨[], by simp [track], rfl, by simpa [track] using hreg⟩
  | cons d ds ih =>
    by_cases hd : d.id ∈ tracked.map (·.id)
    · simp only [track_cons_of_mem t hd, fresh, hd, if_true]
      exact ih hreg
    · obtain ⟨hdesc, hwithin⟩ := TrackedVm.attach_within t d (hreg.get?_eq_none hd) hreg
      rw [track_cons_of_not_mem t hd]
      rcases hattach : TrackedVm.attach t d world with ⟨vm, world'⟩
      simp only [hattach] at hdesc hwithin
      have hids : (tracked ++ [vm]).map (·.id) = tracked.map (·.id) ++ [d.id] := by
        simp [TrackedVm.id, hdesc]
      rw [← hids] at hwithin
      obtain ⟨vms, htracked, hfresh, hreg'⟩ := ih hwithin
      simp only [fresh, hd, if_false]
      exact ⟨vm :: vms, by simp [htracked], by simp [hdesc, hfresh, hids], by simpa using hreg'⟩

/-- Only the fresh ones make attempts to connect. -/
theorem opens_track (ds : List VmDescriptor) {tracked : List TrackedVm} {world : World (Logged ω)}
    (hreg : world.registry.Within (tracked.map (·.id))) :
    opens (track t.logged ds tracked world).2.peers.1 =
      opens world.peers.1 ++ attempts (fresh (tracked.map (·.id)) ds) := by
  induction ds generalizing tracked world with
  | nil => simp [track, fresh, attempts]
  | cons d ds ih =>
    by_cases hd : d.id ∈ tracked.map (·.id)
    · simp only [track_cons_of_mem t.logged hd, fresh, hd, if_true]
      exact ih hreg
    · have hnone := hreg.get?_eq_none hd
      obtain ⟨hdesc, hwithin⟩ := TrackedVm.attach_within t.logged d hnone hreg
      have hids : (tracked ++ [(TrackedVm.attach t.logged d world).1]).map (·.id) =
          tracked.map (·.id) ++ [d.id] := by
        simp [TrackedVm.id, hdesc]
      rw [← hids] at hwithin
      simp only [fresh, hd, if_false]
      rw [track_cons_of_not_mem t.logged hd, ih hwithin, hids, TrackedVm.opens_attach t d hnone,
        List.append_assoc, ← attempts_append]
      rfl

/-- Updates keep all instances in their places. -/
theorem updateAll_spec (vms : List TrackedVm) (world : World ω) :
    (updateAll t vms world).1.map (fun vm => (vm.descriptor, vm.session)) =
        vms.map (fun vm => (vm.descriptor, vm.session)) ∧
      (updateAll t vms world).2.registry.registered = world.registry.registered := by
  induction vms generalizing world with
  | nil => exact ⟨rfl, rfl⟩
  | cons vm vms ih =>
    obtain ⟨hvms, hregistered⟩ := ih (vm.update t world).2.2
    simp only [updateAll, List.map_cons, hvms]
    exact ⟨rfl, hregistered.trans (TrackedVm.update_registered _ _ _)⟩

theorem opens_updateAll (vms : List TrackedVm) (world : World (Logged ω)) :
    opens (updateAll t.logged vms world).2.peers.1 = opens world.peers.1 := by
  induction vms generalizing world with
  | nil => rfl
  | cons vm vms ih => exact (ih _).trans (TrackedVm.opens_update t vm world)

variable {t} {directory : Directory ω}

/-- A cycle without a listing moves the clock of discovery and does nothing else. -/
theorem cycle_of_error {m : Monitor} {log : List Traffic} {w w' : ω} {e : MonitorError}
    (h : m.discovery.scan directory w = (.error e, w')) :
    m.cycle t.logged directory.logged (log, w) =
      (.error e, { m with discovery := { m.discovery with cycle := m.discovery.cycle + 1 } },
        (log, w')) := by
  simp [cycle, Discovery.poll_of_error (Discovery.scan_logged h log)]

/-- What holds of a monitor between two cycles, with all traffic since it began: an instance is
tracked once, whoever is registered or known to discovery is tracked, and one attempt to connect was
made for each tracked instance that can be attached to. -/
structure Tracks (order : SortOrder) (m : Monitor) (log : List Traffic) : Prop where
  order_eq : m.order = order
  nodup : (m.tracked.map (·.id)).Nodup
  registered : m.registry.Within (m.tracked.map (·.id))
  known : ∀ id, Table.has id m.discovery.known → id ∈ m.tracked.map (·.id)
  opened : (opens log).Perm (attempts (m.tracked.map (·.descriptor)))

/-- What a cycle does with a listing: those tracked before, updated, and after them the fresh entries
of the listing are put in order. -/
structure Listed (m : Monitor) (listing : List VmDescriptor) (kept added : List TrackedVm)
    (m' : Monitor) : Prop where
  tracked : m'.tracked = m.order.sort TrackedVm.metrics (kept ++ added)
  kept : kept.map (fun vm => (vm.descriptor, vm.session)) =
    m.tracked.map (fun vm => (vm.descriptor, vm.session))
  added : added.map (·.descriptor) = fresh (m.tracked.map (·.id)) listing
  published : m'.published = m'.tracked.map fun vm => vm.row m'.registry
  order : m'.order = m.order

namespace Listed

variable {m m' : Monitor} {listing : List VmDescriptor} {kept added : List TrackedVm}

theorem perm (h : Listed m listing kept added m') : m'.tracked.Perm (kept ++ added) :=
  h.tracked ▸ List.mergeSort_perm _ _

theorem descriptors (h : Listed m listing kept added m') :
    (m'.tracked.map (·.descriptor)).Perm
      (m.tracked.map (·.descriptor) ++ fresh (m.tracked.map (·.id)) listing) := by
  have hkept := congrArg (List.map Prod.fst) h.kept
  simp only [List.map_map] at hkept
  have hdescriptors : (kept ++ added).map (·.descriptor) =
      m.tracked.map (·.descriptor) ++ fresh (m.tracked.map (·.id)) listing := by
    rw [List.map_append, h.added]
    exact congrArg (· ++ _) hkept
  exact hdescriptors ▸ h.perm.map _

theorem ids (h : Listed m listing kept added m') :
    (m'.tracked.map (·.id)).Perm
      (m.tracked.map (·.id) ++ (fresh (m.tracked.map (·.id)) listing).map (·.id)) := by
  simpa [List.map_map, Function.comp_def, TrackedVm.id] using h.descriptors.map (·.id)

/-- Tracked are those that were and those that are listed. -/
theorem mem_ids (h : Listed m listing kept added m') (id : InstanceId) :
    id ∈ m'.tracked.map (·.id) ↔ id ∈ m.tracked.map (·.id) ∨ id ∈ listing.map (·.id) := by
  rw [h.ids.mem_iff, mem_fresh]

end Listed

/-- An instance is tracked once, and whoever is registered or known to discovery is tracked. -/
structure TracksOnce (m : Monitor) : Prop where
  nodup : (m.tracked.map (·.id)).Nodup
  registered : m.registry.Within (m.tracked.map (·.id))
  known : ∀ id, Table.has id m.discovery.known → id ∈ m.tracked.map (·.id)

/-- What discovery reports of a listing. -/
def news (m : Monitor) (listing : List VmDescriptor) : List VmDescriptor :=
  listing.filter fun vm => !Table.has vm.id m.discovery.known

/-- What discovery leaves out is tracked. -/
theorem TracksOnce.fresh_news {m : Monitor} (h : m.TracksOnce) (listing : List VmDescriptor) :
    fresh (m.tracked.map (·.id)) (m.news listing) = fresh (m.tracked.map (·.id)) listing :=
  fresh_filter fun d _ hd => h.known d.id (by simpa using hd)

/-- A cycle to `m'` and `w'` that works off `listing` with the peers at `w`, by its two halves: `vms`
join those that are tracked, in `world`, and then all are updated. -/
structure WorksOff (t : Transport ω) (m : Monitor) (listing : List VmDescriptor) (w : ω)
    (vms : List TrackedVm) (world : World ω) (kept added : List TrackedVm) (m' : Monitor) (w' : ω) :
    Prop where
  track : Monitor.track t (m.news listing) m.tracked ⟨m.registry, w⟩ = (m.tracked ++ vms, world)
  update : updateAll t (m.tracked ++ vms) world = (kept ++ added, ⟨m'.registry, w'⟩)
  listed : Listed m listing kept added m'
  turn : m'.discovery.cycle = m.discovery.cycle + 1
  interval : m'.discovery.interval = m.discovery.interval
  once : m'.TracksOnce

theorem WorksOff.sessions {m m' : Monitor} {listing : List VmDescriptor} {w w' : ω} {world : World ω}
    {vms kept added : List TrackedVm} (h : WorksOff t m listing w vms world kept added m' w') :
    (m'.tracked.map (·.session)).Perm ((m.tracked ++ vms).map (·.session)) := by
  have hsame := (updateAll_spec t (m.tracked ++ vms) world).1
  rw [h.update] at hsame
  have hsessions : (kept ++ added).map (·.session) = (m.tracked ++ vms).map (·.session) := by
    simpa [List.map_map, Function.comp_def] using congrArg (List.map Prod.snd) hsame
  exact hsessions ▸ h.listed.perm.map _

/-- A cycle with a listing works it off. -/
theorem exists_worksOff (t : Transport ω) {m : Monitor} (hm : m.TracksOnce) {w w₁ : ω}
    {listing : List VmDescriptor} (h : m.discovery.scan directory w = (.ok listing, w₁)) :
    ∃ vms world kept added m' w', m.cycle t directory w =
        (.ok (m'.tracked.map fun vm => vm.row m'.registry), m', w') ∧
      WorksOff t m listing w₁ vms world kept added m' w' := by
  obtain ⟨d', hpoll, hturn, hinterval, hknown⟩ := Discovery.poll_of_ok h
  change m.discovery.poll directory w = (.ok (m.news listing), d', w₁) at hpoll
  have hwithin : (World.mk m.registry w₁).registry.Within (m.tracked.map (·.id)) := hm.registered
  obtain ⟨vms, htrack, hvms, hreg⟩ := track_spec t (m.news listing) hwithin
  rw [hm.fresh_news] at hvms
  rcases htr : track t (m.news listing) m.tracked ⟨m.registry, w₁⟩ with ⟨tracked, world⟩
  simp only [htr] at htrack hreg
  subst htrack
  obtain ⟨hsame, hregistered⟩ := updateAll_spec t (m.tracked ++ vms) world
  rcases hup : updateAll t (m.tracked ++ vms) world with ⟨updated, world'⟩
  simp only [hup, List.map_append] at hsame hregistered
  obtain ⟨kept, added, rfl, hkept, hadded⟩ := List.map_eq_append_iff.1 hsame
  rcases hc : m.cycle t directory w with ⟨result, m', w'⟩
  simp only [cycle, hpoll, htr, hup, Prod.mk.injEq] at hc
  obtain ⟨rfl, hm', rfl⟩ := hc
  have hlisted : Listed m listing kept added m' := by
    subst hm'
    have hdescriptors := congrArg (List.map Prod.fst) hadded
    exact ⟨rfl, hkept, by simpa [Function.comp_def, hvms] using hdescriptors, rfl, rfl⟩
  subst hm'
  refine ⟨vms, world, kept, added, _, _, rfl, htr, hup, hlisted, hturn, hinterval, ?_, ?_, ?_⟩
  · exact hlisted.ids.nodup_iff.2 (nodup_fresh hm.nodup _)
  · intro id i hid
    have hvms' : vms.map (·.id) = (fresh (m.tracked.map (·.id)) listing).map (·.id) := by
      simpa [Function.comp_def, TrackedVm.id] using congrArg (List.map (·.id)) hvms
    rw [hlisted.ids.mem_iff, ← hvms', ← List.map_append]
    exact hreg id i (by rwa [Registry.get?, ← hregistered])
  · exact fun id hid => (hlisted.mem_ids id).2 ((hknown id hid).imp_left (hm.known id))

theorem Tracks.once {order : SortOrder} {m : Monitor} {log : List Traffic} (h : m.Tracks order log) :
    m.TracksOnce := ⟨h.nodup, h.registered, h.known⟩

/-- A cycle with a listing. -/
theorem cycle_of_ok {m : Monitor} {log : List Traffic} {w w' : ω} {listing : List VmDescriptor}
    {order : SortOrder} (hm : m.Tracks order log)
    (h : m.discovery.scan directory w = (.ok listing, w')) :
    ∃ kept added m' x', m.cycle t.logged directory.logged (log, w) =
        (.ok (m'.tracked.map fun vm => vm.row m'.registry), m', x') ∧
      Listed m listing kept added m' ∧ m'.Tracks order x'.1 ∧
      opens x'.1 = opens log ++ attempts (fresh (m.tracked.map (·.id)) listing) := by
  obtain ⟨vms, world, kept, added, m', x', hc, hworks⟩ :=
    exists_worksOff t.logged hm.once (Discovery.scan_logged h log)
  have hopens : opens x'.1 = opens log ++ attempts (fresh (m.tracked.map (·.id)) listing) := by
    have hwithin : (World.mk m.registry (log, w')).registry.Within (m.tracked.map (·.id)) :=
      hm.registered
    have htrack := opens_track t (m.news listing) hwithin
    have hupdate := opens_updateAll t (m.tracked ++ vms) world
    rw [hworks.track, hm.once.fresh_news] at htrack
    rw [hworks.update] at hupdate
    exact hupdate.trans htrack
  obtain ⟨hnodup, hregistered, hknown⟩ := hworks.once
  refine ⟨kept, added, m', x', hc, hworks.listed,
    ⟨hworks.listed.order.trans hm.order_eq, hnodup, hregistered, hknown, ?_⟩, hopens⟩
  rw [hopens]
  refine (hm.opened.append_right _).trans ?_
  rw [← attempts_append]
  exact attempts_perm hworks.listed.descriptors.symm

/-! ### Runs of cycles -/

/-- The cycles of a monitor from `m₀` on, with all that is sent in them. Between two cycles anything
may happen to the peers and to what is listed. -/
inductive Cycled (t : Transport ω) (directory : Directory ω) (m₀ : Monitor) :
    Monitor → Logged ω → Prop
  | start (w : ω) : Cycled t directory m₀ m₀ ([], w)
  | cycle {m m' : Monitor} {x x' : Logged ω} {result : Except MonitorError (List InstanceRow)} :
      Cycled t directory m₀ m x → m.cycle t.logged directory.logged x = (result, m', x') →
      Cycled t directory m₀ m' x'
  | elsewhere {m : Monitor} {log : List Traffic} {w : ω} (w' : ω) :
      Cycled t directory m₀ m (log, w) → Cycled t directory m₀ m (log, w')

theorem tracks_new (order : SortOrder) (interval : Nat) : (new order interval).Tracks order [] where
  order_eq := rfl
  nodup := List.nodup_nil
  registered := by simp [Registry.Within, new, Registry.get?, Register.get?]
  known := by simp [new, Discovery.new, Table.has, Table.get?]
  opened := .refl _

/-- **The invariant** is kept by a cycle, whatever its listing is. -/
theorem Tracks.cycle {order : SortOrder} {m m' : Monitor} {x x' : Logged ω}
    {result : Except MonitorError (List InstanceRow)} (h : m.Tracks order x.1)
    (hc : m.cycle t.logged directory.logged x = (result, m', x')) : m'.Tracks order x'.1 := by
  obtain ⟨log, w⟩ := x
  rcases hscan : m.discovery.scan directory w with ⟨e | listing, w'⟩
  · rw [cycle_of_error hscan] at hc
    simp only [Prod.mk.injEq] at hc
    obtain ⟨rfl, rfl, rfl⟩ := hc
    exact ⟨h.order_eq, h.nodup, h.registered, h.known, h.opened⟩
  · obtain ⟨_, _, _, _, hc', -, htracks, -⟩ := cycle_of_ok h hscan
    rw [hc'] at hc
    simp only [Prod.mk.injEq] at hc
    obtain ⟨-, rfl, rfl⟩ := hc
    exact htracks

theorem Cycled.tracks {order : SortOrder} {interval : Nat} {m : Monitor} {x : Logged ω}
    (h : Cycled t directory (new order interval) m x) : m.Tracks order x.1 := by
  induction h with
  | start w => exact tracks_new order interval
  | cycle _ hc ih => exact ih.cycle hc
  | elsewhere w' _ ih => exact ih

/-- **Tracking.** After any run of cycles, over any peers and listings, no instance is tracked twice,
and the attempts to connect that were made are, in some order, one for each tracked instance that can
be attached to. If the next listing fails, the cycle fails by its error and all else is as it was. If
not, those tracked before are kept, with their sessions, the fresh entries of the listing follow them
in its order, and the selected sort of all these, of which each has one row, is the new order; the
only attempts to connect are for the fresh ones. -/
theorem tracking {order : SortOrder} {interval : Nat} {m : Monitor} {log : List Traffic} {w : ω}
    (h : Cycled t directory (new order interval) m (log, w)) :
    (m.tracked.map (·.id)).Nodup ∧
    (opens log).Perm (attempts (m.tracked.map (·.descriptor))) ∧
    (∀ e w', m.discovery.scan directory w = (.error e, w') →
      ∃ m', m.cycle t.logged directory.logged (log, w) = (.error e, m', (log, w')) ∧
        m'.tracked = m.tracked ∧ m'.registry = m.registry ∧ m'.published = m.published) ∧
    ∀ listing w', m.discovery.scan directory w = (.ok listing, w') →
      ∃ kept added m' x', m.cycle t.logged directory.logged (log, w) =
          (.ok (m'.tracked.map fun vm => vm.row m'.registry), m', x') ∧
        m'.published = m'.tracked.map (fun vm => vm.row m'.registry) ∧
        m'.tracked = order.sort TrackedVm.metrics (kept ++ added) ∧
        m'.tracked.Perm (kept ++ added) ∧
        kept.map (fun vm => (vm.descriptor, vm.session)) =
          m.tracked.map (fun vm => (vm.descriptor, vm.session)) ∧
        added.map (·.descriptor) = fresh (m.tracked.map (·.id)) listing ∧
        (∀ id, id ∈ m'.tracked.map (·.id) ↔
          id ∈ m.tracked.map (·.id) ∨ id ∈ listing.map (·.id)) ∧
        opens x'.1 = opens log ++ attempts (fresh (m.tracked.map (·.id)) listing) := by
  have hm : m.Tracks order log := h.tracks
  refine ⟨hm.nodup, hm.opened, fun e w' hscan => ?_, fun listing w' hscan => ?_⟩
  · exact ⟨_, cycle_of_error hscan, rfl, rfl, rfl⟩
  · obtain ⟨kept, added, m', x', hc, hlisted, -, hx⟩ := cycle_of_ok hm hscan
    exact ⟨kept, added, m', x', hc, hlisted.published, hm.order_eq ▸ hlisted.tracked, hlisted.perm,
      hlisted.kept, hlisted.added, hlisted.mem_ids, hx⟩

/-- An instance that is listed twice is tracked once. -/
theorem tracking_of_repeated :
    let d : VmDescriptor := ⟨7, "", true, .localProcess 7⟩
    ∃ m x, Cycled Transport.mute ⟨fun n => (.ok [d, d], n)⟩ (new .heap 1) m x ∧
      (m.tracked.map (·.id)).Nodup ∧ (∀ id, id ∈ m.tracked.map (·.id) ↔ id = 7) ∧
      opens x.1 = [.localProcess 7] := by
  intro d
  have hstart : Cycled Transport.mute ⟨fun n => (.ok [d, d], n)⟩ (new .heap 1) (new .heap 1)
      ([], 0) := .start 0
  obtain ⟨-, -, -, hlisted⟩ := tracking hstart
  obtain ⟨_, _, m, x, hc, -, -, -, -, -, hids, hopens⟩ := hlisted [d, d] 0 rfl
  have hrun := hstart.cycle hc
  obtain ⟨hnodup, -⟩ := tracking hrun
  exact ⟨m, x, hrun, hnodup, by simp [hids, new, d], hopens⟩

end Monitor

end

end VmMonitor
