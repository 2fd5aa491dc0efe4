import VmMonitor.Peer.Cache
import VmMonitor.Proofs.Peer.Exchange
import VmMonitor.Proofs.Table

/-!
# What a cache answers

A cache answers from batches that were fetched for other requests, with other names. As long as every
cached value is still the value of its attribute, nobody can tell: the cache around a source tells
the same values as the source, and its values stay those of the source.

## What is proved

* `Source.Tells` — a source that answers from certain values.
* `Source.Tells.lookup` — what the cache comes up with, from a batch old or new.
* `Source.Tells.cached` — **transparency**: the cache around a source tells what the source tells.
-/

namespace VmMonitor

/-- The attributes that can be read, with their values. -/
abbrev Readable := ObjectName → String → Option AttributeValue

variable {σ : Type} {P : σ → Prop} {value : Readable}

/-- In a state with `P`, requests for attributes are answered from `value`, and every request leaves
a state with `P`. A batch has the readable ones of the names; it fails only for an object of which
nothing can be read. -/
structure Source.Tells (src : Source σ) (P : σ → Prop) (value : Readable) : Prop where
  keeps : ∀ r s, P s → P ((src.ask r).run s).2
  single : ∀ {s}, P s → ∀ o n v, ((src.ask (.single o n)).run s).1 = .ok v ↔ value o n = some v
  batch : ∀ {s o ns m}, P s → ((src.ask (.batch o ns)).run s).1 = .ok m →
    ∀ n v, (n, v) ∈ m ↔ n ∈ ns ∧ value o n = some v
  failed : ∀ {s o ns e}, P s → ((src.ask (.batch o ns)).run s).1 = .error e → ∀ n, value o n = none

namespace Cache

/-- Every cached value is the value of its attribute. -/
def Coherent (value : Readable) (c : Cache) : Prop :=
  ∀ o m, c.values.get? o = some m → ∀ n v, Table.get? n m = some v → value o n = some v

variable {c : Cache}

theorem coherent_empty : Coherent value {} := by
  intro o m h
  simp [Register.get?] at h

/-- A flushed cache is coherent with whatever comes. -/
theorem coherent_flush (c : Cache) : Coherent value c.flush := by
  intro o m h
  simp [flush, Register.get?] at h

theorem Coherent.store (h : Coherent value c) {o : ObjectName} {m : AttributeMap}
    (hm : ∀ n v, Table.get? n m = some v → value o n = some v) (ns : List String) :
    Coherent value (c.store o ns m) := by
  intro o' m' h'
  simp only [Cache.store, Register.get?_set] at h'
  split_ifs at h' with ho
  · obtain rfl := Option.some_inj.1 h'
    exact ho ▸ hm
  · exact h o' m' h'

section

variable (src : Source σ) {o : ObjectName} {ns : List String} {s s' : σ} {m : AttributeMap}

theorem run_lookup_of_hit (h : c.hit? o ns = some m) (s : σ) :
    (lookup src o ns).run (c, s) = (.ok m, c, s) := by
  change lookup src o ns (c, s) = _
  simp [lookup, h]

variable {src}

theorem run_lookup_of_ok (h : c.hit? o ns = none)
    (hask : (src.ask (.batch o (c.wanted o ns))).run s = (.ok m, s')) :
    (lookup src o ns).run (c, s) = (.ok m, c.store o (c.wanted o ns) m, s') := by
  change lookup src o ns (c, s) = _
  simp [lookup, h, hask]

theorem run_lookup_of_error {e : ConnectionError} (h : c.hit? o ns = none)
    (hask : (src.ask (.batch o (c.wanted o ns))).run s = (.error e, s')) :
    (lookup src o ns).run (c, s) = (.error e, c, s') := by
  change lookup src o ns (c, s) = _
  simp [lookup, h, hask]

end

theorem mem_wanted {o : ObjectName} {ns : List String} {n : String} (h : n ∈ ns) :
    n ∈ c.wanted o ns := by
  rw [wanted, mem_sortedSet]
  exact List.mem_append_left _ h

section

variable {m : AttributeMap} {ns : List String} {n : String} {v : AttributeValue}

/-- The entries of a batch under requested names. -/
theorem mem_requested : (n, v) ∈ ns.filterMap (fun n => (Table.get? n m).map fun v => (n, v)) ↔
    n ∈ ns ∧ Table.get? n m = some v := by
  simp only [List.mem_filterMap, Option.map_eq_some_iff, Prod.mk.injEq]
  constructor
  · rintro ⟨n, hn, v, hv, rfl, rfl⟩
    exact ⟨hn, hv⟩
  · rintro ⟨hn, hv⟩
    exact ⟨n, hn, v, hv, rfl, rfl⟩

theorem requested_unique (n : String) (v v' : AttributeValue)
    (h : (n, v) ∈ ns.filterMap fun n => (Table.get? n m).map fun v => (n, v))
    (h' : (n, v') ∈ ns.filterMap fun n => (Table.get? n m).map fun v => (n, v)) : v = v' :=
  Option.some_inj.1 ((mem_requested.1 h).2.symm.trans (mem_requested.1 h').2)

end

end Cache

namespace Source.Tells

open Cache

variable {src : Source σ}

/-- A batch is found by key as it is by membership. -/
theorem get?_batch (h : src.Tells P value) {s : σ} (hs : P s) {o : ObjectName} {ns : List String}
    {m : AttributeMap} (hm : ((src.ask (.batch o ns)).run s).1 = .ok m) (n : String)
    (v : AttributeValue) : Table.get? n m = some v ↔ n ∈ ns ∧ value o n = some v := by
  have hmem := h.batch hs hm
  refine (Table.get?_eq_some_iff fun k a a' ha ha' => ?_).trans (hmem n v)
  exact Option.some_inj.1 (((hmem k a).1 ha).2.symm.trans ((hmem k a').1 ha').2)

/-- What a coherent cache comes up with for some names of an object: their values, as far as they can
be read; or nothing, because nothing can. It stays coherent. -/
theorem lookup (h : src.Tells P value) {c : Cache} (hc : Coherent value c) {s : σ} (hs : P s)
    (o : ObjectName) (ns : List String) :
    ∃ result c' s', (Cache.lookup src o ns).run (c, s) = (result, c', s') ∧ Coherent value c' ∧ P s' ∧
      match result with
      | .ok m => ∀ n ∈ ns, Table.get? n m = value o n
      | .error _ => ∀ n, value o n = none := by
  cases hhit : c.hit? o ns with
  | some m =>
    -- All names are cached, and what is cached is the value.
    refine ⟨.ok m, c, s, run_lookup_of_hit src hhit s, hc, hs, fun n hn => ?_⟩
    simp only [hit?] at hhit
    split at hhit
    · rename_i m' hm'
      split_ifs at hhit with hall
      obtain rfl := Option.some_inj.1 hhit
      obtain ⟨v, hv⟩ := Option.isSome_iff_exists.1 (List.all_eq_true.1 hall n hn)
      rw [hv, hc o m' hm' n v hv]
    · cases hhit
  | none =>
    have hkeeps := h.keeps (.batch o (c.wanted o ns)) s hs
    rcases hask : (src.ask (.batch o (c.wanted o ns))).run s with ⟨e | m, s'⟩
    · rw [hask] at hkeeps
      exact ⟨.error e, c, s', run_lookup_of_error hhit hask, hc, hkeeps, h.failed hs (by rw [hask])⟩
    · have hget := h.get?_batch hs (by rw [hask])
      rw [hask] at hkeeps
      refine ⟨.ok m, _, s', run_lookup_of_ok hhit hask, ?_, hkeeps, fun n hn => ?_⟩
      · exact hc.store (fun n v hv => ((hget n v).1 hv).2) _
      refine Option.ext fun v => (hget n v).trans ?_
      simp [mem_wanted hn]

theorem one (h : src.Tells P value) {c : Cache} (hc : Coherent value c) {s : σ} (hs : P s)
    (o : ObjectName) (n : String) :
    ∃ result c' s', (Cache.one src o n).run (c, s) = (result, c', s') ∧ Coherent value c' ∧ P s' ∧
      ∀ v, result = .ok v ↔ value o n = some v := by
  obtain ⟨result, c', s', hrun, hc', hs', hresult⟩ := h.lookup hc hs o [n]
  rw [Cache.one, Exchange.run_bind, hrun]
  cases result with
  | error e => exact ⟨.error e, c', s', rfl, hc', hs', by simp [hresult n]⟩
  | ok m =>
    have hget : Table.get? n m = value o n := hresult n (by simp)
    cases hv : value o n with
    | some v => exact ⟨.ok v, c', s', by simp only [hget, hv]; rfl, hc', hs', by simp⟩
    | none =>
      -- The batch has left the name out, and the source says why.
      refine ⟨((src.ask (.single o n)).run s').1, c', ((src.ask (.single o n)).run s').2,
        by simp only [hget, hv]; rfl, hc', h.keeps _ _ hs', fun v => ?_⟩
      rw [h.single hs', hv]

theorem many (h : src.Tells P value) {c : Cache} (hc : Coherent value c) {s : σ} (hs : P s)
    (o : ObjectName) (ns : List String) :
    ∃ result c' s', (Cache.many src o ns).run (c, s) = (result, c', s') ∧ Coherent value c' ∧ P s' ∧
      match result with
      | .ok m => ∀ n v, (n, v) ∈ m ↔ n ∈ ns ∧ value o n = some v
      | .error _ => ∀ n, value o n = none := by
  obtain ⟨result, c', s', hrun, hc', hs', hresult⟩ := h.lookup hc hs o ns
  rw [Cache.many, Exchange.run_bind, hrun]
  cases result with
  | error e => exact ⟨.error e, c', s', rfl, hc', hs', hresult⟩
  | ok m =>
    refine ⟨_, c', s', rfl, hc', hs', fun n v => ?_⟩
    rw [Table.mem_ofList requested_unique, mem_requested]
    exact and_congr_right fun hn => by rw [hresult n hn]

/-- **Transparency**: the cache around a source tells what the source tells, and stays coherent. -/
theorem cached (h : src.Tells P value) :
    (Cache.source src).Tells (fun x => Coherent value x.1 ∧ P x.2) value where
  keeps r := by
    rintro ⟨c, s⟩ ⟨hc, hs⟩
    cases r with
    | single o n =>
      obtain ⟨_, c', s', hrun, hc', hs', -⟩ := h.one hc hs o n
      simp only [Cache.source, hrun]
      exact ⟨hc', hs'⟩
    | batch o ns =>
      obtain ⟨_, c', s', hrun, hc', hs', -⟩ := h.many hc hs o ns
      simp only [Cache.source, hrun]
      exact ⟨hc', hs'⟩
    | query o => exact ⟨hc, h.keeps (.query o) s hs⟩
    | invoke o op params => exact ⟨hc, h.keeps (.invoke o op params) s hs⟩
  single := by
    rintro ⟨c, s⟩ ⟨hc, hs⟩ o n v
    obtain ⟨_, _, _, hrun, -, -, hresult⟩ := h.one hc hs o n
    simp only [Cache.source, hrun]
    exact hresult v
  batch := by
    rintro ⟨c, s⟩ o ns m ⟨hc, hs⟩ hm
    obtain ⟨result, _, _, hrun, -, -, hresult⟩ := h.many hc hs o ns
    simp only [Cache.source, hrun] at hm
    subst hm
    exact hresult
  failed := by
    rintro ⟨c, s⟩ o ns e ⟨hc, hs⟩ he
    obtain ⟨result, _, _, hrun, -, -, hresult⟩ := h.many hc hs o ns
    simp only [Cache.source, hrun] at he
    subst he
    exact hresult

end Source.Tells

end VmMonitor
