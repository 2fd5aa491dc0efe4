import VmMonitor.Peer.Script
import VmMonitor.Proofs.Peer.Cache

/-!
# What a cache keeps between two flushes

The cached values of an object are those of its last batch. A read of cached names is answered from
them and sends nothing; a read of a name that they lack fetches a new batch, which takes the place of
the old one as a whole. So a value lasts until some other name of its object has to be fetched, which
may be long before the next flush.

## What is proved

* `Cache.values_ask` — no request but one for a missing name of an object changes its values.
* `Cache.value?_of_told` — what an answer tells is the cached value, if there is one.
* `Cache.told_again` — **retention**: what was told once is told again, and nothing is sent for it,
  as long as no missing name of the object was asked for.
* `Cache.lost_with_next_batch` — and no longer than that.
-/

namespace VmMonitor

variable {σ : Type}

/-- The source with a record of the requests it gets. -/
def Source.recorded (src : Source σ) : Source (List Request × σ) where
  ask r := fun (log, s) =>
    let (answer, s) := (src.ask r).run s
    (answer, (log ++ [r], s))

/-- A source for trials: every attribute has the number of the request as its value. -/
def Source.numbered : Source Nat where
  ask
    | .single _ _ => fun k => (.ok (.long k), k + 1)
    | .batch _ ns => fun k => (.ok (ns.map fun n => (n, .long k)), k + 1)
    | .query _ => fun k => (.ok [], k + 1)
    | .invoke _ _ _ => fun k => (.ok .null, k + 1)

namespace Request

/-- A request for an attribute, perhaps among others. -/
def Reads (o : ObjectName) (n : String) : Request → Prop
  | .single o' n' => o' = o ∧ n' = n
  | .batch o' ns => o' = o ∧ n ∈ ns
  | _ => False

/-- What the answer to a request tells of an attribute. -/
def told? (o : ObjectName) (n : String) :
    (r : Request) → Except ConnectionError r.Answer → Option AttributeValue
  | .single o' n', .ok v => if o' = o ∧ n' = n then some v else none
  | .batch o' _, .ok m => if o' = o then Table.get? n m else none
  | _, _ => none

end Request

namespace Cache

/-- The cached value of an attribute. -/
def value? (c : Cache) (o : ObjectName) (n : String) : Option AttributeValue :=
  (c.values.get? o).bind (Table.get? n)

/-- Nothing of the object has to be fetched for the request: it is about something else, or about
attributes with cached values. -/
def Suffices (c : Cache) (o : ObjectName) : Request → Prop
  | .single o' n => o' = o → (c.value? o n).isSome
  | .batch o' ns => o' = o → ∀ n ∈ ns, (c.value? o n).isSome
  | _ => True

/-- Whether a request suffices depends on the values of the object only. -/
theorem Suffices.of_value?_eq {c c' : Cache} {o : ObjectName} {r : Request} (h : c.Suffices o r)
    (hvalue : c'.value? o = c.value? o) : c'.Suffices o r := by
  cases r with
  | single o' n => exact fun ho => by rw [hvalue]; exact h ho
  | batch o' ns => exact fun ho => by rw [hvalue]; exact h ho
  | query o' => trivial
  | invoke o' op params => trivial

/-- The cache and its source after some requests, whatever the answers are. -/
def after (src : Source σ) : List Request → Cache × σ → Cache × σ
  | [], x => x
  | r :: rs, x => after src rs (((source src).ask r).run x).2

variable (src : Source σ) {c : Cache} {s : σ} {o o' : ObjectName} {n : String} {ns : List String}
  {m : AttributeMap} {v : AttributeValue}

/-! ### Hits and misses -/

theorem hit?_eq_some_iff :
    c.hit? o ns = some m ↔ c.values.get? o = some m ∧ ∀ n ∈ ns, (Table.get? n m).isSome := by
  unfold hit?
  cases c.values.get? o with
  | none => simp
  | some m' =>
    simp only [Table.has, List.all_eq_true, Option.ite_none_right_eq_some, Option.some.injEq]
    constructor
    · rintro ⟨hall, rfl⟩
      exact ⟨rfl, hall⟩
    · rintro ⟨rfl, hall⟩
      exact ⟨hall, rfl⟩

/-- Of an object with cached values, cached names are a hit. -/
theorem hit?_of_value? (hv : c.value? o n = some v) (h : ∀ n ∈ ns, (c.value? o n).isSome) :
    ∃ m, c.hit? o ns = some m ∧ Table.get? n m = some v := by
  obtain ⟨m, hm, hget⟩ := Option.bind_eq_some_iff.1 hv
  refine ⟨m, hit?_eq_some_iff.2 ⟨hm, fun n hn => ?_⟩, hget⟩
  simpa [value?, hm] using h n hn

/-- A lookup leaves the values of all other objects alone, and ends with those of its own object. -/
theorem values_lookup (o : ObjectName) (ns : List String) (c : Cache) (s : σ) :
    (∀ o', o' ≠ o →
      ((lookup src o ns).run (c, s)).2.1.values.get? o' = c.values.get? o') ∧
    ∀ m, ((lookup src o ns).run (c, s)).1 = .ok m →
      ((lookup src o ns).run (c, s)).2.1.values.get? o = some m := by
  cases hhit : c.hit? o ns with
  | some m =>
    rw [run_lookup_of_hit src hhit]
    refine ⟨fun _ _ => rfl, fun m' hm' => ?_⟩
    rw [← Except.ok.inj hm']
    exact (hit?_eq_some_iff.1 hhit).1
  | none =>
    rcases hask : (src.ask (.batch o (c.wanted o ns))).run s with ⟨e | m, s'⟩
    · rw [run_lookup_of_error hhit hask]
      exact ⟨fun _ _ => rfl, nofun⟩
    · rw [run_lookup_of_ok hhit hask]
      refine ⟨fun o' ho' => ?_, fun m' hm' => ?_⟩
      · simp [store, Register.get?_set, Ne.symm ho']
      · rw [← Except.ok.inj hm']
        simp [store, Register.get?_set]

section

variable {src} {c' : Cache} {s' : σ} {e : ConnectionError}

theorem run_one_of_ok (h : (lookup src o [n]).run (c, s) = (.ok m, c', s'))
    (hv : Table.get? n m = some v) : (one src o n).run (c, s) = (.ok v, c', s') := by
  rw [one, Exchange.run_bind, h]
  simp only [hv]
  rfl

/-- A name that the values lack is asked for by itself. -/
theorem run_one_of_none (h : (lookup src o [n]).run (c, s) = (.ok m, c', s'))
    (hv : Table.get? n m = none) : (one src o n).run (c, s) =
      (((src.ask (.single o n)).run s').1, c', ((src.ask (.single o n)).run s').2) := by
  rw [one, Exchange.run_bind, h]
  simp only [hv]
  rfl

theorem run_one_of_error (h : (lookup src o [n]).run (c, s) = (.error e, c', s')) :
    (one src o n).run (c, s) = (.error e, c', s') := by
  rw [one, Exchange.run_bind, h]

theorem run_many_of_ok (h : (lookup src o ns).run (c, s) = (.ok m, c', s')) :
    (many src o ns).run (c, s) =
      (.ok (Table.ofList (ns.filterMap fun n => (Table.get? n m).map fun v => (n, v))), c', s') := by
  rw [many, Exchange.run_bind, h]
  rfl

theorem run_many_of_error (h : (lookup src o ns).run (c, s) = (.error e, c', s')) :
    (many src o ns).run (c, s) = (.error e, c', s') := by
  rw [many, Exchange.run_bind, h]

end

/-- What one read leaves of the cache is what its lookup leaves. -/
theorem cache_one (o : ObjectName) (n : String) (c : Cache) (s : σ) :
    ((one src o n).run (c, s)).2.1 = ((lookup src o [n]).run (c, s)).2.1 := by
  rcases h : (lookup src o [n]).run (c, s) with ⟨e | m, c', s'⟩
  · rw [run_one_of_error h]
  · cases hv : Table.get? n m with
    | some v => rw [run_one_of_ok h hv]
    | none => rw [run_one_of_none h hv]

theorem cache_many (o : ObjectName) (ns : List String) (c : Cache) (s : σ) :
    ((many src o ns).run (c, s)).2.1 = ((lookup src o ns).run (c, s)).2.1 := by
  rcases h : (lookup src o ns).run (c, s) with ⟨e | m, c', s'⟩
  · rw [run_many_of_error h]
  · rw [run_many_of_ok h]

/-! ### Requests that change nothing -/

/-- A request for an attribute with a cached value, and for no missing one, is answered by the cached
value; cache and source stay as they are. -/
theorem ask_of_value? (hv : c.value? o n = some v) {r : Request} (hr : r.Reads o n)
    (hsuff : c.Suffices o r) (s : σ) :
    r.told? o n (((source src).ask r).run (c, s)).1 = some v ∧
      (((source src).ask r).run (c, s)).2 = (c, s) := by
  cases r with
  | single o' n' =>
    obtain ⟨rfl, rfl⟩ := hr
    have hcached : ∀ k ∈ [n'], (c.value? o' k).isSome := by simpa using hsuff rfl
    obtain ⟨m, hhit, hget⟩ := hit?_of_value? hv hcached
    have hrun := run_one_of_ok (run_lookup_of_hit src hhit s) hget
    simp [source, hrun, Request.told?]
  | batch o' ns =>
    obtain ⟨rfl, hn⟩ := hr
    obtain ⟨m, hhit, hget⟩ := hit?_of_value? hv (hsuff rfl)
    have hrun := run_many_of_ok (run_lookup_of_hit src hhit s)
    have htold : Table.get? n
        (Table.ofList (ns.filterMap fun n => (Table.get? n m).map fun v => (n, v))) = some v :=
      (Table.get?_ofList_eq_some_iff requested_unique).2 (mem_requested.2 ⟨hn, hget⟩)
    simp [source, hrun, Request.told?, htold]
  | query o' => exact hr.elim
  | invoke o' op params => exact hr.elim

/-- No request but one for a missing name of an object changes its values. -/
theorem values_ask (hv : c.value? o n = some v) {r : Request} (hsuff : c.Suffices o r) (s : σ) :
    (((source src).ask r).run (c, s)).2.1.values.get? o = c.values.get? o := by
  cases r with
  | single o' n' =>
    by_cases ho : o' = o
    · subst ho
      obtain ⟨v', hv'⟩ := Option.isSome_iff_exists.1 (hsuff rfl)
      rw [(ask_of_value? src hv' (r := .single o' n') ⟨rfl, rfl⟩ hsuff s).2]
    · exact (congrArg (fun c => c.values.get? o) (cache_one src o' n' c s)).trans
        ((values_lookup src o' [n'] c s).1 o (Ne.symm ho))
  | batch o' ns =>
    refine (congrArg (fun c => c.values.get? o) (cache_many src o' ns c s)).trans ?_
    by_cases ho : o' = o
    · subst ho
      obtain ⟨m, hhit, -⟩ := hit?_of_value? hv (hsuff rfl)
      rw [run_lookup_of_hit src hhit]
    · exact (values_lookup src o' ns c s).1 o (Ne.symm ho)
  | query o' => rfl
  | invoke o' op params => rfl

/-- Nor does any number of them. -/
theorem values_after (hv : c.value? o n = some v) {rs : List Request}
    (hsuff : ∀ r ∈ rs, c.Suffices o r) (s : σ) :
    (after src rs (c, s)).1.values.get? o = c.values.get? o := by
  induction rs generalizing c s with
  | nil => rfl
  | cons r rs ih =>
    rcases hstep : ((source src).ask r).run (c, s) with ⟨answer, c', s'⟩
    have hvalues : c'.values.get? o = c.values.get? o := by
      simpa only [hstep] using values_ask src hv (hsuff r (.head _)) s
    have hvalue : c'.value? o = c.value? o := by
      funext n
      simp only [value?, hvalues]
    simp only [after, hstep]
    refine (ih (by rw [hvalue]; exact hv) (fun r hr => ?_) s').trans hvalues
    exact (hsuff r (.tail _ hr)).of_value?_eq hvalue

/-! ### What was told is cached -/

/-- What an answer tells is the cached value, if there is one. -/
theorem value?_of_told {r : Request} (htold : r.told? o n (((source src).ask r).run (c, s)).1 = some v)
    (hsome : ((((source src).ask r).run (c, s)).2.1.value? o n).isSome) :
    (((source src).ask r).run (c, s)).2.1.value? o n = some v := by
  cases r with
  | single o' n' =>
    simp only [source] at htold hsome ⊢
    rcases hlookup : (lookup src o' [n']).run (c, s) with ⟨e | m, c', s'⟩
    · simp [run_one_of_error hlookup, Request.told?] at htold
    have hm : c'.values.get? o' = some m := by
      simpa only [hlookup, true_implies] using (values_lookup src o' [n'] c s).2 m (by rw [hlookup])
    have ho : o' = o ∧ n' = n := by
      by_contra hne
      cases hanswer : ((one src o' n').run (c, s)).1 <;> simp [hanswer, Request.told?, hne] at htold
    obtain ⟨rfl, rfl⟩ := ho
    cases hget : Table.get? n' m with
    | some v' =>
      simp only [run_one_of_ok hlookup hget, Request.told?, true_and, if_true] at htold ⊢
      simpa [value?, hm, hget] using htold
    | none =>
      -- The source itself has told the value, which was not cached then.
      simp [run_one_of_none hlookup hget, value?, hm, hget] at hsome
  | batch o' ns =>
    simp only [source] at htold hsome ⊢
    rcases hlookup : (lookup src o' ns).run (c, s) with ⟨e | m, c', s'⟩
    · simp [run_many_of_error hlookup, Request.told?] at htold
    have hm : c'.values.get? o' = some m := by
      simpa only [hlookup, true_implies] using (values_lookup src o' ns c s).2 m (by rw [hlookup])
    simp only [run_many_of_ok hlookup, Request.told?, Option.ite_none_right_eq_some,
      Table.get?_ofList_eq_some_iff requested_unique, mem_requested] at htold ⊢
    obtain ⟨rfl, -, hget⟩ := htold
    simp [value?, hm, hget]
  | query o' => simp [Request.told?] at htold
  | invoke o' op params => simp [Request.told?] at htold

/-! ### Retention -/

/-- **Retention.** A request has told a value of an attribute. After any other requests, if neither
they nor a last one for this attribute ask for a name of the object that has no cached value, then the
last one tells the same value; nothing is sent to the source for it, and nothing changes. -/
theorem told_again {log : List Request} {r r' : Request} {later : List Request}
    {c₁ c₂ : Cache} {x₁ x₂ : List Request × σ} {answer : Except ConnectionError r.Answer}
    (hfirst : ((source src.recorded).ask r).run (c, log, s) = (answer, c₁, x₁))
    (htold : r.told? o n answer = some v)
    (hlater : after src.recorded later (c₁, x₁) = (c₂, x₂))
    (hsuff : ∀ q ∈ later, c₁.Suffices o q) (hreads : r'.Reads o n) (hlast : c₁.Suffices o r') :
    r'.told? o n (((source src.recorded).ask r').run (c₂, x₂)).1 = some v ∧
      (((source src.recorded).ask r').run (c₂, x₂)).2 = (c₂, x₂) := by
  have hsome : (c₁.value? o n).isSome := by
    cases r' with
    | single o' n' =>
      obtain ⟨rfl, rfl⟩ := hreads
      exact hlast rfl
    | batch o' ns =>
      obtain ⟨rfl, hn⟩ := hreads
      exact hlast rfl n hn
    | query o' => exact hreads.elim
    | invoke o' op params => exact hreads.elim
  have hv : c₁.value? o n = some v := by
    have hcached := value?_of_told src.recorded (c := c) (s := (log, s)) (r := r) (o := o) (n := n)
      (v := v)
    simp only [hfirst] at hcached
    exact hcached htold hsome
  have hvalues : c₂.values.get? o = c₁.values.get? o := by
    simpa only [hlater] using values_after src.recorded hv hsuff x₁
  have hvalue : c₂.value? o = c₁.value? o := by
    funext n
    simp only [value?, hvalues]
  exact ask_of_value? src.recorded (hvalue ▸ hv) hreads (hlast.of_value?_eq hvalue) x₂

/-- A value of the first batch is told again, after its object was read once more and the source has
answered for another one. -/
theorem told_again_from_first_batch :
    ∃ c x, after Source.numbered.recorded [.single .runtime "Uptime", .single .memory "b"]
        ((((source Source.numbered.recorded).ask (.batch .memory ["a", "b"])).run ({}, [], 0)).2) =
          (c, x) ∧
      x = ([.batch .memory ["a", "b"], .batch .runtime ["Uptime"]], 2) ∧
      Request.told? .memory "a" (.single .memory "a")
        (((source Source.numbered.recorded).ask (.single .memory "a")).run (c, x)).1 =
          some (.long 0) ∧
      (((source Source.numbered.recorded).ask (.single .memory "a")).run (c, x)).2 = (c, x) := by
  refine ⟨_, _, rfl, by decide, ?_⟩
  refine told_again Source.numbered (c := {}) (r := .batch .memory ["a", "b"]) rfl (by decide)
    (rfl : after _ [.single .runtime "Uptime", .single .memory "b"] _ = _) ?_ ⟨rfl, rfl⟩
    (fun _ => by decide)
  simp only [List.mem_cons, List.not_mem_nil, or_false, forall_eq_or_imp, forall_eq]
  exact ⟨fun ho => absurd ho (by decide), fun _ => by decide⟩

/-- A value that was told is lost with the next batch of its object, between two flushes: the batch
that fetches another attribute leaves this one out if it cannot be read any more. -/
theorem lost_with_next_batch :
    let read (n : String) := (source Script.source).ask (.single .memory n)
    ∃ c peer c' peer',
      (read "a").run ({}, { values := [(.memory, [("a", .long 1), ("b", .long 2)])] }) =
        (.ok (.long 1), c, peer) ∧
      (read "b").run (c, { peer with broken := ["a"] }) = (.ok (.long 2), c', peer') ∧
      ((read "a").run (c', peer')).1 = .error (.unreadable .memory "a" "broken") :=
  ⟨_, _, _, _, rfl, rfl, by decide⟩

end Cache

end VmMonitor
