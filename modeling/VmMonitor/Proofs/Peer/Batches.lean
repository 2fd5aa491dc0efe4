import VmMonitor.Proofs.Peer.Retention

/-!
# When a cache sends a batch

A read of an object is answered from its cached values if they have all of the names. If not, one
batch is sent for the requested names and for all that were learned of the object; and if the batch
was answered without the one name that was asked for, the name is asked for by itself. A batch that
fails leaves no trace, so what is learned of an object is what its answered batches have named.

## What is proved

* `Cache.Course`, `Cache.ask_course` — a request goes in one of four ways.
* `Cache.Course.learned_iff`, `Cache.Used.learned_iff` — **the invariant**: learned are the names of
  the answered batches of the object.
* `Cache.batching` — all of that for a cache in use and its next request.
-/

namespace VmMonitor

variable {σ : Type}

/-! ### The transcript of a source -/

/-- A request with its answer. -/
structure Asked where
  request : Request
  answer : Except ConnectionError request.Answer

/-- The source with a transcript of the requests it gets and of its answers. -/
def Source.transcribed (src : Source σ) : Source (List Asked × σ) where
  ask r := fun (log, s) =>
    let (answer, s) := (src.ask r).run s
    (answer, (log ++ [⟨r, answer⟩], s))

theorem Source.run_transcribed (src : Source σ) {r : Request} {s s' : σ}
    {answer : Except ConnectionError r.Answer} (h : (src.ask r).run s = (answer, s'))
    (log : List Asked) :
    (src.transcribed.ask r).run (log, s) = (answer, log ++ [⟨r, answer⟩], s') := by
  obtain ⟨rfl, rfl⟩ := Prod.ext_iff.1 h
  rfl

/-- The object and the names of a request for attributes. -/
def Request.reads? : Request → Option (ObjectName × List String)
  | .single o n => some (o, [n])
  | .batch o ns => some (o, ns)
  | _ => none

namespace Asked

def isBatch (x : Asked) : Bool :=
  match x.request with
  | .batch _ _ => true
  | _ => false

/-- An answered batch of the object named the attribute. -/
def Teaches (o : ObjectName) (n : String) (x : Asked) : Prop :=
  ∃ ns m, x = ⟨.batch o ns, .ok m⟩ ∧ n ∈ ns

end Asked

namespace Cache

/-- The name was learned for the object. -/
def Learned (c : Cache) (o : ObjectName) (n : String) : Prop := n ∈ (c.learned? o).getD []

/-- There are cached values of the object, and none of the names is missing from them. -/
def Holds (c : Cache) (o : ObjectName) (ns : List String) : Prop :=
  ∃ m, c.values.get? o = some m ∧ ∀ n ∈ ns, Table.has n m

variable {c c' : Cache} {o o' : ObjectName} {n : String} {ns : List String} {m : AttributeMap}

theorem holds_iff : c.Holds o ns ↔ ∃ m, c.hit? o ns = some m := by
  simp only [Holds, hit?_eq_some_iff, Table.has]

/-- A batch names what was requested and what was learned. -/
theorem mem_wanted_iff : n ∈ c.wanted o ns ↔ n ∈ ns ∨ c.Learned o n := by
  rw [wanted, mem_sortedSet, List.mem_append, Learned]

/-- An answered batch teaches the names that it has, for its object only. -/
theorem learned_store : (c.store o ns m).Learned o' n ↔
    if o = o' then n ∈ ns else c.Learned o' n := by
  simp only [Learned, learned?, store, Register.get?_set]
  split_ifs <;> simp

/-! ### Four ways -/

/-- How a request goes over a cache: what is sent for it, and the cache that it leaves. -/
inductive Course (c : Cache) (r : Request) : List Asked → Cache → Prop
  /-- All names are cached, and nothing is sent. -/
  | held {o : ObjectName} {ns : List String} : r.reads? = some (o, ns) → c.Holds o ns →
      Course c r [] c
  /-- The batch fails. -/
  | refused {o : ObjectName} {ns : List String} (e : ConnectionError) : r.reads? = some (o, ns) →
      ¬ c.Holds o ns → Course c r [⟨.batch o (c.wanted o ns), .error e⟩] c
  /-- The batch is answered. If it left out the only name of the request, this one follows. -/
  | fetched {o : ObjectName} {ns : List String} (m : AttributeMap) (rest : List Asked) :
      r.reads? = some (o, ns) → ¬ c.Holds o ns →
      (∀ x ∈ rest, ∃ n answer, r = .single o n ∧ Table.get? n m = none ∧ x = ⟨.single o n, answer⟩) →
      Course c r (⟨.batch o (c.wanted o ns), .ok m⟩ :: rest) (c.store o (c.wanted o ns) m)
  /-- The request is not for attributes, and passes the cache by. -/
  | passed (answer : Except ConnectionError r.Answer) : r.reads? = none →
      Course c r [⟨r, answer⟩] c

section

variable (src : Source σ) (log : List Asked) (s : σ)

/-- A lookup hits; or its batch fails; or its batch is answered. -/
theorem lookup_cases (c : Cache) (o : ObjectName) (ns : List String) :
    (c.Holds o ns ∧ ∃ m, c.hit? o ns = some m ∧
      (lookup src.transcribed o ns).run (c, log, s) = (.ok m, c, log, s)) ∨
    (¬ c.Holds o ns ∧ ∃ e s', (lookup src.transcribed o ns).run (c, log, s) =
      (.error e, c, log ++ [⟨.batch o (c.wanted o ns), .error e⟩], s')) ∨
    (¬ c.Holds o ns ∧ ∃ m s', (lookup src.transcribed o ns).run (c, log, s) =
      (.ok m, c.store o (c.wanted o ns) m, log ++ [⟨.batch o (c.wanted o ns), .ok m⟩], s')) := by
  cases hhit : c.hit? o ns with
  | some m => exact .inl ⟨holds_iff.2 ⟨m, hhit⟩, m, rfl, run_lookup_of_hit _ hhit _⟩
  | none =>
    have hmiss : ¬ c.Holds o ns := by simp [holds_iff, hhit]
    rcases hask : (src.ask (.batch o (c.wanted o ns))).run s with ⟨e | m, s'⟩
    · exact .inr (.inl ⟨hmiss, e, s', run_lookup_of_error hhit (src.run_transcribed hask log)⟩)
    · exact .inr (.inr ⟨hmiss, m, s', run_lookup_of_ok hhit (src.run_transcribed hask log)⟩)

/-- **A request goes in one of the four ways.** -/
theorem ask_course (c : Cache) (r : Request) :
    ∃ sent, (((source src.transcribed).ask r).run (c, log, s)).2.2.1 = log ++ sent ∧
      Course c r sent (((source src.transcribed).ask r).run (c, log, s)).2.1 := by
  cases r with
  | single o n =>
    change ∃ sent, ((one src.transcribed o n).run (c, log, s)).2.2.1 = log ++ sent ∧
      Course c _ sent ((one src.transcribed o n).run (c, log, s)).2.1
    rcases lookup_cases src log s c o [n] with
      ⟨hheld, m, hhit, hrun⟩ | ⟨hmiss, e, s', hrun⟩ | ⟨hmiss, m, s', hrun⟩
    · obtain ⟨v, hv⟩ := Option.isSome_iff_exists.1 ((hit?_eq_some_iff.1 hhit).2 n (.head _))
      rw [run_one_of_ok hrun hv]
      exact ⟨[], by simp, .held rfl hheld⟩
    · rw [run_one_of_error hrun]
      exact ⟨_, rfl, .refused e rfl hmiss⟩
    cases hv : Table.get? n m with
    | some v =>
      rw [run_one_of_ok hrun hv]
      exact ⟨_, rfl, .fetched m [] rfl hmiss (by simp)⟩
    | none =>
      rw [run_one_of_none hrun hv]
      refine ⟨_, List.append_assoc _ _ _, .fetched m [_] rfl hmiss fun x hx => ?_⟩
      exact ⟨n, _, rfl, hv, List.mem_singleton.1 hx⟩
  | batch o ns =>
    change ∃ sent, ((many src.transcribed o ns).run (c, log, s)).2.2.1 = log ++ sent ∧
      Course c _ sent ((many src.transcribed o ns).run (c, log, s)).2.1
    rcases lookup_cases src log s c o ns with
      ⟨hheld, m, -, hrun⟩ | ⟨hmiss, e, s', hrun⟩ | ⟨hmiss, m, s', hrun⟩
    · rw [run_many_of_ok hrun]
      exact ⟨[], by simp, .held rfl hheld⟩
    · rw [run_many_of_error hrun]
      exact ⟨_, rfl, .refused e rfl hmiss⟩
    · rw [run_many_of_ok hrun]
      exact ⟨_, rfl, .fetched m [] rfl hmiss (by simp)⟩
  | query o => exact ⟨_, rfl, .passed _ rfl⟩
  | invoke o op params => exact ⟨_, rfl, .passed _ rfl⟩

end

namespace Course

variable {r : Request} {sent : List Asked}

/-- Learned is what was learned before, and what an answered batch has named. -/
theorem learned_iff (h : Course c r sent c') :
    c'.Learned o n ↔ c.Learned o n ∨ ∃ x ∈ sent, x.Teaches o n := by
  cases h with
  | held _ _ => simp
  | refused e _ _ => simp [Asked.Teaches]
  | @fetched o' ns m rest hr _ hrest =>
    have hfollow : ¬ ∃ x ∈ rest, x.Teaches o n := by
      rintro ⟨x, hx, ns', m', rfl, -⟩
      obtain ⟨n', answer, -, -, heq⟩ := hrest _ hx
      simp at heq
    have hbatch : Asked.Teaches o n ⟨.batch o' (c.wanted o' ns), .ok m⟩ ↔
        o' = o ∧ n ∈ c.wanted o' ns := by
      simp [Asked.Teaches]
    simp only [List.mem_cons, exists_eq_or_imp, hfollow, or_false, hbatch, learned_store]
    by_cases ho : o' = o
    · subst ho
      simp only [if_true, true_and, mem_wanted_iff]
      tauto
    · simp [ho]
  | passed answer hr =>
    have hno : ¬ ∃ x ∈ [Asked.mk r answer], x.Teaches o n := by
      rintro ⟨x, hx, ns, m, rfl, -⟩
      obtain ⟨rfl, -⟩ := Asked.mk.inj (List.mem_singleton.1 hx)
      simp [Request.reads?] at hr
    rw [or_iff_left hno]

/-- Other objects are left as they are. -/
theorem eq_of_not_reads (h : Course c r sent c') (ho : ∀ ns, r.reads? ≠ some (o, ns)) :
    c'.learned? o = c.learned? o ∧ c'.values.get? o = c.values.get? o := by
  cases h with
  | held _ _ => exact ⟨rfl, rfl⟩
  | refused _ _ _ => exact ⟨rfl, rfl⟩
  | @fetched o' ns m rest hr _ _ =>
    have hne : o' ≠ o := by
      rintro rfl
      exact ho ns hr
    simp [learned?, store, Register.get?_set, hne]
  | passed _ _ => exact ⟨rfl, rfl⟩

/-- A read of names that are all cached sends nothing. -/
theorem eq_of_holds (h : Course c r sent c') (hr : r.reads? = some (o, ns)) (hheld : c.Holds o ns) :
    sent = [] ∧ c' = c := by
  cases h with
  | held _ _ => exact ⟨rfl, rfl⟩
  | refused _ hr' hmiss =>
    cases hr.symm.trans hr'
    exact absurd hheld hmiss
  | fetched _ _ hr' hmiss _ =>
    cases hr.symm.trans hr'
    exact absurd hheld hmiss
  | passed _ hr' => simp [hr] at hr'

/-- Any other read sends one batch, before anything else. -/
theorem batch_of_not_holds (h : Course c r sent c') (hr : r.reads? = some (o, ns))
    (hmiss : ¬ c.Holds o ns) : ∃ answer rest, sent = ⟨.batch o (c.wanted o ns), answer⟩ :: rest ∧
      ∀ x ∈ rest, x.isBatch = false := by
  cases h with
  | held hr' hheld =>
    cases hr.symm.trans hr'
    exact absurd hheld hmiss
  | refused e hr' _ =>
    cases hr.symm.trans hr'
    exact ⟨.error e, [], rfl, by simp⟩
  | fetched m rest hr' _ hrest =>
    cases hr.symm.trans hr'
    refine ⟨.ok m, rest, rfl, fun x hx => ?_⟩
    obtain ⟨n, answer, -, -, rfl⟩ := hrest x hx
    rfl
  | passed _ hr' => simp [hr] at hr'

/-- A batch that fails leaves no trace. -/
theorem eq_of_error (h : Course c r sent c') {e : ConnectionError}
    (he : ⟨.batch o ns, .error e⟩ ∈ sent) : c' = c := by
  cases h with
  | held _ _ => rfl
  | refused _ _ _ => rfl
  | fetched m rest _ _ hrest =>
    rcases List.mem_cons.1 he with heq | he
    · simp at heq
    · obtain ⟨n, answer, -, -, heq⟩ := hrest _ he
      simp at heq
  | passed _ _ => rfl

/-- A name is asked for by itself only after an answered batch has left it out. -/
theorem of_single (h : Course c r sent c') {answer : Except ConnectionError AttributeValue}
    (hsingle : ⟨.single o n, answer⟩ ∈ sent) : r = .single o n ∧
      ∃ m, ⟨.batch o (c.wanted o [n]), .ok m⟩ ∈ sent ∧ Table.get? n m = none := by
  cases h with
  | held _ _ => simp at hsingle
  | refused _ _ _ => simp at hsingle
  | fetched m rest hr _ hrest =>
    rcases List.mem_cons.1 hsingle with heq | hsingle
    · simp at heq
    · obtain ⟨n', answer', rfl, hget, heq⟩ := hrest _ hsingle
      obtain ⟨⟨rfl, rfl⟩, -⟩ := by simpa using heq
      obtain ⟨rfl, rfl⟩ := by simpa [Request.reads?] using hr
      exact ⟨rfl, m, .head _, hget⟩
  | passed _ hr =>
    obtain ⟨rfl, -⟩ := Asked.mk.inj (List.mem_singleton.1 hsingle)
    simp [Request.reads?] at hr

end Course

/-! ### A cache in use -/

/-- The cache around a source, with the transcript of the source, after any requests and flushes since
it was empty. Between two of them the source may change by itself. -/
inductive Used (src : Source σ) : Cache → List Asked → σ → Prop
  | new (s : σ) : Used src {} [] s
  | ask {c c' : Cache} {log log' : List Asked} {s s' : σ} {r : Request}
      {answer : Except ConnectionError r.Answer} : Used src c log s →
      ((source src.transcribed).ask r).run (c, log, s) = (answer, c', log', s') →
      Used src c' log' s'
  | flush {c : Cache} {log : List Asked} {s : σ} : Used src c log s → Used src c.flush log s
  | elsewhere {c : Cache} {log : List Asked} {s : σ} (s' : σ) : Used src c log s → Used src c log s'

variable {src : Source σ} {log : List Asked} {s : σ}

/-- **The invariant**: learned are the names of the answered batches of the object. -/
theorem Used.learned_iff (h : Used src c log s) (o : ObjectName) (n : String) :
    c.Learned o n ↔ ∃ x ∈ log, x.Teaches o n := by
  induction h with
  | new s => simp [Learned, learned?, Register.get?]
  | @ask c c' log log' s s' r answer _ hrun ih =>
    obtain ⟨sent, hsent, hcourse⟩ := ask_course src log s c r
    rw [hrun] at hsent hcourse
    obtain rfl := hsent
    rw [hcourse.learned_iff, ih]
    simp only [List.mem_append, or_and_right, exists_or]
  | flush _ ih => exact ih
  | elsewhere s' _ ih => exact ih

/-- **Batching.** At any time, learned of an object are the names of its answered batches. A flush drops
all cached values and nothing else. The names of a batch are in ascending order, without repeats, and
are the requested and the learned ones. A read of an object whose cached values have all of the names
sends nothing and changes nothing; any other read sends one batch of these names. A batch that fails
leaves the cache as it was, nothing is unlearned, a request leaves other objects alone, and an
attribute is asked for by itself only after an answered batch has left it out. -/
theorem batching (h : Used src c log s) :
    (∀ o n, c.Learned o n ↔ ∃ ns m, ⟨.batch o ns, .ok m⟩ ∈ log ∧ n ∈ ns) ∧
    (c.flush.learned = c.learned ∧ ∀ o, c.flush.values.get? o = none) ∧
    (∀ o ns, (c.wanted o ns).Pairwise (· < ·) ∧ ∀ n, n ∈ c.wanted o ns ↔ n ∈ ns ∨ c.Learned o n) ∧
    ∀ r answer c' log' s',
      ((source src.transcribed).ask r).run (c, log, s) = (answer, c', log', s') → ∃ sent,
      log' = log ++ sent ∧
      (∀ o ns, r.reads? = some (o, ns) →
        (c.Holds o ns → sent = [] ∧ c' = c) ∧
        (¬ c.Holds o ns → ∃ answer rest, sent = ⟨.batch o (c.wanted o ns), answer⟩ :: rest ∧
          ∀ x ∈ rest, x.isBatch = false)) ∧
      (∀ o ns e, ⟨.batch o ns, .error e⟩ ∈ sent → c' = c) ∧
      (∀ o n, c.Learned o n → c'.Learned o n) ∧
      (∀ o, (∀ ns, r.reads? ≠ some (o, ns)) →
        c'.learned? o = c.learned? o ∧ c'.values.get? o = c.values.get? o) ∧
      ∀ o n answer, ⟨.single o n, answer⟩ ∈ sent → r = .single o n ∧
        ∃ m, ⟨.batch o (c.wanted o [n]), .ok m⟩ ∈ sent ∧ Table.get? n m = none := by
  refine ⟨fun o n => ?_, ⟨rfl, fun o => rfl⟩, fun o ns => ?_, fun r answer c' log' s' hrun => ?_⟩
  · rw [h.learned_iff]
    constructor
    · rintro ⟨x, hx, ns, m, rfl, hn⟩
      exact ⟨ns, m, hx, hn⟩
    · rintro ⟨ns, m, hx, hn⟩
      exact ⟨_, hx, ns, m, rfl, hn⟩
  · exact ⟨pairwise_sortedSet _, fun n => mem_wanted_iff⟩
  obtain ⟨sent, hsent, hcourse⟩ := ask_course src log s c r
  rw [hrun] at hsent hcourse
  refine ⟨sent, hsent, fun o ns hr => ⟨?_, ?_⟩, fun o ns e => ?_, fun o n hn => ?_, fun o => ?_,
    fun o n answer => ?_⟩
  · exact hcourse.eq_of_holds hr
  · exact hcourse.batch_of_not_holds hr
  · exact hcourse.eq_of_error
  · exact hcourse.learned_iff.2 (.inl hn)
  · exact hcourse.eq_of_not_reads
  · exact hcourse.of_single

/-- Two names were read and forgotten; the next read, of a third one, sends a batch of all three. -/
theorem batching_of_flushed :
    ∃ c log peer answer c' log' peer', Used Script.source c log peer ∧
      ((source Script.source.transcribed).ask (.single .memory "c")).run (c, log, peer) =
        (answer, c', log', peer') ∧
      (∃ batch rest, log' = log ++ ⟨.batch .memory ["a", "b", "c"], batch⟩ :: rest ∧
        ∀ x ∈ rest, x.isBatch = false) ∧
      c'.Learned .memory "b" := by
  have hnew : Used Script.source {} []
    { values := [(.memory, [("a", .long 1), ("b", .long 2)])] } := .new _
  have h := (hnew.ask (r := .batch .memory ["b", "a"]) rfl).flush
  obtain ⟨hlearned, -, -, hnext⟩ := batching h
  obtain ⟨sent, hsent, hreads, -, hkept, -⟩ := hnext (.single .memory "c") _ _ _ _ rfl
  obtain ⟨batch, rest, rfl, hrest⟩ := (hreads _ _ rfl).2 fun ⟨m, hm, _⟩ => by cases hm
  refine ⟨_, _, _, _, _, _, _, h, rfl, ⟨batch, rest, hsent, hrest⟩, hkept _ _ ?_⟩
  exact (hlearned _ _).2 ⟨_, _, .head _, mem_wanted (.head _)⟩

end Cache

end VmMonitor
