import VmMonitor.Proofs.Peer.Retention
import VmMonitor.Proofs.Peer.Traffic

/-!
# What a cache learns

A cache learns the names of every batch that was answered, and never forgets one. So whatever is
asked of an object later, the batch for it names all that was learned.

## What is proved

* `Cache.ask_knows`, `Cache.ask_renewing` — **what was learned is asked for again**: no request makes
  a cache forget a name, and every batch that a request sends names all that are known.
* `Cache.ask_of_fresh` — a request for an object of which nothing is cached sends a batch.
* `Cache.lookup_teaches`, `Cache.ask_teaches` — what an attribute was answered from is learned: if
  nothing of its object was cached, or if batches are answered with nothing that they do not name.
-/

namespace VmMonitor

open Exchange

/-! ### What a cache knows -/

namespace Cache

/-- The names are learned for the object. -/
def Knows (o : ObjectName) (names : List String) (c : Cache) : Prop :=
  ∀ n ∈ names, n ∈ (c.learned? o).getD []

variable {c : Cache} {o o' : ObjectName} {names ns : List String} {m : AttributeMap}

theorem knows_flush : c.flush.Knows o names ↔ c.Knows o names := Iff.rfl

/-- A batch names all that was learned. -/
theorem Knows.wanted (h : c.Knows o names) (ns : List String) : ∀ n ∈ names, n ∈ c.wanted o ns := by
  intro n hn
  rw [Cache.wanted, mem_sortedSet]
  exact List.mem_append_right _ (h n hn)

/-- A batch that was answered has taught its names. -/
theorem knows_store (o : ObjectName) (ns : List String) (m : AttributeMap) (c : Cache) :
    (c.store o ns m).Knows o ns := by
  intro n hn
  simpa [store, learned?, Register.get?_set] using hn

theorem Knows.store_of_ne (h : c.Knows o names) (ho : o' ≠ o) : (c.store o' ns m).Knows o names := by
  intro n hn
  simpa [store, learned?, Register.get?_set, ho] using h n hn

/-- The batch of a lookup forgets nothing. -/
theorem Knows.store (h : c.Knows o names) : (c.store o' (c.wanted o' ns) m).Knows o names := by
  by_cases ho : o' = o
  · subst ho
    exact fun n hn => knows_store _ _ _ _ n (h.wanted ns n hn)
  · exact h.store_of_ne ho

section

variable {σ : Type} (src : Source σ)

/-- No request makes a cache forget a name. -/
theorem Knows.lookup (h : c.Knows o names) (o' : ObjectName) (ns : List String) (s : σ) :
    ((lookup src o' ns).run (c, s)).2.1.Knows o names := by
  cases hhit : c.hit? o' ns with
  | some m => rwa [run_lookup_of_hit src hhit]
  | none =>
    rcases hask : (src.ask (.batch o' (c.wanted o' ns))).run s with ⟨e | m, s'⟩
    · rwa [run_lookup_of_error hhit hask]
    · rw [run_lookup_of_ok hhit hask]
      exact h.store

end

end Cache

/-! ### What is sent -/

namespace Traffic

/-- A request of any kind. -/
def isRequest : Traffic → Bool
  | ask _ _ _ => true
  | _ => false

/-- A batch of the object names all of `names`. -/
def Renews (o : ObjectName) (names : List String) : Traffic → Prop
  | ask _ (.batch o' ns) _ => o' = o → ∀ n ∈ names, n ∈ ns
  | _ => True

/-- A batch of the object. -/
def IsBatch (o : ObjectName) (e : Traffic) : Prop := ∃ i ns a, e = ask i (.batch o ns) a

variable {o : ObjectName} {names : List String} {e : Traffic}

theorem renews_of_not_isRequest (h : e.isRequest = false) : e.Renews o names := by
  cases e with
  | ask i r a => cases h
  | connect e r => trivial
  | isAlive i alive => trivial
  | close i => trivial

end Traffic

variable {ω : Type} {t : Transport ω}

namespace Cache

/-- The names are learned, and every batch of the object since `x` names them. -/
def Renewing (o : ObjectName) (names : List String) (x : Logged ω) (y : Cache × Logged ω) : Prop :=
  y.1.Knows o names ∧ Sends (Traffic.Renews o names) x y.2

variable {o : ObjectName} {names : List String} {x : Logged ω}

theorem lookup_renewing (i : ConnectionId) (o' : ObjectName) (ns : List String) :
    Keeps (Renewing o names x) (lookup (t.logged.source i) o' ns) := by
  rintro ⟨c, y⟩ ⟨hknows, hsent⟩
  refine ⟨hknows.lookup _ o' ns y, ?_⟩
  cases hhit : c.hit? o' ns with
  | some m => rwa [run_lookup_of_hit _ hhit]
  | none =>
    have hlog := Transport.logged_ask (t := t) i (.batch o' (c.wanted o' ns)) y
    have hrenews : ∀ a, Traffic.Renews o names (.ask i (.batch o' (c.wanted o' ns)) a) := by
      rintro a rfl
      exact hknows.wanted ns
    rcases hask : ((t.logged.source i).ask (.batch o' (c.wanted o' ns))).run y with ⟨e | m, y'⟩
    · rw [hask] at hlog
      rw [run_lookup_of_error hhit hask]
      exact hsent.trans ⟨_, hlog, by simpa using hrenews _⟩
    · rw [hask] at hlog
      rw [run_lookup_of_ok hhit hask]
      exact hsent.trans ⟨_, hlog, by simpa using hrenews _⟩

theorem through_renewing (i : ConnectionId) {r : Request}
    (hr : ∀ a, Traffic.Renews o names (.ask i r a)) :
    Keeps (Renewing o names x) (through (t.logged.source i) r) := by
  rintro ⟨c, y⟩ ⟨hknows, hsent⟩
  refine ⟨hknows, hsent.trans ⟨_, Transport.logged_ask i r y, ?_⟩⟩
  simpa using hr _

/-- **What was learned is asked for again**, whatever the request. -/
theorem ask_renewing (i : ConnectionId) (r : Request) :
    Keeps (Renewing o names x) ((source (t.logged.source i)).ask r) := by
  cases r with
  | single o' n =>
    refine (lookup_renewing i o' [n]).bind fun m => ?_
    cases Table.get? n m with
    | some v => exact fun _ h => h
    | none => exact through_renewing i fun _ => trivial
  | batch o' ns => exact (lookup_renewing i o' ns).bind fun _ _ h => h
  | query o' => exact through_renewing i fun _ => trivial
  | invoke o' op params => exact through_renewing i fun _ => trivial

/-! ### A first request sends a batch -/

/-- Since `x`, a batch of the object was sent. -/
def Fetched (o : ObjectName) (x : Logged ω) (y : Cache × Logged ω) : Prop :=
  ∃ l, y.2.1 = x.1 ++ l ∧ ∃ e ∈ l, e.IsBatch o

/-- Nothing of the object is cached, and `x` is what was sent before. -/
def Fresh (o : ObjectName) (x : Logged ω) (y : Cache × Logged ω) : Prop :=
  y.1.values.get? o = none ∧ ∃ l, y.2.1 = x.1 ++ l

/-- A request only adds to what was sent. -/
theorem exists_sent (i : ConnectionId) (r : Request) (y : Cache × Logged ω) :
    ∃ l, (((source (t.logged.source i)).ask r).run y).2.2.1 = y.2.1 ++ l := by
  obtain ⟨c, y⟩ := y
  obtain ⟨-, -, -, l, hl, -⟩ :=
    (t.source_logged_alike i y).cached r (c, y) (c, y.2) ⟨rfl, rfl, .refl y⟩
  exact ⟨l, hl⟩

theorem ask_fetched (i : ConnectionId) (r : Request) :
    Keeps (Fetched o x) ((source (t.logged.source i)).ask r) := by
  rintro y ⟨l, hl, e, he, hbatch⟩
  obtain ⟨l', hl'⟩ := exists_sent (t := t) i r y
  refine ⟨l ++ l', ?_, e, List.mem_append_left _ he, hbatch⟩
  rw [hl', hl, List.append_assoc]

/-- A request for another object leaves this one as it is. -/
theorem ask_fresh (i : ConnectionId) {o' : ObjectName} (ho : o' ≠ o) (n : String) :
    Keeps (Fresh o x) ((source (t.logged.source i)).ask (.single o' n)) := by
  rintro ⟨c, y⟩ ⟨hnone, l, hl⟩
  obtain ⟨l', hl'⟩ := exists_sent (t := t) i (.single o' n) (c, y)
  refine ⟨?_, l ++ l', ?_⟩
  · refine (congrArg (fun c => c.values.get? o) (cache_one _ o' n c y)).trans ?_
    exact ((values_lookup _ o' [n] c y).1 o (Ne.symm ho)).trans hnone
  · rw [hl', hl, List.append_assoc]

theorem lookup_of_fresh (i : ConnectionId) (ns : List String) :
    Yields (Fresh o x) (lookup (t.logged.source i) o ns) fun _ => Fetched o x := by
  rintro ⟨c, y⟩ ⟨hnone, l, hl⟩ m z hrun
  have hhit : c.hit? o ns = none := by simp [hit?, hnone]
  have hlog := Transport.logged_ask (t := t) i (.batch o (c.wanted o ns)) y
  rcases hask : ((t.logged.source i).ask (.batch o (c.wanted o ns))).run y with ⟨e | m', y'⟩
  · rw [run_lookup_of_error hhit hask] at hrun
    cases hrun
  · rw [hask] at hlog
    rw [run_lookup_of_ok hhit hask] at hrun
    cases hrun
    have hsent : y'.1 = x.1 ++ (l ++ [.ask i (.batch o (c.wanted o ns)) (.ok m)]) := by
      rw [hlog, hl, List.append_assoc]
    exact ⟨_, hsent, _, List.mem_append_right _ (.head _), i, _, _, rfl⟩

/-- A request for an object of which nothing is cached sends a batch. -/
theorem ask_of_fresh (i : ConnectionId) (n : String) :
    Yields (Fresh o x) ((source (t.logged.source i)).ask (.single o n)) fun _ => Fetched o x := by
  refine (lookup_of_fresh i [n]).bind fun m => Keeps.yields ?_
  cases Table.get? n m with
  | some v => exact fun _ h => h
  | none =>
    rintro ⟨c, y⟩ ⟨l, hl, e, he, hbatch⟩
    have hlog := Transport.logged_ask (t := t) i (.single o n) y
    rw [show y.1 = x.1 ++ l from hl, List.append_assoc] at hlog
    exact ⟨_, hlog, e, List.mem_append_left _ he, hbatch⟩

/-! ### What a first reading teaches -/

section

variable {σ : Type} (src : Source σ)

/-- No request makes a cache forget a name. -/
theorem ask_knows (r : Request) : Keeps (fun y => y.1.Knows o names) ((source src).ask r) := by
  rintro ⟨c, s⟩ hknows
  cases r with
  | single o' n =>
    refine (congrArg (Knows o names) (cache_one src o' n c s)).mpr ?_
    exact hknows.lookup src o' [n] s
  | batch o' ns =>
    refine (congrArg (Knows o names) (cache_many src o' ns c s)).mpr ?_
    exact hknows.lookup src o' ns s
  | query o' => exact hknows
  | invoke o' op params => exact hknows

/-- All cached values of the object are of learned names. -/
def Tight (o : ObjectName) (c : Cache) : Prop :=
  ∀ m, c.values.get? o = some m → ∀ n, Table.has n m → n ∈ (c.learned? o).getD []

theorem tight_of_none {c : Cache} (h : c.values.get? o = none) : c.Tight o := by
  intro m hm
  simp [h] at hm

/-- What a lookup comes up with from nothing, it has learned. -/
theorem lookup_teaches (n : String) :
    Yields (fun y => y.1.values.get? o = none) ((source src).ask (.single o n))
      fun _ y => y.1.Knows o [n] := by
  have hlookup : Yields (fun y => y.1.values.get? o = none) (lookup src o [n])
      fun _ y => y.1.Knows o [n] := by
    rintro ⟨c, s⟩ hnone m y hrun
    have hhit : c.hit? o [n] = none := by simp [hit?, hnone]
    rcases hask : (src.ask (.batch o (c.wanted o [n]))).run s with ⟨e | m', s'⟩
    · rw [run_lookup_of_error hhit hask] at hrun
      cases hrun
    · rw [run_lookup_of_ok hhit hask] at hrun
      cases hrun
      exact fun k hk => knows_store _ _ _ _ k (mem_wanted hk)
  refine hlookup.bind fun m => Keeps.yields ?_
  cases Table.get? n m with
  | some v => exact fun _ h => h
  | none => exact fun _ h => h

end

end Cache

/-- A batch is answered with nothing that it does not name. -/
def Source.Exact {σ : Type} (src : Source σ) : Prop :=
  ∀ o ns s m s', (src.ask (.batch o ns)).run s = (.ok m, s') → ∀ n, Table.has n m → n ∈ ns

/-- Every connection answers batches with nothing that they do not name. -/
def Transport.Exact (t : Transport ω) : Prop := ∀ i, (t.source i).Exact

theorem Transport.Exact.logged (h : t.Exact) : t.logged.Exact := by
  rintro i o ns ⟨log, w⟩ m y hrun n hn
  rcases hask : ((t.source i).ask (.batch o ns)).run w with ⟨r, w'⟩
  have hanswer : (((t.logged.source i).ask (.batch o ns)).run (log, w)).1 = r := congrArg Prod.fst hask
  rw [hrun] at hanswer
  obtain rfl := hanswer
  exact h i o ns w m w' hask n hn

namespace Cache

section

variable {σ : Type} {src : Source σ} {o : ObjectName}

/-- Whatever a cache around an exact source has to say of an attribute, it knows its name. -/
theorem ask_teaches (hsrc : src.Exact) (n : String) :
    Yields (fun y => y.1.Tight o) ((source src).ask (.single o n))
      fun _ y => y.1.Tight o ∧ y.1.Knows o [n] := by
  have hlookup : Yields (fun y => y.1.Tight o) (lookup src o [n])
      fun _ y => y.1.Tight o ∧ y.1.Knows o [n] := by
    rintro ⟨c, s⟩ htight m y hrun
    cases hhit : c.hit? o [n] with
    | some m' =>
      rw [run_lookup_of_hit src hhit] at hrun
      cases hrun
      obtain ⟨hm, hall⟩ := hit?_eq_some_iff.1 hhit
      exact ⟨htight, fun k hk => htight m hm k (hall k hk)⟩
    | none =>
      rcases hask : (src.ask (.batch o (c.wanted o [n]))).run s with ⟨e | m', s'⟩
      · rw [run_lookup_of_error hhit hask] at hrun
        cases hrun
      rw [run_lookup_of_ok hhit hask] at hrun
      cases hrun
      refine ⟨?_, fun k hk => knows_store _ _ _ _ k (mem_wanted hk)⟩
      intro m₁ hm₁ k hk
      obtain rfl : m = m₁ := by simpa [store, Register.get?_set] using hm₁
      exact knows_store _ _ _ _ k (hsrc _ _ _ _ _ hask k hk)
  refine hlookup.bind fun m => Keeps.yields ?_
  cases Table.get? n m with
  | some v => exact fun _ h => h
  | none => exact fun _ h => h

end

end Cache

end VmMonitor
