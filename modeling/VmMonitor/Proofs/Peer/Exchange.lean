import VmMonitor.Peer

/-!
# Steps of an exchange

What a step made of smaller ones does: its result and the state it leaves, and some ways of saying
something of a whole step by saying it of its parts.

* `Exchange.Alike R x y` — two steps, started in related states, give the same result and leave
  related states.
* `Exchange.Keeps P x` — a step that starts in a state with `P` ends in one.
* `Exchange.Yields P x Q` — a step that starts in a state with `P` and ends well gives what `Q` says.
* `Exchange.Gives P x a Q` — a step that starts in a state with `P` ends well, with `a` and in `Q`.
* `Exchange.Completes P x Q` — a step that starts in a state with `P` ends well, with what `Q` says.

Each holds of a sequence if it holds of the members (`Alike.bind`, `Keeps.bind`, `Yields.bind`,
`Gives.bind`, `Completes.bind`). `Exchange.Succeeds x s` only says that a step ends well, and
`Exchange.InTurn` what it is to take one step for each member of a list.
Nothing is said of what the steps are about.
-/

namespace VmMonitor.Exchange

variable {σ τ α β : Type}

/-! ### Results and states -/

theorem run_bind (x : Exchange σ α) (f : α → Exchange σ β) (s : σ) :
    (x >>= f).run s = match x.run s with
      | (.ok a, s) => (f a).run s
      | (.error e, s) => (.error e, s) := by
  change ExceptT.bindCont f (x.run s).1 (x.run s).2 = _
  rcases x.run s with ⟨e | a, s⟩ <;> rfl

/-- A sequence ends well just when both steps do. -/
theorem run_bind_eq_ok {x : Exchange σ α} {f : α → Exchange σ β} {s s'' : σ} {b : β} :
    (x >>= f).run s = (.ok b, s'') ↔ ∃ a s', x.run s = (.ok a, s') ∧ (f a).run s' = (.ok b, s'') := by
  rw [run_bind]
  rcases x.run s with ⟨e | a, s'⟩
  · constructor
    · exact nofun
    · rintro ⟨_, _, h, -⟩
      cases h
  · constructor
    · exact fun h => ⟨a, s', rfl, h⟩
    · rintro ⟨_, _, hx, h⟩
      cases hx
      exact h

/-- It fails just when one of the two does. -/
theorem run_bind_eq_error {x : Exchange σ α} {f : α → Exchange σ β} {s s'' : σ}
    {e : ConnectionError} : (x >>= f).run s = (.error e, s'') ↔
      x.run s = (.error e, s'') ∨ ∃ a s', x.run s = (.ok a, s') ∧ (f a).run s' = (.error e, s'') := by
  rw [run_bind]
  rcases x.run s with ⟨e' | a, s'⟩
  · constructor
    · rintro ⟨⟩
      exact .inl rfl
    · rintro (hx | ⟨_, _, hx, -⟩) <;> cases hx
      rfl
  · constructor
    · exact fun h => .inr ⟨a, s', rfl, h⟩
    · rintro (hx | ⟨_, _, hx, h⟩)
      · cases hx
      · cases hx
        exact h

theorem run_beside (x : Exchange σ α) (k : τ) (s : σ) :
    (x.beside τ).run (k, s) = ((x.run s).1, k, (x.run s).2) := rfl

/-- The state of someone else's stays as it is. -/
theorem run_beside_eq_iff {x : Exchange σ α} {k k' : τ} {s s' : σ} {r : Except ConnectionError α} :
    (x.beside τ).run (k, s) = (r, k', s') ↔ x.run s = (r, s') ∧ k' = k := by
  rcases hx : x.run s with ⟨r', s''⟩
  rw [run_beside, hx]
  constructor
  · rintro ⟨⟩
    exact ⟨rfl, rfl⟩
  · rintro ⟨⟨⟩, rfl⟩
    rfl

theorem run_tryCatch (x : Exchange σ α) (f : ConnectionError → Exchange σ α) (s : σ) :
    (tryCatch x f).run s = match x.run s with
      | (.ok a, s) => (.ok a, s)
      | (.error e, s) => (f e).run s := by
  rcases hx : x.run s with ⟨r, s'⟩
  have hx' : x s = (r, s') := hx
  simp only [tryCatch, tryCatchThe, MonadExceptOf.tryCatch, ExceptT.tryCatch, ExceptT.run_mk, bind,
    StateT.bind, hx']
  cases r <;> rfl

theorem run_ofExcept (r : Except ConnectionError α) (s : σ) :
    (ofExcept r : Exchange σ α).run s = (r, s) := by
  cases r <;> rfl

/-! ### Steps that are alike -/

/-- The same in front, related states behind. -/
def Beside {κ : Type} (R : σ → τ → Prop) (x : κ × σ) (y : κ × τ) : Prop := x.1 = y.1 ∧ R x.2 y.2

/-- From related states, the same result and related states. -/
def Alike (R : σ → τ → Prop) (x : Exchange σ α) (y : Exchange τ α) : Prop :=
  ∀ s u, R s u → Beside R (x.run s) (y.run u)

namespace Alike

variable {R : σ → τ → Prop} {x : Exchange σ α} {y : Exchange τ α}

theorem pure (a : α) : Alike R (pure a) (pure a) := fun _ _ h => ⟨rfl, h⟩

theorem throw (e : ConnectionError) : Alike R (throw e : Exchange σ α) (throw e) :=
  fun _ _ h => ⟨rfl, h⟩

theorem ofExcept (r : Except ConnectionError α) :
    Alike R (ofExcept r : Exchange σ α) (ofExcept r) := by
  intro s u h
  rw [run_ofExcept, run_ofExcept]
  exact ⟨rfl, h⟩

theorem bind (h : Alike R x y) {f : α → Exchange σ β} {g : α → Exchange τ β}
    (hf : ∀ a, Alike R (f a) (g a)) : Alike R (x >>= f) (y >>= g) := by
  intro s u hsu
  obtain ⟨hr, hR⟩ := h s u hsu
  rw [run_bind, run_bind]
  rcases hx : x.run s with ⟨r, s'⟩
  rcases hy : y.run u with ⟨r', u'⟩
  rw [hx, hy] at hr hR
  cases hr
  cases r with
  | error e => exact ⟨rfl, hR⟩
  | ok a => exact hf a _ _ hR

theorem tryCatch (h : Alike R x y) {f : ConnectionError → Exchange σ α}
    {g : ConnectionError → Exchange τ α} (hf : ∀ e, Alike R (f e) (g e)) :
    Alike R (tryCatch x f) (tryCatch y g) := by
  intro s u hsu
  obtain ⟨hr, hR⟩ := h s u hsu
  rw [run_tryCatch, run_tryCatch]
  rcases hx : x.run s with ⟨r, s'⟩
  rcases hy : y.run u with ⟨r', u'⟩
  rw [hx, hy] at hr hR
  cases hr
  cases r with
  | error e => exact hf e _ _ hR
  | ok a => exact ⟨rfl, hR⟩

/-- Beside a state of someone else's. -/
theorem beside (h : Alike R x y) (κ : Type) :
    Alike (Beside R) (x.beside κ) (y.beside κ) := by
  rintro ⟨k, s⟩ ⟨k', u⟩ ⟨hk, hsu⟩
  obtain ⟨hr, hR⟩ := h s u hsu
  exact ⟨hr, hk, hR⟩

/-- A change of the state in front. -/
theorem modify {κ : Type} (f : κ → κ) :
    Alike (Beside R) (modify fun (k, s) => (f k, s) : Exchange (κ × σ) Unit)
      (modify fun (k, u) => (f k, u) : Exchange (κ × τ) Unit) := by
  rintro ⟨k, s⟩ ⟨k', u⟩ ⟨hk, hsu⟩
  exact ⟨rfl, congrArg f hk, hsu⟩

end Alike

/-! ### Steps that keep a property -/

/-- From a state with the property, a state with the property. -/
def Keeps (P : σ → Prop) (x : Exchange σ α) : Prop := ∀ s, P s → P (x.run s).2

namespace Keeps

variable {P : σ → Prop} {x : Exchange σ α}

theorem bind (h : Keeps P x) {f : α → Exchange σ β} (hf : ∀ a, Keeps P (f a)) :
    Keeps P (x >>= f) := by
  intro s hs
  have hP := h s hs
  rw [run_bind]
  rcases hx : x.run s with ⟨r, s'⟩
  rw [hx] at hP
  cases r with
  | error e => exact hP
  | ok a => exact hf a s' hP

/-- A property of the state in front is kept by whatever works behind it. -/
theorem beside (x : Exchange σ α) {κ : Type} (P : κ → Prop) :
    Keeps (fun s => P s.1) (x.beside κ) := fun _ h => h

theorem ofExcept (r : Except ConnectionError α) : Keeps P (ofExcept r) := by
  intro s hs
  rwa [run_ofExcept]

end Keeps

/-- The same state, with the property. -/
def Same (P : σ → Prop) (s u : σ) : Prop := s = u ∧ P s

section

variable {P : σ → Prop} {x : Exchange σ α}

/-- A step keeps a property just when it is alike to itself in the states with it, so what is known
of steps that are alike says what is kept. -/
theorem Keeps.alike (h : Keeps P x) : Alike (Same P) x x := by
  rintro s _ ⟨rfl, hs⟩
  exact ⟨rfl, rfl, h s hs⟩

theorem Alike.keeps (h : Alike (Same P) x x) : Keeps P x := fun s hs => (h s s ⟨rfl, hs⟩).2.2

/-- Of the state behind. -/
theorem Alike.keeps_behind {κ : Type} {x : Exchange (κ × σ) α} (h : Alike (Beside (Same P)) x x) :
    Keeps (fun y => P y.2) x := fun s hs => (h s s ⟨rfl, rfl, hs⟩).2.2.2

end

/-! ### Steps that end well -/

/-- From a state with `P`, a step that ends well does so with a result and a state that are in `Q`. -/
def Yields (P : σ → Prop) (x : Exchange σ α) (Q : α → σ → Prop) : Prop :=
  ∀ s, P s → ∀ a s', x.run s = (.ok a, s') → Q a s'

namespace Yields

variable {P : σ → Prop} {x : Exchange σ α} {Q : α → σ → Prop}

theorem bind (h : Yields P x Q) {f : α → Exchange σ β} {R : β → σ → Prop}
    (hf : ∀ a, Yields (Q a) (f a) R) : Yields P (x >>= f) R := by
  intro s hs b s'' hrun
  obtain ⟨a, s', hx, hfa⟩ := run_bind_eq_ok.1 hrun
  exact hf a s' (h s hs a s' hx) b s'' hfa

/-- Behind a state of someone else's. -/
theorem beside (h : Yields P x Q) (κ : Type) :
    Yields (fun y => P y.2) (x.beside κ) fun a y => Q a y.2 := by
  rintro ⟨k, s⟩ hs a ⟨k', s'⟩ hrun
  rcases hx : x.run s with ⟨r, s''⟩
  rw [run_beside, hx] at hrun
  cases hrun
  exact h s hs a s'' hx

end Yields

theorem Keeps.yields {P : σ → Prop} {x : Exchange σ α} (h : Keeps P x) :
    Yields P x fun _ => P := by
  intro s hs a s' hrun
  have hP := h s hs
  rwa [hrun] at hP

/-! ### Steps that end well with a certain result -/

/-- From a state with `P`, the step ends well with `a`, in a state with `Q`. -/
def Gives (P : σ → Prop) (x : Exchange σ α) (a : α) (Q : σ → Prop) : Prop :=
  ∀ s, P s → ∃ s', x.run s = (.ok a, s') ∧ Q s'

namespace Gives

variable {P Q R : σ → Prop} {x : Exchange σ α} {a : α} {b : β}

theorem pure (a : α) : Gives P (pure a) a P := fun s hs => ⟨s, rfl, hs⟩

theorem ofExcept {r : Except ConnectionError α} (h : r = .ok a) : Gives P (ofExcept r) a P := by
  intro s hs
  rw [run_ofExcept, h]
  exact ⟨s, rfl, hs⟩

theorem bind (h : Gives P x a Q) {f : α → Exchange σ β} (hf : Gives Q (f a) b R) :
    Gives P (x >>= f) b R := by
  intro s hs
  obtain ⟨s', hx, hQ⟩ := h s hs
  obtain ⟨s'', hfa, hR⟩ := hf s' hQ
  exact ⟨s'', run_bind_eq_ok.2 ⟨a, s', hx, hfa⟩, hR⟩

theorem tryCatch (h : Gives P x a Q) (f : ConnectionError → Exchange σ α) :
    Gives P (tryCatch x f) a Q := by
  intro s hs
  obtain ⟨s', hx, hQ⟩ := h s hs
  exact ⟨s', by rw [run_tryCatch, hx], hQ⟩

/-- Beside a state of someone else's. -/
theorem beside (h : Gives P x a Q) {κ : Type} (K : κ → Prop) :
    Gives (fun y => K y.1 ∧ P y.2) (x.beside κ) a fun y => K y.1 ∧ Q y.2 := by
  rintro ⟨k, s⟩ ⟨hk, hs⟩
  obtain ⟨s', hx, hQ⟩ := h s hs
  exact ⟨(k, s'), by rw [run_beside, hx], hk, hQ⟩

/-- A change of the state in front. -/
theorem modify {κ : Type} {K L : κ → Prop} {f : κ → κ} (hf : ∀ k, K k → L (f k)) :
    Gives (fun y => K y.1 ∧ P y.2) (modify fun (k, s) => (f k, s) : Exchange (κ × σ) Unit) ()
      fun y => L y.1 ∧ P y.2 := by
  rintro ⟨k, s⟩ ⟨hk, hs⟩
  exact ⟨(f k, s), rfl, hf k hk, hs⟩

end Gives

/-! ### Steps that do end well -/

/-- From a state with `P`, the step ends well, with a result and a state that are in `Q`. -/
def Completes (P : σ → Prop) (x : Exchange σ α) (Q : α → σ → Prop) : Prop :=
  ∀ s, P s → ∃ a s', x.run s = (.ok a, s') ∧ Q a s'

namespace Completes

variable {P : σ → Prop} {x : Exchange σ α} {Q : α → σ → Prop}

theorem pure (a : α) : Completes (Q a) (pure a) Q := fun s hs => ⟨a, s, rfl, hs⟩

theorem ofExcept {r : Except ConnectionError α} {a : α} (h : r = .ok a) :
    Completes P (ofExcept r) fun _ => P := by
  intro s hs
  rw [run_ofExcept, h]
  exact ⟨a, s, rfl, hs⟩

theorem bind (h : Completes P x Q) {f : α → Exchange σ β} {R : β → σ → Prop}
    (hf : ∀ a, Completes (Q a) (f a) R) : Completes P (x >>= f) R := by
  intro s hs
  obtain ⟨a, s', hx, hQ⟩ := h s hs
  obtain ⟨b, s'', hfa, hR⟩ := hf a s' hQ
  exact ⟨b, s'', run_bind_eq_ok.2 ⟨a, s', hx, hfa⟩, hR⟩

theorem imp (h : Completes P x Q) {R : α → σ → Prop} (hR : ∀ a s, Q a s → R a s) :
    Completes P x R := by
  intro s hs
  obtain ⟨a, s', hx, hQ⟩ := h s hs
  exact ⟨a, s', hx, hR a s' hQ⟩

/-- A fact about what came before. -/
theorem of_fact {p : Prop} (h : p → Completes P x Q) : Completes (fun s => p ∧ P s) x Q :=
  fun s hs => h hs.1 s hs.2

/-- With something that is the same before and after the step. -/
theorem exists_of_fact {ι : Type} {p : ι → Prop} {P : ι → σ → Prop} {Q : ι → α → σ → Prop}
    (h : ∀ i, p i → Completes (P i) x (Q i)) :
    Completes (fun s => ∃ i, p i ∧ P i s) x fun a s => ∃ i, p i ∧ Q i a s := by
  rintro s ⟨i, hi, hs⟩
  obtain ⟨a, s', hx, hQ⟩ := h i hi s hs
  exact ⟨a, s', hx, i, hi, hQ⟩

/-- Beside a state of someone else's. -/
theorem beside (h : Completes P x Q) {κ : Type} (K : κ → Prop) :
    Completes (fun y => K y.1 ∧ P y.2) (x.beside κ) fun a y => K y.1 ∧ Q a y.2 := by
  rintro ⟨k, s⟩ ⟨hk, hs⟩
  obtain ⟨a, s', hx, hQ⟩ := h s hs
  exact ⟨a, (k, s'), run_beside_eq_iff.2 ⟨hx, rfl⟩, hk, hQ⟩

end Completes

/-! ### Steps that end well, and lists of them -/

/-- From the state `s`, the step ends well. -/
def Succeeds (x : Exchange σ α) (s : σ) : Prop := ∃ a s', x.run s = (.ok a, s')

namespace Alike

variable {R : σ → τ → Prop} {x : Exchange σ α} {y : Exchange τ α} {s s' : σ} {u : τ}
  {r : Except ConnectionError α}

theorem exists_run (h : Alike R x y) (hsu : R s u) (hx : x.run s = (r, s')) :
    ∃ u', y.run u = (r, u') ∧ R s' u' := by
  obtain ⟨hr, hR⟩ := h s u hsu
  rw [hx] at hr hR
  exact ⟨(y.run u).2, Prod.ext hr.symm rfl, hR⟩

theorem succeeds (h : Alike R x y) (hsu : R s u) : x.Succeeds s ↔ y.Succeeds u := by
  constructor
  · rintro ⟨a, s', hx⟩
    obtain ⟨u', hy, -⟩ := h.exists_run hsu hx
    exact ⟨a, u', hy⟩
  · rintro ⟨a, u', hy⟩
    obtain ⟨hr, -⟩ := h s u hsu
    rw [hy] at hr
    exact ⟨a, (x.run s).2, Prod.ext hr rfl⟩

end Alike

theorem succeeds_beside {x : Exchange σ α} {k : τ} {s : σ} :
    (x.beside τ).Succeeds (k, s) ↔ x.Succeeds s := by
  constructor
  · rintro ⟨a, ⟨k', s'⟩, h⟩
    exact ⟨a, s', (run_beside_eq_iff.1 h).1⟩
  · rintro ⟨a, s', h⟩
    exact ⟨a, (k, s'), run_beside_eq_iff.2 ⟨h, rfl⟩⟩

/-- After a step that leaves the state of someone else's alone. -/
theorem succeeds_beside_bind {x : Exchange σ α} {f : α → Exchange (τ × σ) β} {k : τ} {s : σ} :
    (x.beside τ >>= f).Succeeds (k, s) ↔
      ∃ a s', x.run s = (.ok a, s') ∧ (f a).Succeeds (k, s') := by
  constructor
  · rintro ⟨b, s'', h⟩
    obtain ⟨a, ⟨k', s'⟩, hbeside, hf⟩ := run_bind_eq_ok.1 h
    obtain ⟨hx, rfl⟩ := run_beside_eq_iff.1 hbeside
    exact ⟨a, s', hx, b, s'', hf⟩
  · rintro ⟨a, s', hx, b, s'', hf⟩
    exact ⟨b, s'', run_bind_eq_ok.2 ⟨a, (k, s'), run_beside_eq_iff.2 ⟨hx, rfl⟩, hf⟩⟩

/-- A result that is only passed on. -/
theorem succeeds_bind_pure {x : Exchange σ α} {f : α → β} {s : σ} :
    (x >>= fun a => pure (f a)).Succeeds s ↔ x.Succeeds s := by
  constructor
  · rintro ⟨b, s'', h⟩
    obtain ⟨a, s', hx, -⟩ := run_bind_eq_ok.1 h
    exact ⟨a, s', hx⟩
  · rintro ⟨a, s', hx⟩
    exact ⟨f a, s', run_bind_eq_ok.2 ⟨a, s', hx, rfl⟩⟩

/-- One step for each member of a list, each from the state that the one before has left; all of them
end well. -/
inductive InTurn {ι : Type} (x : ι → Exchange σ α) : List ι → σ → List α → σ → Prop
  | nil (s : σ) : InTurn x [] s [] s
  | cons {i : ι} {is : List ι} {s s' s'' : σ} {a : α} {as : List α} : (x i).run s = (.ok a, s') →
      InTurn x is s' as s'' → InTurn x (i :: is) s (a :: as) s''

theorem InTurn.length_eq {ι : Type} {x : ι → Exchange σ α} {is : List ι} {as : List α} {s s' : σ}
    (h : InTurn x is s as s') : is.length = as.length := by
  induction h with
  | nil => rfl
  | cons _ _ ih => rw [List.length_cons, List.length_cons, ih]

end VmMonitor.Exchange
