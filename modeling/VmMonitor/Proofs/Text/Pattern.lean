import Mathlib.Tactic.SplitIfs
import VmMonitor.ObjectName

/-!
# Patterns of text

A pattern may be met in a text in several ways. They have an order: where characters may be repeated,
more of them come before fewer, and what is tried first counts first. A search looks from place to
place, and at the first place where the pattern is met it takes the first way: that is the leftmost
match, and the greediest one from the front. What groups took is told in their order.

## The model

`Pattern.ways` lists the ways in their order, and so does by enumeration what an engine does by going
back over its choices. A place counts by the number of characters in front of it, which only
`Pattern.start` looks at.

## What is proved

* `Pattern.findSome?_runs_eq_some_iff`, `Pattern.findSome?_runs_before`: a repetition goes as far as it
  can while what comes behind it is still met; before a separator, that is up to the last one that
  serves.
* `Pattern.first_seq`, `Pattern.first_group_seq`: the first way of a sequence.
* `Pattern.search_start_seq`: what is met at the start only is looked for there only.
-/

namespace VmMonitor

/-- A pattern. -/
inductive Pattern
  /-- One character of a kind. -/
  | one (kind : Char → Bool)
  /-- Any number of characters of a kind, as many as possible. -/
  | many (kind : Char → Bool)
  | seq (p q : Pattern)
  /-- What this takes is told. -/
  | group (p : Pattern)
  /-- The start of the text. -/
  | start
  /-- The end of the text. -/
  | finish

namespace Pattern

/-- One way to meet a pattern: the characters that it takes, what its groups took, and the characters
behind it. -/
structure Way where
  taken : List Char
  groups : List (List Char) := []
  rest : List Char

/-- A way behind another one. -/
def Way.then (w v : Way) : Way := ⟨w.taken ++ v.taken, w.groups ++ v.groups, v.rest⟩

/-- Takes some characters of a kind from the front, more before fewer. -/
def runs (kind : Char → Bool) : List Char → List Way
  | [] => [{ taken := [], rest := [] }]
  | c :: cs =>
    (if kind c then (runs kind cs).map fun w => { w with taken := c :: w.taken } else [])
      ++ [{ taken := [], rest := c :: cs }]

/-- The ways to meet a pattern behind `n` characters, in their order. -/
def ways : Pattern → Nat → List Char → List Way
  | one _, _, [] => []
  | one kind, _, c :: cs => if kind c then [{ taken := [c], rest := cs }] else []
  | many kind, _, cs => runs kind cs
  | seq p q, n, cs => (ways p n cs).flatMap fun w => (ways q (n + w.taken.length) w.rest).map w.then
  | group p, n, cs => (ways p n cs).map fun w => { w with groups := w.taken :: w.groups }
  | start, n, cs => if n = 0 then [{ taken := [], rest := cs }] else []
  | finish, _, cs => if cs.isEmpty then [{ taken := [], rest := cs }] else []

/-- What the groups took of the first way at the first place, from behind `n` characters on. -/
def searchFrom (p : Pattern) (n : Nat) : List Char → Option (List (List Char))
  | [] => (p.ways n []).head?.map (·.groups)
  | c :: cs =>
    match (p.ways n (c :: cs)).head? with
    | some w => some w.groups
    | none => searchFrom p (n + 1) cs

/-- What the groups took of the leftmost match. -/
def search (p : Pattern) (cs : List Char) : Option (List (List Char)) := p.searchFrom 0 cs

/-- Patterns one behind the other. -/
def chain : Pattern → List Pattern → Pattern
  | p, [] => p
  | p, q :: qs => seq p (chain q qs)

/-- The first way to meet a pattern behind `n` characters. -/
def first (p : Pattern) (n : Nat) (cs : List Char) : Option Way := (p.ways n cs).head?

/-! ### Repetitions -/

section

variable {kind : Char → Bool} {β : Type} {f : Way → Option β}

theorem findSome?_runs_cons (f : Way → Option β) (c : Char) (cs : List Char) :
    (runs kind (c :: cs)).findSome? f =
      (if kind c then (runs kind cs).findSome? fun w => f { w with taken := c :: w.taken }
        else none).or (f { taken := [], rest := c :: cs }) := by
  rw [runs, List.findSome?_append, List.findSome?_singleton]
  split_ifs
  · rw [List.findSome?_map]
    rfl
  · rw [List.findSome?_nil]

/-- No run serves. -/
theorem findSome?_runs_eq_none_iff {cs : List Char} : (runs kind cs).findSome? f = none ↔
    ∀ taken rest, cs = taken ++ rest → (∀ c ∈ taken, kind c) → f { taken, rest } = none := by
  induction cs generalizing f with
  | nil =>
    simp only [runs, List.findSome?_singleton, List.nil_eq_append_iff]
    constructor
    · rintro h _ _ ⟨rfl, rfl⟩ -
      exact h
    · exact fun h => h [] [] ⟨rfl, rfl⟩ nofun
  | cons c cs ih =>
    rw [findSome?_runs_cons, Option.or_eq_none_iff]
    constructor
    · rintro ⟨hmore, hnothing⟩ taken rest hcs htaken
      cases taken with
      | nil =>
        obtain rfl : c :: cs = rest := hcs
        exact hnothing
      | cons c' taken =>
        obtain ⟨rfl, rfl⟩ := List.cons.inj hcs
        rw [if_pos (htaken c (.head _)), ih] at hmore
        exact hmore taken rest rfl fun c' hc' => htaken c' (.tail _ hc')
    · intro h
      refine ⟨?_, h [] (c :: cs) rfl nofun⟩
      split_ifs with hc
      · rw [ih]
        rintro taken rest rfl htaken
        exact h (c :: taken) rest rfl (by simpa [hc] using htaken)
      · rfl

/-- The first run that serves is the longest one that does. -/
theorem findSome?_runs_eq_some_iff {cs : List Char} {b : β} :
    (runs kind cs).findSome? f = some b ↔ ∃ taken rest, cs = taken ++ rest ∧
      (∀ c ∈ taken, kind c) ∧ f { taken, rest } = some b ∧
      ∀ c more rest', rest = c :: more ++ rest' → (∀ c' ∈ c :: more, kind c') →
        f { taken := taken ++ c :: more, rest := rest' } = none := by
  induction cs generalizing f with
  | nil =>
    simp only [runs, List.findSome?_singleton, List.nil_eq_append_iff]
    constructor
    · exact fun h => ⟨[], [], ⟨rfl, rfl⟩, nofun, h, nofun⟩
    · rintro ⟨_, _, ⟨rfl, rfl⟩, -, h, -⟩
      exact h
  | cons c cs ih =>
    rw [findSome?_runs_cons, Option.or_eq_some_iff]
    constructor
    · rintro (h | ⟨hnone, h⟩)
      · split_ifs at h with hc
        obtain ⟨taken, rest, rfl, htaken, hf, hlongest⟩ := ih.1 h
        exact ⟨c :: taken, rest, rfl, by simpa [hc] using htaken, hf, hlongest⟩
      · refine ⟨[], c :: cs, rfl, nofun, h, fun c' more rest' hcs hkind => ?_⟩
        obtain ⟨rfl, rfl⟩ := List.cons.inj hcs
        rw [if_pos (hkind c (.head _)), findSome?_runs_eq_none_iff] at hnone
        exact hnone more rest' rfl fun c' hc' => hkind c' (.tail _ hc')
    · rintro ⟨taken, rest, hcs, htaken, hf, hlongest⟩
      cases taken with
      | nil =>
        obtain rfl : c :: cs = rest := hcs
        refine .inr ⟨?_, hf⟩
        split_ifs with hc
        · rw [findSome?_runs_eq_none_iff]
          rintro more rest' rfl hmore
          exact hlongest c more rest' rfl (by simpa [hc] using hmore)
        · rfl
      | cons c' taken =>
        obtain ⟨rfl, rfl⟩ := List.cons.inj hcs
        rw [if_pos (htaken c (.head _))]
        exact .inl (ih.2 ⟨taken, rest, rfl, fun c' hc' => htaken c' (.tail _ hc'), hf, hlongest⟩)

/-- A run that is followed by a certain character goes up to its last occurrence with which the search
goes on. -/
theorem findSome?_runs_before {sep : Char} (hsep : kind sep) {serves : List Char → List Char → β → Prop}
    (hf : ∀ taken rest b, f { taken, rest } = some b ↔
      ∃ behind, rest = sep :: behind ∧ serves taken behind b) {cs : List Char} {b : β} :
    (runs kind cs).findSome? f = some b ↔ ∃ taken behind, cs = taken ++ sep :: behind ∧
      (∀ c ∈ taken, kind c) ∧ serves taken behind b ∧
      ∀ more behind', behind = more ++ sep :: behind' → (∀ c ∈ more, kind c) →
        ∀ b', ¬serves (taken ++ sep :: more) behind' b' := by
  rw [findSome?_runs_eq_some_iff]
  constructor
  · rintro ⟨taken, rest, rfl, htaken, hb, hlongest⟩
    obtain ⟨behind, rfl, hserves⟩ := (hf _ _ _).1 hb
    refine ⟨taken, behind, rfl, htaken, hserves, ?_⟩
    rintro more behind' rfl hmore b' hserves'
    have hnone := hlongest sep more (sep :: behind') rfl (by simpa [hsep] using hmore)
    rw [(hf _ _ _).2 ⟨behind', rfl, hserves'⟩] at hnone
    cases hnone
  · rintro ⟨taken, behind, rfl, htaken, hserves, hlongest⟩
    refine ⟨taken, sep :: behind, rfl, htaken, (hf _ _ _).2 ⟨behind, rfl, hserves⟩, ?_⟩
    intro c more rest' hrest hmore
    rw [Option.eq_none_iff_forall_ne_some]
    intro b' hb'
    obtain ⟨behind', rfl, hserves'⟩ := (hf _ _ _).1 hb'
    obtain ⟨rfl, rfl⟩ := List.cons.inj hrest
    exact hlongest more behind' rfl (fun c' hc' => hmore c' (.tail _ hc')) b' hserves'

end

/-! ### The first way -/

section

variable {kind : Char → Bool} {p q : Pattern} {n : Nat} {cs : List Char}

theorem first_seq (p q : Pattern) (n : Nat) (cs : List Char) : (seq p q).first n cs =
    (p.ways n cs).findSome? fun u => (q.first (n + u.taken.length) u.rest).map u.then := by
  rw [first, ways, List.head?_flatMap]
  congr 1
  funext u
  exact List.head?_map

/-- What serves of a sequence is the first that serves behind the first part that anything serves
behind. -/
theorem findSome?_seq {β : Type} (f : Way → Option β) (p q : Pattern) (n : Nat) (cs : List Char) :
    ((seq p q).ways n cs).findSome? f = (p.ways n cs).findSome? fun u =>
      (q.ways (n + u.taken.length) u.rest).findSome? fun v => f (u.then v) := by
  rw [ways]
  induction p.ways n cs with
  | nil => rfl
  | cons u us ih =>
    rw [List.flatMap_cons, List.findSome?_append, ih, List.findSome?_map, List.findSome?_cons]
    change Option.or ((q.ways _ _).findSome? fun v => f (u.then v)) _ = _
    cases (q.ways (n + u.taken.length) u.rest).findSome? fun v => f (u.then v) <;> rfl

/-- What a group takes is told in front of what is told behind it. -/
theorem first_group_seq (p q : Pattern) (n : Nat) (cs : List Char) : (seq (group p) q).first n cs =
    (p.ways n cs).findSome? fun u =>
      (q.first (n + u.taken.length) u.rest).map (Way.then ⟨u.taken, u.taken :: u.groups, u.rest⟩) := by
  rw [first_seq, ways, List.findSome?_map]
  rfl

/-- A single character is taken in one way, if at all. -/
theorem findSome?_one_eq_some_iff {β : Type} {f : Way → Option β} {b : β} :
    ((one kind).ways n cs).findSome? f = some b ↔
      ∃ c rest, cs = c :: rest ∧ kind c ∧ f ⟨[c], [], rest⟩ = some b := by
  cases cs with
  | nil => simp [ways]
  | cons c cs =>
    have hways : (one kind).ways n (c :: cs) = if kind c then [⟨[c], [], cs⟩] else [] := rfl
    rw [hways]
    constructor
    · intro h
      split_ifs at h with hc
      · exact ⟨c, cs, rfl, hc, by simpa using h⟩
      · simp at h
    · rintro ⟨_, _, hcs, hc, h⟩
      obtain ⟨rfl, rfl⟩ := List.cons.inj hcs
      simpa [hc] using h

/-- What is met at the start only is looked for there only. -/
theorem search_start_seq (q : Pattern) (cs : List Char) :
    (seq start q).search cs = (q.first 0 cs).map (·.groups) := by
  have hlater (n : Nat) (cs : List Char) : (seq start q).searchFrom (n + 1) cs = none := by
    induction cs generalizing n with
    | nil => simp [searchFrom, ways]
    | cons c cs ih => simp [searchFrom, ways, ih]
  have hstart : ((seq start q).ways 0 cs).head? =
      (q.first 0 cs).map (Way.then ⟨[], [], cs⟩) := by
    change (seq start q).first 0 cs = _
    rw [first_seq]
    simp [ways]
  cases cs with
  | nil =>
    rw [search, searchFrom, hstart, Option.map_map]
    rfl
  | cons c cs =>
    rw [search, searchFrom, hstart, hlater]
    cases q.first 0 (c :: cs) <;> rfl

end

end Pattern

end VmMonitor
