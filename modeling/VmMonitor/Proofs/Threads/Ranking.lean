import VmMonitor.Proofs.Threads

/-!
# The order of the busiest threads

The threads that two cycles know are sorted by the difference of their times, the largest first. The
sorting is stable and starts from a table, so threads that were equally busy come in the order of their
numbers, and the ranking is determined: its members, their order and where it is cut.

What two cycles are compared is a matter of the tracker. It retains every complete reading as it is,
also the threads that the limit has left out, so each call is compared with the one just before it.

## What is proved

* `filter_mergeSort`, `pairwise_mergeSort_of_pairwise` — a stable sorting leaves members that may stand
  in either order as they were.
* `ranks_rankThreads` — the ranking of two cycles.
* `ThreadTracker.getElem?_rankAll` — **the run**: which two cycles each call compares.
* `ThreadTracker.thread_ranking` — both together.
-/

namespace VmMonitor

/-! ### Stable sorting -/

section

variable {α : Type} (le : α → α → Bool)

/-- Members that may stand in either order stay in the order in which they were. -/
theorem filter_mergeSort (htrans : ∀ a b c, le a b → le b c → le a c)
    (htotal : ∀ a b, le a b || le b a) {p : α → Bool} (hp : ∀ a b, p a → p b → le a b) (l : List α) :
    (l.mergeSort le).filter p = l.filter p := by
  have hsorted : (l.filter p).Pairwise fun a b => le a b := by
    refine List.pairwise_of_forall_mem_list fun a ha b hb => ?_
    exact hp a b (List.mem_filter.1 ha).2 (List.mem_filter.1 hb).2
  have hkept : (l.filter p).Sublist (l.mergeSort le) :=
    List.sublist_mergeSort htrans htotal hsorted List.filter_sublist
  have hsub := hkept.filter p
  rw [List.filter_filter, funext fun a => Bool.and_self (p a)] at hsub
  exact (hsub.eq_of_length ((List.mergeSort_perm l le).filter p).length_eq.symm).symm

/-- What held of every two members in their order holds of those that the sorting leaves open. -/
theorem pairwise_mergeSort_of_pairwise (htrans : ∀ a b c, le a b → le b c → le a c)
    (htotal : ∀ a b, le a b || le b a) {R : α → α → Prop} {l : List α} (h : l.Pairwise R) :
    (l.mergeSort le).Pairwise fun a b => le a b ∧ (le b a → R a b) := by
  rw [List.pairwise_iff_forall_sublist]
  intro a b hab
  have hle : le a b := List.pairwise_iff_forall_sublist.1 (List.pairwise_mergeSort htrans htotal l) hab
  refine ⟨hle, fun hge => ?_⟩
  -- Both belong to the members that may stand on either side of `a`.
  let p (x : α) : Bool := le a x && le x a
  have hself : le a a := by simpa using htotal a a
  have hclass : ∀ x y, p x → p y → le x y := by
    intro x y hx hy
    simp only [p, Bool.and_eq_true] at hx hy
    exact htrans x a y hx.2 hy.1
  have hsub := hab.filter p
  rw [filter_mergeSort le htrans htotal hclass] at hsub
  have hpair : [a, b].filter p = [a, b] := by simp [p, hself, hle, hge]
  rw [hpair] at hsub
  exact List.pairwise_iff_forall_sublist.1 h (hsub.trans List.filter_sublist)

end

/-! ### The ranking of two cycles -/

/-- The busier thread first; of two that were equally busy, the one with the smaller number. -/
def BusierFirst (a b : Int × Int) : Prop := b.2 < a.2 ∨ b.2 = a.2 ∧ a.1 < b.1

/-- All threads that both cycles know, with the difference of their times in 64 bits, in their order. -/
structure Compares (previous current : ThreadTimes) (ranked : List (Int × Int)) : Prop where
  mem_iff : ∀ tid delta, (tid, delta) ∈ ranked ↔ ∃ before now,
    Table.get? tid previous = some before ∧ Table.get? tid current = some now ∧
      delta = Counter.sub now before
  ordered : ranked.Pairwise BusierFirst

/-- A ranking has the first ones of all compared threads, up to the limit. -/
structure ThreadRanking.Ranks (previous current : ThreadTimes) (limit : Option Nat)
    (r : ThreadRanking) : Prop where
  exists_compares : ∃ ranked, Compares previous current ranked ∧
    r.entries = ranked.take (limit.getD ranked.length)
  /-- No thread occurs twice. -/
  nodup : (r.entries.map Prod.fst).Nodup
  /-- A thread that is left out was not busier than any that is kept. -/
  le_of_left_out : ∀ tid before now, Table.get? tid previous = some before →
    Table.get? tid current = some now → tid ∉ r.entries.map Prod.fst →
    ∀ e ∈ r.entries, Counter.sub now before ≤ e.2
  truncated_iff : r.truncated ↔ ∃ n, limit = some n ∧ n ≤ current.length

namespace Compares

variable {previous current : ThreadTimes} {ranked : List (Int × Int)}

/-- A thread has one difference. -/
theorem nodup (h : Compares previous current ranked) : (ranked.map Prod.fst).Nodup := by
  have hne : ∀ {a b}, [a, b].Sublist ranked → a.1 ≠ b.1 := by
    rintro ⟨tid, delta⟩ ⟨tid', delta'⟩ hab rfl
    obtain ⟨before, now, hbefore, hnow, rfl⟩ := (h.mem_iff tid delta).1 (hab.subset (.head _))
    obtain ⟨before', now', hbefore', hnow', rfl⟩ :=
      (h.mem_iff tid delta').1 (hab.subset (.tail _ (.head _)))
    obtain rfl := Option.some.inj (hbefore.symm.trans hbefore')
    obtain rfl := Option.some.inj (hnow.symm.trans hnow')
    rcases List.pairwise_iff_forall_sublist.1 h.ordered hab with hlt | ⟨-, hlt⟩
    · exact absurd hlt (Int.lt_irrefl _)
    · exact absurd hlt (Int.lt_irrefl _)
  exact List.pairwise_map.2 (List.pairwise_iff_forall_sublist.2 hne)

/-- Whatever comes after the first `n` threads was not busier than they were. -/
theorem le_of_not_mem_take (h : Compares previous current ranked) {n : Nat} {e x : Int × Int}
    (he : e ∈ ranked.take n) (hx : x ∈ ranked) (hout : x ∉ ranked.take n) : x.2 ≤ e.2 := by
  have hordered := h.ordered
  rw [← List.take_append_drop n ranked] at hordered hx
  have hdrop : x ∈ ranked.drop n := (List.mem_append.1 hx).resolve_left hout
  rcases (List.pairwise_append.1 hordered).2.2 e he x hdrop with hlt | ⟨heq, -⟩
  · exact Int.le_of_lt hlt
  · exact Int.le_of_eq heq

end Compares

/-- The differences of the times in a table, sorted, are the ranked threads. -/
theorem compares_mergeSort (previous : ThreadTimes) {current : ThreadTimes}
    (hcurrent : (Table.keys current).Pairwise (· < ·)) :
    Compares previous current ((current.filterMap fun x =>
      (Table.get? x.1 previous).map fun before => (x.1, Counter.sub x.2 before)).mergeSort
        fun a b => b.2 ≤ a.2) := by
  constructor
  · intro tid delta
    simp only [List.mem_mergeSort, List.mem_filterMap, Option.map_eq_some_iff, Prod.mk.injEq,
      Table.get?_eq_some_iff_of_pairwise hcurrent]
    constructor
    · rintro ⟨⟨tid, now⟩, hnow, before, hbefore, rfl, rfl⟩
      exact ⟨before, now, hbefore, hnow, rfl⟩
    · rintro ⟨before, now, hbefore, hnow, rfl⟩
      exact ⟨(tid, now), hnow, before, hbefore, rfl, rfl⟩
  · have htids : (current.filterMap fun x =>
        (Table.get? x.1 previous).map fun before => (x.1, Counter.sub x.2 before)).Pairwise
          fun a b => a.1 < b.1 := by
      refine List.Pairwise.filterMap _ ?_ (List.pairwise_map.1 hcurrent)
      rintro ⟨tid, now⟩ ⟨tid', now'⟩ hlt _ hd _ hd'
      obtain ⟨_, -, rfl⟩ := Option.map_eq_some_iff.1 hd
      obtain ⟨_, -, rfl⟩ := Option.map_eq_some_iff.1 hd'
      exact hlt
    have hstable := pairwise_mergeSort_of_pairwise (fun a b : Int × Int => b.2 ≤ a.2)
      (by simp only [decide_eq_true_eq]; omega)
      (by simp only [Bool.or_eq_true, decide_eq_true_eq]; omega) htids
    refine hstable.imp fun {a b} hab => ?_
    obtain ⟨hle, hback⟩ := hab
    simp only [decide_eq_true_eq] at hle hback
    rcases Int.lt_or_eq_of_le hle with hlt | heq
    · exact .inl hlt
    · exact .inr ⟨heq, hback (Int.le_of_eq heq.symm)⟩

/-- **The ranking of two cycles**, of which the current one is a table. -/
theorem ranks_rankThreads (previous : ThreadTimes) {current : ThreadTimes} (limit : Option Nat)
    (hcurrent : (Table.keys current).Pairwise (· < ·)) :
    (rankThreads previous current limit).Ranks previous current limit := by
  have hcompares := compares_mergeSort previous hcurrent
  generalize hranked : List.mergeSort _ _ = ranked at hcompares
  have hentries : (rankThreads previous current limit).entries =
      ranked.take (limit.getD ranked.length) := by
    cases limit with
    | none => simp [rankThreads, hranked]
    | some n => simp [rankThreads, hranked]
  refine ⟨⟨ranked, hcompares, hentries⟩, ?_, ?_, ?_⟩
  · rw [hentries]
    exact hcompares.nodup.sublist ((List.take_sublist _ _).map _)
  · intro tid before now hbefore hnow hout e he
    rw [hentries] at hout he
    have hx := (hcompares.mem_iff tid (Counter.sub now before)).2 ⟨before, now, hbefore, hnow, rfl⟩
    exact hcompares.le_of_not_mem_take he hx fun hkept => hout (List.mem_map_of_mem hkept)
  · cases limit with
    | none => simp [rankThreads]
    | some n => simp [rankThreads]

/-! ### Call after call -/

namespace ThreadTracker

/-- The rankings of some calls, one after the other, and the tracker that they leave. -/
def rankAll : List (ThreadTimes × Option Nat) → ThreadTracker → List ThreadRanking × ThreadTracker
  | [], tr => ([], tr)
  | (current, limit) :: calls, tr =>
    let (ranking, tr) := tr.rank current limit
    let (rankings, tr) := rankAll calls tr
    (ranking :: rankings, tr)

/-- **The run**: a call compares its times with all those of the call before it, the first one with the
retained times. -/
theorem getElem?_rankAll (tr : ThreadTracker) (earlier later : List (ThreadTimes × Option Nat))
    (current : ThreadTimes) (limit : Option Nat) :
    (rankAll (earlier ++ (current, limit) :: later) tr).1[earlier.length]? =
      some (rankThreads ((earlier.map Prod.fst).getLast?.getD tr.retained) current limit) := by
  induction earlier generalizing tr with
  | nil => rfl
  | cons call earlier ih =>
    have hlast : ((call :: earlier).map Prod.fst).getLast?.getD tr.retained =
        (earlier.map Prod.fst).getLast?.getD call.1 := by
      rw [List.map_cons, List.getLast?_cons, Option.getD_some]
    rw [hlast]
    exact ih ⟨call.1⟩

/-- **Thread ranking.** The ranking of two cycles has the first ones, up to the limit, of all threads
that both know, with the difference of their times in 64 bits; the largest come first, and equal ones by
the numbers of their threads. So no thread occurs twice, one that is left out was not busier than any
that is kept, and the ranking counts as truncated just if there is a limit and the current cycle has at
least that many threads. In any run of calls, each one ranks against the complete times of the call
before it, whatever the limits are. -/
theorem thread_ranking :
    (∀ (previous current : ThreadTimes) (limit : Option Nat),
      (Table.keys current).Pairwise (· < ·) →
      (rankThreads previous current limit).Ranks previous current limit) ∧
    ∀ (tr : ThreadTracker) (earlier later : List (ThreadTimes × Option Nat)) (current : ThreadTimes)
      (limit : Option Nat),
      (rankAll (earlier ++ (current, limit) :: later) tr).1[earlier.length]? =
        some (rankThreads ((earlier.map Prod.fst).getLast?.getD tr.retained) current limit) := by
  constructor
  · intro previous current limit hcurrent
    exact ranks_rankThreads previous limit hcurrent
  · intro tr earlier later current limit
    exact getElem?_rankAll tr earlier later current limit

/-- Two of three compared threads were equally busy, a fourth one is new, and the limit is two. -/
theorem thread_ranking_of_tied :
    let previous : ThreadTimes := [(1, 100), (2, 200), (4, 50)]
    let current : ThreadTimes := [(1, 150), (2, 205), (3, 10), (4, 100)]
    (Table.keys current).Pairwise (· < ·) ∧
      (rankThreads previous current (some 2)).Ranks previous current (some 2) ∧
      rankThreads previous current (some 2) = ⟨[(1, 50), (4, 50)], true⟩ := by
  intro previous current
  have hcurrent : (Table.keys current).Pairwise (· < ·) := by decide
  have hfirst : Counter.sub 150 100 = 50 := rfl
  have hsecond : Counter.sub 205 200 = 5 := rfl
  have hfourth : Counter.sub 100 50 = 50 := rfl
  refine ⟨hcurrent, thread_ranking.1 previous current (some 2) hcurrent, ?_⟩
  simp [previous, current, rankThreads, Table.get?, List.mergeSort,
    List.MergeSort.Internal.splitInTwo, hfirst, hsecond, hfourth]

end ThreadTracker

end VmMonitor
