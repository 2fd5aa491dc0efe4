import VmMonitor.Order
import VmMonitor.Proofs.Number.TotalOrder
import VmMonitor.Proofs.Threads.Ranking

/-!
# The order of instances

Instances are sorted by a key, the heap that they use or the pattern of their CPU load. What makes the
result predictable is that the keys are ordered in a line and that the sorting is stable: all that it
leaves open is told by the list that it started from. So there is one result, sorting again changes
nothing, and an order that is applied after another one keeps it where its own keys are equal.

## What is proved

* `SortOrder.before_iff`, `SortOrder.ties_iff` — what the comparison of an order means.
* `SortOrder.sorts_sort` — the sorted list has all items, in order, and stably.
* `SortOrder.Sorts.unique` — there is no other such list.
* `SortOrder.instance_ordering` — **both orders**, with what follows for sorting twice.
-/

namespace VmMonitor.SortOrder

/-- Metrics that may stand in front of others: with at least their CPU load, or at most their heap. -/
def Before (order : SortOrder) (a b : Metrics) : Prop :=
  match order with
  | cpu => Binary64.TotalLE b.cpuLoad a.cpuLoad
  | heap => a.heap.used ≤ b.heap.used

/-- Metrics with equal keys. -/
def Ties (order : SortOrder) (a b : Metrics) : Prop :=
  match order with
  | cpu => a.cpuLoad = b.cpuLoad
  | heap => a.heap.used = b.heap.used

instance (order : SortOrder) (a b : Metrics) : Decidable (order.Ties a b) :=
  match order with
  | cpu => inferInstanceAs (Decidable (a.cpuLoad = b.cpuLoad))
  | heap => inferInstanceAs (Decidable (a.heap.used = b.heap.used))

/-- A list as it is to be shown: all items and no others, in order, and those with equal keys as they
were. -/
structure Sorts {α : Type} (order : SortOrder) (metrics : α → Metrics) (items sorted : List α) : Prop where
  perm : sorted.Perm items
  ordered : sorted.Pairwise fun a b => order.Before (metrics a) (metrics b)
  stable : ∀ m, (sorted.filter fun a => order.Ties m (metrics a)) =
    items.filter fun a => order.Ties m (metrics a)

variable (order : SortOrder)

/-! ### Comparing -/

theorem before_iff {a b : Metrics} : order.before a b ↔ order.Before a b := by
  cases order with
  | cpu => simp [before, Before, Binary64.orderKey_le_iff]
  | heap => simp [before, Before]

theorem ties_iff {a b : Metrics} : order.Ties a b ↔ order.Before a b ∧ order.Before b a := by
  cases order with
  | cpu =>
    simp only [Ties, Before, ← Binary64.orderKey_le_iff, ← Binary64.orderKey_inj]
    omega
  | heap =>
    simp only [Ties, Before]
    omega

theorem before_total (a b : Metrics) : order.before a b || order.before b a := by
  cases order <;> simp only [before, Bool.or_eq_true, decide_eq_true_eq] <;> omega

theorem before_trans (a b c : Metrics) : order.before a b → order.before b c → order.before a c := by
  cases order <;> simp only [before, decide_eq_true_eq] <;> omega

theorem Ties.symm {a b : Metrics} (h : order.Ties a b) : order.Ties b a := by
  rw [ties_iff] at h ⊢
  exact ⟨h.2, h.1⟩

theorem Ties.trans {a b c : Metrics} (h : order.Ties a b) (h' : order.Ties b c) : order.Ties a c := by
  cases order <;> exact Eq.trans h h'

/-! ### Sorting -/

section

variable {α : Type} (metrics : α → Metrics)

/-- What held of every two items in their order still holds of those with equal keys. -/
theorem pairwise_sort {R : α → α → Prop} {items : List α} (h : items.Pairwise R) :
    (order.sort metrics items).Pairwise fun a b =>
      order.Before (metrics a) (metrics b) ∧ (order.Ties (metrics a) (metrics b) → R a b) := by
  have hsort := pairwise_mergeSort_of_pairwise (fun a b => order.before (metrics a) (metrics b))
    (fun a b c => order.before_trans _ _ _) (fun a b => order.before_total _ _) h
  refine hsort.imp fun {a b} hab => ?_
  rw [before_iff, before_iff] at hab
  exact ⟨hab.1, fun hties => hab.2 (order.ties_iff.1 hties).2⟩

/-- The sorted list is as it is to be shown. -/
theorem sorts_sort (items : List α) : order.Sorts metrics items (order.sort metrics items) where
  perm := List.mergeSort_perm _ _
  ordered := (order.pairwise_sort metrics (List.pairwise_of_forall fun _ _ => trivial)).imp And.left
  stable m := by
    refine filter_mergeSort (fun a b => order.before (metrics a) (metrics b))
      (fun a b c => order.before_trans _ _ _) (fun a b => order.before_total _ _) (fun a b ha hb => ?_) items
    simp only [decide_eq_true_eq] at ha hb
    exact order.before_iff.2 (order.ties_iff.1 ((Ties.symm order ha).trans order hb)).1

variable {order metrics}

namespace Sorts

/-- Two lists of the same items in order are one list if they agree on the items of every key. -/
theorem eq_of_filter {sorted sorted' : List α} (hperm : sorted.Perm sorted')
    (h : sorted.Pairwise fun a b => order.Before (metrics a) (metrics b))
    (h' : sorted'.Pairwise fun a b => order.Before (metrics a) (metrics b))
    (hkeys : ∀ m, (sorted.filter fun a => order.Ties m (metrics a)) =
      sorted'.filter fun a => order.Ties m (metrics a)) : sorted = sorted' := by
  induction sorted generalizing sorted' with
  | nil => exact hperm.nil_eq
  | cons a sorted ih =>
    cases sorted' with
    | nil => exact hperm.eq_nil
    | cons b sorted' =>
      obtain ⟨ha, hrest⟩ := List.pairwise_cons.1 h
      obtain ⟨hb, hrest'⟩ := List.pairwise_cons.1 h'
      have hself : order.Ties (metrics a) (metrics a) := by cases order <;> rfl
      -- Each of the two heads may stand in front of the other, so they have one key.
      have hties : order.Ties (metrics a) (metrics b) := by
        rcases List.mem_cons.1 (hperm.subset (.head _)) with rfl | hmem
        · exact hself
        rcases List.mem_cons.1 (hperm.symm.subset (.head _)) with rfl | hmem'
        · exact hself
        exact order.ties_iff.2 ⟨ha b hmem', hb a hmem⟩
      have hheads := hkeys (metrics a)
      simp only [List.filter_cons, hself, hties, decide_true, if_true] at hheads
      obtain rfl := (List.cons.inj hheads).1
      rw [ih ((List.perm_cons a).1 hperm) hrest hrest' fun m => ?_]
      have hm := hkeys m
      simp only [List.filter_cons] at hm
      split at hm
      · exact (List.cons.inj hm).2
      · exact hm

/-- There is one list as it is to be shown. -/
theorem unique {items sorted sorted' : List α} (h : order.Sorts metrics items sorted)
    (h' : order.Sorts metrics items sorted') : sorted = sorted' :=
  eq_of_filter (h.perm.trans h'.perm.symm) h.ordered h'.ordered fun m =>
    (h.stable m).trans (h'.stable m).symm

/-- Sorting in the same order again changes nothing. -/
theorem again {items sorted : List α} (h : order.Sorts metrics items sorted) :
    order.Sorts metrics sorted sorted := ⟨.refl _, h.ordered, fun _ => rfl⟩

end Sorts

/-- **The order of instances.** Either order gives all items and no others, and the only list of them in
which the CPU load never grows in the total order of its patterns, or the heap that is used never
shrinks, and items with equal keys are in the order in which they were. So sorting the result again
changes nothing, and sorting by one order and then by another one leaves those that tie for the second
in the order of the first. -/
theorem instance_ordering {α : Type} (metrics : α → Metrics) :
    (∀ (order : SortOrder) (items sorted : List α),
      order.Sorts metrics items sorted ↔ sorted = order.sort metrics items) ∧
    (∀ (order : SortOrder) (items : List α),
      order.sort metrics (order.sort metrics items) = order.sort metrics items) ∧
    ∀ (first second : SortOrder) (items : List α),
      (second.sort metrics (first.sort metrics items)).Pairwise fun a b =>
        second.Before (metrics a) (metrics b) ∧
          (second.Ties (metrics a) (metrics b) → first.Before (metrics a) (metrics b)) := by
  refine ⟨fun order items sorted => ?_, fun order items => ?_, fun first second items => ?_⟩
  · have hsort := order.sorts_sort metrics items
    exact ⟨fun h => h.unique hsort, fun h => h ▸ hsort⟩
  · have hsort := order.sorts_sort metrics items
    exact (order.sorts_sort metrics _).unique hsort.again
  · exact second.pairwise_sort metrics (first.sorts_sort metrics items).ordered

end

end VmMonitor.SortOrder
