import Mathlib.Data.List.Basic
import VmMonitor.Text.Align

/-!
# Cells in a line

Cells are padded to the widths of their columns and joined by blanks. Padding never cuts, so a cell is as
long as its column is wide, or longer. Where a cell stands is told by the lengths of the cells before it
and by nothing else of them. So two lines with cells of equal lengths differ, if they do at all, within
the cells that differ: nothing outside of them moves.

## What is proved

* `length_padLeft`, `length_padRight`, `length_leftmost`, `length_rightmost`: how long a cell is.
* `length_intercalate_blank`: how long a line is.
* `standsAt_intercalate_blank`: where a cell stands in it.
* `getElem?_intercalate_blank_eq`: what two lines with cells of equal lengths have in common.
-/

namespace VmMonitor

/-! ### One cell -/

section

variable (width n : Nat) (s t : String)

@[simp] theorem length_padLeft : (padLeft width s).length = max width s.length := by
  simp only [padLeft, String.length_ofList, List.length_append, List.length_replicate,
    String.length_toList]
  omega

@[simp] theorem length_padRight : (padRight width s).length = max width s.length := by
  simp only [padRight, String.length_ofList, List.length_append, List.length_replicate,
    String.length_toList]
  omega

@[simp] theorem length_leftmost : (leftmost n s).length = min n s.length := by
  simp [leftmost, String.length_toList]

@[simp] theorem length_rightmost : (rightmost n s).length = min n s.length := by
  simp only [rightmost, String.length_ofList, List.length_drop, String.length_toList]
  omega

theorem leftmost_of_le (h : s.length ≤ n) : leftmost n s = s := by
  rw [leftmost, List.take_of_length_le (by rwa [String.length_toList]), String.ofList_toList]

/-- A unit behind a padded number is a part of the cell. -/
theorem padLeft_append : padLeft width s ++ t = padLeft (width + t.length) (s ++ t) := by
  simp [padLeft, ← String.toList_inj, Nat.add_sub_add_right]

end

/-! ### Joined cells -/

/-- How many characters cells of these lengths take with a blank behind each of them. -/
def extent : List Nat → Nat
  | [] => 0
  | length :: lengths => length + 1 + extent lengths

section

variable {κ : Type} {f g : κ → Nat} {columns : List κ}

theorem extent_le_extent (h : ∀ c ∈ columns, f c ≤ g c) :
    extent (columns.map f) ≤ extent (columns.map g) := by
  induction columns with
  | nil => exact Nat.le_refl 0
  | cons c columns ih =>
    obtain ⟨hc, hcolumns⟩ := List.forall_mem_cons.1 h
    have hrest := ih hcolumns
    simp only [List.map_cons, extent]
    omega

/-- If no cell is shorter than another one, cells that take as many characters in all are as long one by
one. -/
theorem extent_eq_extent_iff (h : ∀ c ∈ columns, f c ≤ g c) :
    extent (columns.map f) = extent (columns.map g) ↔ ∀ c ∈ columns, f c = g c := by
  induction columns with
  | nil => simp
  | cons c columns ih =>
    obtain ⟨hc, hcolumns⟩ := List.forall_mem_cons.1 h
    have hle := extent_le_extent hcolumns
    simp only [List.map_cons, extent, List.forall_mem_cons, ← ih hcolumns]
    omega

end

/-- A line has a cell of `width` characters between blanks, and `start` characters before it. -/
def StandsAt (line : String) (start width : Nat) (cell : String) : Prop :=
  ∃ before after, line = before ++ " " ++ cell ++ " " ++ after ∧ before.length + 1 = start ∧
    cell.length = width

/-- A place of a line is in a cell. -/
def Covers (start width i : Nat) : Prop := start ≤ i ∧ i < start + width

theorem length_intercalate_blank {cells : List String} (h : cells ≠ []) :
    (" ".intercalate cells).length + 1 = extent (cells.map String.length) := by
  induction cells with
  | nil => exact absurd rfl h
  | cons cell cells ih =>
    cases cells with
    | nil => simp [extent]
    | cons next cells =>
      have hrest := ih (by simp)
      simp only [String.intercalate_cons_cons, String.length_append, List.map_cons, extent]
        at hrest ⊢
      rw [← hrest, show " ".length = 1 from rfl]
      omega

/-- A cell with others on both sides stands behind those before it. -/
theorem standsAt_intercalate_blank {before after : List String} (hbefore : before ≠ [])
    (hafter : after ≠ []) (cell : String) :
    StandsAt (" ".intercalate (before ++ cell :: after)) (extent (before.map String.length)) cell.length
      cell := by
  refine ⟨" ".intercalate before, " ".intercalate after, ?_, length_intercalate_blank hbefore, rfl⟩
  rw [String.intercalate_append_of_ne_nil hbefore (by simp), String.intercalate_cons_of_ne_nil hafter]
  simp only [String.append_assoc]

/-- The same character stands at a place of two texts that begin with cells of one length: in the cells, if
these are one and the same; behind them, if the rests have the same character there. -/
theorem getElem?_append_cons_eq {s t u v : List Char} (sep : Char) (hlen : s.length = t.length) {i : Nat}
    (hcell : i < s.length → s = t) (hrest : ∀ j, i = s.length + 1 + j → u[j]? = v[j]?) :
    (s ++ sep :: u)[i]? = (t ++ sep :: v)[i]? := by
  obtain hi | rfl | ⟨j, rfl⟩ : i < s.length ∨ i = s.length ∨ ∃ j, i = s.length + 1 + j := by
    by_cases hi : i ≤ s.length
    · omega
    · exact .inr (.inr ⟨i - (s.length + 1), by omega⟩)
  · obtain rfl := hcell hi
    rw [List.getElem?_append_left hi, List.getElem?_append_left hi]
  · rw [List.getElem?_append_right (Nat.le_refl _), List.getElem?_append_right (by omega), hlen]
    simp
  · have hj (w : List Char) : (sep :: w)[s.length + 1 + j - s.length]? = w[j]? := by
      rw [show s.length + 1 + j - s.length = j + 1 by omega, List.getElem?_cons_succ]
    rw [List.getElem?_append_right (by omega), List.getElem?_append_right (by omega), ← hlen, hj, hj]
    exact hrest j rfl

/-- **Lines in columns.** Two lines whose cells are equally long, column by column, have the same character
at every place that is not in a column in which their cells differ. -/
theorem getElem?_intercalate_blank_eq {κ : Type} {f g : κ → String} {columns : List κ}
    (hlen : ∀ c ∈ columns, (f c).length = (g c).length) {i : Nat}
    (hi : ∀ before c after, columns = before ++ c :: after → f c ≠ g c →
      ¬ Covers (extent (before.map fun d => (f d).length)) (f c).length i) :
    (" ".intercalate (columns.map f)).toList[i]? = (" ".intercalate (columns.map g)).toList[i]? := by
  induction columns generalizing i with
  | nil => rfl
  | cons c columns ih =>
    have hc : (f c).length = (g c).length := hlen c (.head _)
    have hcell : i < (f c).length → f c = g c := by
      intro hlt
      by_contra hne
      exact hi [] c columns rfl hne ⟨Nat.zero_le i, by simpa [extent] using hlt⟩
    cases columns with
    | nil =>
      by_cases hlt : i < (f c).length
      · simp [hcell hlt]
      · simp only [List.map_cons, List.map_nil, String.intercalate_singleton]
        rw [List.getElem?_eq_none (by rw [String.length_toList]; omega),
          List.getElem?_eq_none (by rw [String.length_toList]; omega)]
    | cons d columns =>
      simp only [List.map_cons, String.intercalate_cons_cons, String.toList_append,
        List.append_assoc] at ih ⊢
      refine getElem?_append_cons_eq ' ' (by simpa only [String.length_toList]) ?_ fun j hj => ?_
      · rw [String.length_toList]
        exact fun hlt => congrArg String.toList (hcell hlt)
      · rw [String.length_toList] at hj
        refine ih (fun e he => hlen e (.tail _ he)) fun before e after hsplit hne hcovers => ?_
        refine hi (c :: before) e after (by rw [hsplit, List.cons_append]) hne ?_
        simp only [Covers, List.map_cons, extent] at hcovers ⊢
        omega

end VmMonitor
