import VmMonitor.Console.Overview
import VmMonitor.Proofs.Text.Columns

/-!
# The columns of the overview

The line of an instance has twelve columns. Eight of them are numbers, which are padded and never cut, so
a number with more digits than its column has room for makes the line longer and moves what is on its
right. Three are texts that the instance chose itself. They are cut and padded, and whatever they are, of
any length and in any script, they fill their columns exactly and move nothing.

## What is proved

* `Overview.line_eq` — the columns of a line, and what is in each of them.
* `Overview.ruled_line` — where the texts stand, how wide they are, and how long the line is.
* `Overview.texts_move_nothing` — **two lines** whose rows differ only in their texts.
-/

namespace VmMonitor

/-! ### Cells -/

theorem length_entryPointOf_le (width : Nat) (s : String) : (entryPointOf width s).length ≤ width := by
  rw [entryPointOf, length_rightmost]
  exact Nat.min_le_left _ _

theorem Cell.left_of_le {width : Nat} {s : String} (h : s.length ≤ width) :
    Cell.left width s = padRight width s := by
  rw [Cell.left, leftmost_of_le _ _ h]

/-- A load in percent, as long as it is. -/
def Cell.percentage (load : Binary64) : String :=
  (Binary64.ofFloat (load.toFloat * 100.0)).fixed 2 ++ "%"

theorem Cell.load_eq (x : Binary64) : Cell.load x = padLeft 6 (percentage x) :=
  padLeft_append 5 _ "%"

theorem Cell.deadlock_eq (found : Bool) : Cell.deadlock found = if found then "!D" else "  " := by
  cases found <;> decide

namespace Overview

/-- The columns from left to right. -/
inductive Column
  | pid
  | mainClass
  | heapUsed
  | heapMax
  | nonHeapUsed
  | nonHeapMax
  | cpuLoad
  | gcLoad
  | version
  | user
  | threads
  | deadlocks
  deriving DecidableEq

namespace Column

def all : List Column :=
  [pid, mainClass, heapUsed, heapMax, nonHeapUsed, nonHeapMax, cpuLoad, gcLoad, version, user, threads,
    deadlocks]

/-- How many characters a column has room for. -/
def width : Column → Nat
  | pid | heapUsed | heapMax | nonHeapUsed | nonHeapMax | version => 5
  | cpuLoad | gcLoad => 6
  | mainClass => 15
  | user => 8
  | threads => 4
  | deadlocks => 2

variable (row : InstanceRow)

/-- The number in a column of numbers, as long as it is. -/
def number? : Column → Option String
  | pid => some (toString row.id)
  | heapUsed => some (Cell.megabytes row.metrics.heap.used)
  | heapMax => some (Cell.megabytes row.metrics.heap.max)
  | nonHeapUsed => some (Cell.megabytes row.metrics.nonHeap.used)
  | nonHeapMax => some (Cell.megabytes row.metrics.nonHeap.max)
  | cpuLoad => some (Cell.percentage row.metrics.cpuLoad)
  | gcLoad => some (Cell.percentage row.metrics.gcLoad)
  | threads => some (toString row.metrics.threadCount)
  | mainClass | version | user | deadlocks => none

/-- What a column shows of an instance. -/
def shown : Column → String
  | mainClass => padRight 15 (entryPointOf 15 row.displayName)
  | version => padRight 5 (leftmost 5 (row.vmVersion.getD ""))
  | user => padLeft 8 (leftmost 8 (row.osUser.getD ""))
  | deadlocks => if row.metrics.deadlocks then "!D" else "  "
  | c => padLeft c.width ((c.number? row).getD "")

/-- How many characters a column takes in the line of an instance: those that it has room for, or those
of its number if these are more. -/
def taken (c : Column) : Nat := max c.width ((c.number? row).getD "").length

/-- The columns on the left of a column. -/
def before (c : Column) : List Column := all.takeWhile (· ≠ c)

/-- How many characters of the line of an instance come before a column. -/
def start (c : Column) : Nat := extent (c.before.map (taken row))

end Column

open Column

/-- Rows that differ in nothing but their texts. -/
structure SameReadings (a b : InstanceRow) : Prop where
  id : a.id = b.id
  state : a.state = b.state
  metrics : a.metrics = b.metrics

/-- The line of an instance: its texts stand between blanks and fill their columns, and it is as long as
the header, or longer if some number has more characters than its column has room for. -/
structure Ruled (row : InstanceRow) (line : String) : Prop where
  mainClass : StandsAt line (mainClass.start row) 15 (padRight 15 (entryPointOf 15 row.displayName))
  version : StandsAt line (version.start row) 5 (padRight 5 (leftmost 5 (row.vmVersion.getD "")))
  user : StandsAt line (user.start row) 8 (padLeft 8 (leftmost 8 (row.osUser.getD "")))
  header_le : header.length ≤ line.length
  length_eq_iff : line.length = header.length ↔
    ∀ (c : Column) text, c.number? row = some text → text.length ≤ c.width

variable {row a b : InstanceRow}

/-! ### Columns -/

theorem Column.taken_of_none {c : Column} (h : c.number? row = none) : c.taken row = c.width := by
  rw [taken, h, Option.getD_none, String.length_empty, Nat.max_eq_left (Nat.zero_le _)]

/-- No cell is shorter or longer than what its column takes. -/
theorem Column.length_shown (row : InstanceRow) (c : Column) : (c.shown row).length = c.taken row := by
  cases c with
  | mainClass =>
    rw [taken_of_none rfl, shown, length_padRight]
    exact Nat.max_eq_left (length_entryPointOf_le 15 row.displayName)
  | version =>
    rw [taken_of_none rfl, shown, length_padRight, length_leftmost]
    exact Nat.max_eq_left (Nat.min_le_left _ _)
  | user =>
    rw [taken_of_none rfl, shown, length_padLeft, length_leftmost]
    exact Nat.max_eq_left (Nat.min_le_left _ _)
  | deadlocks =>
    rw [taken_of_none rfl]
    cases h : row.metrics.deadlocks <;> rw [shown, h] <;> rfl
  | _ => simp [shown, taken]

theorem Column.width_le_taken (row : InstanceRow) (c : Column) : c.width ≤ c.taken row :=
  Nat.le_max_left _ _

theorem Column.taken_eq_width_iff {c : Column} :
    c.taken row = c.width ↔ ∀ text, c.number? row = some text → text.length ≤ c.width := by
  cases h : c.number? row with
  | none => simp [taken_of_none h]
  | some text =>
    simp only [taken, h, Option.getD_some, Option.some.injEq, forall_eq']
    omega

theorem Column.mem_all (c : Column) : c ∈ all := by
  cases c <;> decide

theorem Column.before_eq {before after : List Column} {c : Column} (h : all = before ++ c :: after) :
    c.before = before := by
  have hnodup : (before ++ c :: after).Nodup := h ▸ (by decide : all.Nodup)
  have hfree : ∀ d ∈ before, decide (d ≠ c) = true := fun d hd =>
    decide_eq_true ((List.nodup_append.1 hnodup).2.2 d hd c (.head _))
  rw [Column.before, h, List.takeWhile_append_of_pos hfree, List.takeWhile_cons_of_neg (by simp),
    List.append_nil]

/-! ### The line of an instance -/

theorem cells_eq (row : InstanceRow) : cells row = all.map (shown row) := by
  simp only [cells, Cell.deadlock_eq, Cell.load_eq, mainClassWidth,
    Cell.left_of_le (length_entryPointOf_le 15 row.displayName)]
  rfl

/-- The cells of a line are those of its columns. -/
theorem line_eq (h : row.state = .attached) : line row = " ".intercalate (all.map (shown row)) := by
  rw [line, h, SessionState.marker?, cells_eq]

theorem length_header : header.length + 1 = extent (all.map width) := by decide +kernel

/-- Where cells stand is told by what their columns take. -/
theorem extent_shown (row : InstanceRow) (columns : List Column) :
    extent (columns.map fun c => (c.shown row).length) = extent (columns.map (taken row)) :=
  congrArg extent (List.map_congr_left fun c _ => c.length_shown row)

theorem length_line (h : row.state = .attached) : (line row).length + 1 = extent (all.map (taken row)) := by
  rw [line_eq h, length_intercalate_blank (by simp [all]), List.map_map]
  exact extent_shown row all

theorem extent_before {before after : List Column} {c : Column} (h : all = before ++ c :: after) :
    extent (before.map fun d => (d.shown row).length) = c.start row := by
  rw [start, before_eq h, extent_shown]

/-- Every column but the first and the last one is between blanks. -/
theorem standsAt_line (h : row.state = .attached) {c : Column} (hfirst : c ≠ pid) (hlast : c ≠ deadlocks) :
    StandsAt (line row) (c.start row) (c.taken row) (c.shown row) := by
  obtain ⟨before, after, hsplit⟩ := List.append_of_mem c.mem_all
  have hbefore : before.map (shown row) ≠ [] := by
    rw [Ne, List.map_eq_nil_iff]
    rintro rfl
    exact hfirst (List.cons.inj hsplit).1.symm
  have hafter : after.map (shown row) ≠ [] := by
    rw [Ne, List.map_eq_nil_iff]
    rintro rfl
    exact hlast (by simpa [all] using (congrArg List.getLast? hsplit).symm)
  have hstands := standsAt_intercalate_blank hbefore hafter (c.shown row)
  rw [line_eq h, hsplit, List.map_append, List.map_cons, ← extent_before hsplit, ← c.length_shown row]
  rwa [List.map_map] at hstands

theorem header_le_line (h : row.state = .attached) : header.length ≤ (line row).length := by
  have hle : extent (all.map width) ≤ extent (all.map (taken row)) :=
    extent_le_extent fun c _ => c.width_le_taken row
  rw [← length_header, ← length_line h] at hle
  exact Nat.le_of_succ_le_succ hle

theorem length_line_eq_iff (h : row.state = .attached) :
    (line row).length = header.length ↔ ∀ c : Column, c.taken row = c.width := by
  have hiff : extent (all.map width) = extent (all.map (taken row)) ↔ _ :=
    extent_eq_extent_iff fun c _ => c.width_le_taken row
  rw [← length_header, ← length_line h, Nat.add_right_cancel_iff] at hiff
  rw [eq_comm, hiff]
  exact ⟨fun heq c => (heq c c.mem_all).symm, fun heq c _ => (heq c).symm⟩

/-- **The line of an instance** is ruled, whatever its texts and numbers are. -/
theorem ruled_line (h : row.state = .attached) : Ruled row (line row) where
  mainClass := standsAt_line h (c := .mainClass) (by decide) (by decide)
  version := standsAt_line h (c := .version) (by decide) (by decide)
  user := standsAt_line h (c := .user) (by decide) (by decide)
  header_le := header_le_line h
  length_eq_iff := (length_line_eq_iff h).trans (forall_congr' fun _ => taken_eq_width_iff)

/-! ### Two lines -/

namespace SameReadings

theorem number?_eq (h : SameReadings a b) (c : Column) : c.number? a = c.number? b := by
  cases c <;> simp [number?, h.id, h.metrics]

theorem taken_eq (h : SameReadings a b) (c : Column) : c.taken a = c.taken b := by
  rw [taken, taken, h.number?_eq]

theorem start_eq (h : SameReadings a b) (c : Column) : c.start a = c.start b := by
  rw [start, start, funext h.taken_eq]

/-- What is not a text is the same in both lines. -/
theorem shown_eq (h : SameReadings a b) {c : Column} (hmain : c ≠ mainClass) (hversion : c ≠ version)
    (huser : c ≠ user) : c.shown a = c.shown b := by
  cases c with
  | mainClass => exact absurd rfl hmain
  | version => exact absurd rfl hversion
  | user => exact absurd rfl huser
  | deadlocks => simp [shown, h.metrics]
  | _ => simp only [shown, h.number?_eq]

end SameReadings

/-- **Texts move nothing.** Take two instances that are attached and well, with the same numbers and with
any texts: a command line, a version and a user of any length, in any script, or missing. Their lines are
equally long, every column begins at one place in both, and the main class, the version and the user fill
15, 5 and 8 characters there. At all other places the lines have the same characters. Neither of them is
shorter than the header, and they are as long as it just if every number fits in its column. -/
theorem texts_move_nothing (ha : a.state = .attached) (h : SameReadings a b) :
    Ruled a (line a) ∧ Ruled b (line b) ∧ (line a).length = (line b).length ∧
      (∀ c : Column, c.start a = c.start b) ∧
      ∀ i, ¬ Covers (mainClass.start a) 15 i → ¬ Covers (version.start a) 5 i →
        ¬ Covers (user.start a) 8 i → (line a).toList[i]? = (line b).toList[i]? := by
  have hb : b.state = .attached := h.state ▸ ha
  refine ⟨ruled_line ha, ruled_line hb, ?_, h.start_eq, fun i hmain hversion huser => ?_⟩
  · have hlen := length_line ha
    rw [funext h.taken_eq, ← length_line hb] at hlen
    exact Nat.succ.inj hlen
  · rw [line_eq ha, line_eq hb]
    refine getElem?_intercalate_blank_eq (fun c _ => ?_) fun before c after hsplit hne hcovers => ?_
    · rw [length_shown, length_shown, h.taken_eq]
    · rw [extent_before hsplit, length_shown] at hcovers
      refine hne (h.shown_eq ?_ ?_ ?_) <;> rintro rfl
      · exact hmain hcovers
      · exact hversion hcovers
      · exact huser hcovers

/-- The texts of an instance whose identity has two digits more than its column has room for. -/
theorem texts_move_nothing_of_long_pid :
    let a : InstanceRow := {
      id := 4194304
      displayName := "org.example.very.long.MainClass --flag"
      state := .attached
      metrics := { Metrics.initial with heap := { used := 67108864, max := -1 }, deadlocks := true }
      vmVersion := some "O8U292"
      osUser := none }
    let b : InstanceRow := { a with displayName := "Größe", vmVersion := none, osUser := some "größter-nutzer" }
    line a = "4194304 .long.MainClass   64m   n/a    0m    0m  0.00%  0.00% O8U29             0 !D" ∧
      line b = "4194304 Größe             64m   n/a    0m    0m  0.00%  0.00%       größter-    0 !D" ∧
      a.state = .attached ∧ SameReadings a b ∧
      Ruled a (line a) ∧ Ruled b (line b) ∧ (line a).length = (line b).length ∧
      (∀ c : Column, c.start a = c.start b) ∧
      ∀ i, ¬ Covers (mainClass.start a) 15 i → ¬ Covers (version.start a) 5 i →
        ¬ Covers (user.start a) 8 i → (line a).toList[i]? = (line b).toList[i]? := by
  intro a b
  have h : SameReadings a b := ⟨rfl, rfl, rfl⟩
  exact ⟨by decide +kernel, by decide +kernel, rfl, h, texts_move_nothing rfl h⟩

end Overview

end VmMonitor
