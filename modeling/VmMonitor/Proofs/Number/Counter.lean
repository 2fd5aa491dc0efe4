import Mathlib.Algebra.Ring.Int.Defs
import VmMonitor.Number.Counter

/-!
# Arithmetic on counters

An operation on counters is that on the machine's numbers of 64 bits (`add_toInt`, `sub_toInt`,
`mul_toInt`), and it is exact wherever the exact result is such a number (`wrap_of_isInt64`). Of a long
sum only the whole has to be: what was lost on the way is made up for (`wrap_add_wrap`). The difference
of two counters that are not negative is always exact, so time that does not run backwards has none
below zero (`sub_nonneg`).
-/

namespace VmMonitor

theorem isInt64_iff {n : Int} : isInt64 n ↔ -2 ^ 63 ≤ n ∧ n < 2 ^ 63 := by
  have hbound : ((twoTo 63 : Nat) : Int) = 2 ^ 63 := rfl
  simp only [isInt64, Bool.and_eq_true, decide_eq_true_eq, hbound]

theorem isInt64_of_nonneg {n : Int} (h : 0 ≤ n ∧ n < 2 ^ 63) : isInt64 n := by
  rw [isInt64_iff]
  omega

namespace Counter

variable {n : Int}

theorem isInt64_wrap (n : Int) : isInt64 (wrap n) := by
  have hbelow : -(((twoTo 64 : Nat) : Int) / 2) ≤ wrap n := Int.le_bmod (by decide)
  have habove : wrap n < ((twoTo 64 : Nat) + 1 : Int) / 2 := Int.bmod_lt (by decide)
  have hbound : ((twoTo 64 : Nat) : Int) = 2 ^ 64 := rfl
  rw [isInt64_iff]
  omega

/-- A number that fits is kept as it is. -/
theorem wrap_of_isInt64 (h : isInt64 n) : wrap n = n := by
  have hbound : ((twoTo 64 : Nat) : Int) = 2 ^ 64 := rfl
  rw [isInt64_iff] at h
  exact Int.bmod_eq_of_le_mul_two (by omega) (by omega)

@[simp] theorem wrap_zero : wrap 0 = 0 := rfl

/-- What a sum loses on the way is made up for at its end. -/
theorem wrap_add_wrap (a b : Int) : add (wrap a) b = wrap (a + b) := Int.bmod_add_bmod

/-! ### The numbers of the machine -/

theorem add_toInt (a b : Int64) : add a.toInt b.toInt = (a + b).toInt := (Int64.toInt_add a b).symm

theorem sub_toInt (a b : Int64) : sub a.toInt b.toInt = (a - b).toInt := (Int64.toInt_sub a b).symm

theorem mul_toInt (a b : Int64) : mul a.toInt b.toInt = (a * b).toInt := (Int64.toInt_mul a b).symm

/-! ### Differences -/

/-- A difference that fits is exact. -/
theorem sub_of_isInt64 {a b : Int} (h : isInt64 (a - b)) : sub a b = a - b := wrap_of_isInt64 h

/-- Time that does not run backwards has no negative difference. -/
theorem sub_nonneg {a b : Int} (hb : isInt64 b) (ha : 0 ≤ a) (h : a ≤ b) : 0 ≤ sub b a := by
  have hfits : isInt64 (b - a) := by
    rw [isInt64_iff] at *
    omega
  rw [sub_of_isInt64 hfits]
  exact Int.sub_nonneg.2 h

@[simp] theorem sub_self (n : Int) : sub n n = 0 := by
  rw [sub, Int.sub_self, wrap_zero]

end Counter

end VmMonitor
