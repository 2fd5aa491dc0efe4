import Mathlib.Tactic.SplitIfs
import VmMonitor.Number.Binary64

/-!
# The total order of binary64 patterns

Numbers are compared by their value, the infinities stand at both ends, and where that leaves two
patterns alike, which is so for the two zeros only, the negative one comes first. A NaN comes before
everything or after everything, depending on its sign, and two of one sign are told apart by their
fractions. All finite numbers are whole multiples of the least positive one, so their values are
compared as whole numbers.

## What is proved

* `Binary64.scale_lt_scale` — the number that a pattern stands for grows with the pattern.
* `Binary64.orderKey_le_iff` — **the order of the keys** is this order.
* `Binary64.orderKey_inj` — no two patterns have one key.
-/

namespace VmMonitor.Binary64

/-- A finite number, in units of the least positive one. -/
def units (negative : Bool) (mantissa : Nat) (exponent : Int) : Int :=
  if negative then -(mantissa * twoTo (exponent + 1074).toNat) else mantissa * twoTo (exponent + 1074).toNat

/-- The total order of IEEE 754, in which `x` comes before `y` or is `y`. -/
inductive TotalLE (x y : Binary64) : Prop
  /-- The smaller number comes first. -/
  | less {s t : Bool} {m n : Nat} {e f : Int} : x.value = .finite s m e → y.value = .finite t n f →
      units s m e < units t n f → TotalLE x y
  /-- Of two zeros, the negative one comes first. -/
  | equal {s t : Bool} {m n : Nat} {e f : Int} : x.value = .finite s m e → y.value = .finite t n f →
      units s m e = units t n f → (t → s) → TotalLE x y
  /-- Negative infinity comes before all numbers. -/
  | infinite_left : x.value = .infinite true → y.value ≠ .nan → TotalLE x y
  /-- Positive infinity comes after all numbers. -/
  | infinite_right : x.value ≠ .nan → y.value = .infinite false → TotalLE x y
  /-- A negative NaN comes before all that is none. -/
  | nan_left : x.value = .nan → x.isNegative → y.value ≠ .nan → TotalLE x y
  /-- A positive NaN comes after all that is none. -/
  | nan_right : x.value ≠ .nan → y.value = .nan → y.isNegative = false → TotalLE x y
  | nan_signs : x.value = .nan → y.value = .nan → x.isNegative → y.isNegative = false → TotalLE x y
  | nan_negative : x.value = .nan → y.value = .nan → x.isNegative → y.isNegative →
      y.fraction ≤ x.fraction → TotalLE x y
  | nan_positive : x.value = .nan → y.value = .nan → x.isNegative = false → y.isNegative = false →
      x.fraction ≤ y.fraction → TotalLE x y

/-! ### Patterns and the numbers they stand for -/

theorem twoTo_succ (n : Nat) : twoTo (n + 1) = twoTo n * 2 := rfl

theorem twoTo_pos (n : Nat) : 0 < twoTo n := by
  induction n with
  | zero => decide
  | succ n ih => rw [twoTo_succ]; omega

theorem twoTo_le_twoTo {m n : Nat} (h : m ≤ n) : twoTo m ≤ twoTo n := by
  induction h with
  | refl => exact Nat.le_refl _
  | step _ ih => exact Nat.le_trans ih (by rw [Nat.succ_eq_add_one, twoTo_succ]; omega)

/-- The absolute value of the finite number with this magnitude. -/
def scale (magnitude : Nat) : Nat :=
  if magnitude / twoTo 52 = 0 then magnitude % twoTo 52
  else (magnitude % twoTo 52 + twoTo 52) * twoTo (magnitude / twoTo 52 - 1)

theorem scale_lt (m : Nat) : scale m < twoTo 52 * twoTo (m / twoTo 52) := by
  have hfraction : m % twoTo 52 < twoTo 52 := Nat.mod_lt _ (twoTo_pos 52)
  unfold scale
  cases hexponent : m / twoTo 52 with
  | zero => simpa [twoTo] using hfraction
  | succ e =>
    rw [if_neg (Nat.succ_ne_zero e), Nat.add_sub_cancel, twoTo_succ e, Nat.mul_comm (twoTo e),
      ← Nat.mul_assoc]
    exact Nat.mul_lt_mul_of_pos_right (by omega) (twoTo_pos e)

theorem le_scale {m e : Nat} (h : e < m / twoTo 52) : twoTo 52 * twoTo e ≤ scale m := by
  unfold scale
  rw [if_neg (by omega)]
  exact Nat.mul_le_mul (Nat.le_add_left _ _) (twoTo_le_twoTo (by omega))

/-- The number that a pattern stands for grows with the pattern, also where the exponent changes. -/
theorem scale_lt_scale {m n : Nat} (h : m < n) : scale m < scale n := by
  rcases Nat.lt_or_eq_of_le (Nat.div_le_div_right (c := twoTo 52) (Nat.le_of_lt h)) with hlt | heq
  · exact Nat.lt_of_lt_of_le (scale_lt m) (le_scale hlt)
  · have hfraction : m % twoTo 52 < n % twoTo 52 := by
      have hm := Nat.div_add_mod m (twoTo 52)
      have hn := Nat.div_add_mod n (twoTo 52)
      rw [heq] at hm
      omega
    unfold scale
    rw [heq]
    split
    · exact hfraction
    · exact Nat.mul_lt_mul_of_pos_right (by omega) (twoTo_pos _)

theorem scale_le_scale_iff {m n : Nat} : scale m ≤ scale n ↔ m ≤ n := by
  constructor
  · intro h
    exact Nat.le_of_not_lt fun hlt => Nat.not_le_of_lt (scale_lt_scale hlt) h
  · intro h
    rcases Nat.lt_or_eq_of_le h with hlt | rfl
    · exact Nat.le_of_lt (scale_lt_scale hlt)
    · exact Nat.le_refl _

/-- The magnitude of an infinity. -/
def infinityMagnitude : Nat := 2047 * twoTo 52

/-- What a pattern stands for is told by its sign and its magnitude. -/
theorem value_cases (x : Binary64) :
    (∃ m e, x.value = .finite x.isNegative m e ∧ x.magnitude < infinityMagnitude ∧
      m * twoTo (e + 1074).toNat = scale x.magnitude) ∨
    (x.value = .infinite x.isNegative ∧ x.magnitude = infinityMagnitude) ∨
    x.value = .nan ∧ x.magnitude = infinityMagnitude + x.fraction ∧ 0 < x.fraction := by
  have hbits : x.magnitude < twoTo 63 := Nat.mod_lt _ (twoTo_pos 63)
  have hsplit : twoTo 52 * x.biasedExponent + x.fraction = x.magnitude := Nat.div_add_mod _ _
  have hfraction : x.fraction < twoTo 52 := Nat.mod_lt _ (twoTo_pos 52)
  have htwo : twoTo 63 = 2048 * twoTo 52 := by decide
  have hexponent : x.biasedExponent ≤ 2047 := by
    have hpos := twoTo_pos 52
    rw [htwo] at hbits
    exact Nat.le_of_lt_succ (Nat.div_lt_of_lt_mul (by rwa [Nat.mul_comm]))
  have hscale : scale x.magnitude = if x.biasedExponent = 0 then x.fraction
    else (x.fraction + twoTo 52) * twoTo (x.biasedExponent - 1) := rfl
  unfold value infinityMagnitude
  split_ifs with htop hzero hsub
  · exact .inr (.inl ⟨rfl, by rw [← hsplit, htop, hzero, Nat.mul_comm, Nat.add_zero]⟩)
  · exact .inr (.inr ⟨rfl, by rw [← hsplit, htop, Nat.mul_comm], Nat.pos_of_ne_zero hzero⟩)
  · refine .inl ⟨_, _, rfl, ?_, ?_⟩
    · rw [← hsplit, hsub]
      omega
    · rw [hscale, if_pos hsub]
      exact Nat.mul_one _
  · refine .inl ⟨_, _, rfl, ?_, ?_⟩
    · have hle : x.biasedExponent + 1 ≤ 2047 := by omega
      calc x.magnitude = twoTo 52 * x.biasedExponent + x.fraction := hsplit.symm
        _ < twoTo 52 * (x.biasedExponent + 1) := Nat.add_lt_add_left hfraction _
        _ ≤ twoTo 52 * 2047 := Nat.mul_le_mul_left _ hle
        _ = 2047 * twoTo 52 := Nat.mul_comm _ _
    · have hindex : ((x.biasedExponent : Int) - 1075 + 1074).toNat = x.biasedExponent - 1 := by omega
      rw [hscale, if_neg hsub, hindex]

section

variable {x : Binary64}

theorem magnitude_of_finite {s : Bool} {m : Nat} {e : Int} (h : x.value = .finite s m e) :
    s = x.isNegative ∧ x.magnitude < infinityMagnitude ∧
      units s m e = if x.isNegative then -(scale x.magnitude : Int) else scale x.magnitude := by
  rcases value_cases x with ⟨m', e', hx, hlt, hscale⟩ | ⟨hx, -⟩ | ⟨hx, -⟩
  · cases h.symm.trans hx
    refine ⟨rfl, hlt, ?_⟩
    rw [units, ← hscale, Int.natCast_mul]
  · cases h.symm.trans hx
  · cases h.symm.trans hx

theorem magnitude_of_infinite {s : Bool} (h : x.value = .infinite s) :
    s = x.isNegative ∧ x.magnitude = infinityMagnitude := by
  rcases value_cases x with ⟨m, e, hx, -⟩ | ⟨hx, heq⟩ | ⟨hx, -⟩
  · cases h.symm.trans hx
  · cases h.symm.trans hx
    exact ⟨rfl, heq⟩
  · cases h.symm.trans hx

theorem value_eq_nan_iff : x.value = .nan ↔ infinityMagnitude < x.magnitude := by
  rcases value_cases x with ⟨m, e, hx, hlt, -⟩ | ⟨hx, heq⟩ | ⟨hx, heq, hpos⟩
  · simp only [hx, reduceCtorEq, false_iff]
    omega
  · simp only [hx, reduceCtorEq, false_iff]
    omega
  · simp only [hx, true_iff]
    omega

theorem magnitude_of_nan (h : x.value = .nan) : x.magnitude = infinityMagnitude + x.fraction := by
  rcases value_cases x with ⟨m, e, hx, -⟩ | ⟨hx, -⟩ | ⟨-, heq, -⟩
  · cases h.symm.trans hx
  · cases h.symm.trans hx
  · exact heq

end

/-! ### The order of the keys -/

section

variable {x y : Binary64}

theorem orderKey_of_negative (h : x.isNegative) : x.orderKey = -(x.magnitude : Int) - 1 := if_pos h

theorem orderKey_of_positive (h : x.isNegative = false) : x.orderKey = x.magnitude := by
  simp [orderKey, h]

/-- Of two patterns of one sign, the magnitudes decide; of two signs, the negative one has the smaller
key. -/
theorem orderKey_le_orderKey : x.orderKey ≤ y.orderKey ↔
    (x.isNegative ∧ y.isNegative = false) ∨
    (x.isNegative ∧ y.isNegative ∧ y.magnitude ≤ x.magnitude) ∨
    (x.isNegative = false ∧ y.isNegative = false ∧ x.magnitude ≤ y.magnitude) := by
  cases hx : x.isNegative <;> cases hy : y.isNegative
  · rw [orderKey_of_positive hx, orderKey_of_positive hy]
    simp
  · rw [orderKey_of_positive hx, orderKey_of_negative hy]
    simp only [Bool.false_eq_true, Bool.true_eq_false, false_and, and_false, or_false, iff_false]
    omega
  · rw [orderKey_of_negative hx, orderKey_of_positive hy]
    simp only [true_and, true_or, iff_true]
    omega
  · rw [orderKey_of_negative hx, orderKey_of_negative hy]
    simp only [true_and, Bool.true_eq_false, false_and, or_false, and_false, false_or]
    omega

/-- No two patterns have one key. -/
theorem orderKey_inj : x.orderKey = y.orderKey ↔ x = y := by
  refine ⟨fun h => ?_, fun h => h ▸ rfl⟩
  have hsplit (z : Binary64) :
      z.bits.toNat = (if z.isNegative then twoTo 63 else 0) + z.magnitude := by
    have hbits : z.bits.toNat < twoTo 63 * 2 := z.bits.toNat_lt
    have hdiv := Nat.div_add_mod z.bits.toNat (twoTo 63)
    unfold isNegative magnitude
    by_cases hsign : twoTo 63 ≤ z.bits.toNat
    · have hone : z.bits.toNat / twoTo 63 = 1 := Nat.div_eq_of_lt_le (by omega) (by omega)
      rw [if_pos (by simpa using hsign)]
      rw [hone] at hdiv
      omega
    · rw [if_neg (by simpa using hsign), Nat.mod_eq_of_lt (by omega), Nat.zero_add]
  have hbits : x.bits.toNat = y.bits.toNat := by
    rw [hsplit x, hsplit y]
    unfold orderKey at h
    split_ifs at h ⊢ <;> omega
  obtain ⟨a⟩ := x
  obtain ⟨b⟩ := y
  exact congrArg Binary64.mk (UInt64.toNat.inj hbits)

/-- A negative pattern has a smaller key than all that are not, and than those closer to zero. -/
theorem orderKey_le_of_isNegative (hx : x.isNegative)
    (h : y.isNegative → y.magnitude ≤ x.magnitude) : x.orderKey ≤ y.orderKey := by
  rw [orderKey_le_orderKey]
  cases hy : y.isNegative with
  | false => exact .inl ⟨hx, rfl⟩
  | true => exact .inr (.inl ⟨hx, rfl, h hy⟩)

/-- A pattern that is not negative has a larger key than all that are, and than those closer to zero. -/
theorem orderKey_le_of_isNegative_eq_false (hy : y.isNegative = false)
    (h : x.isNegative = false → x.magnitude ≤ y.magnitude) : x.orderKey ≤ y.orderKey := by
  rw [orderKey_le_orderKey]
  cases hx : x.isNegative with
  | false => exact .inr (.inr ⟨rfl, hy, h hx⟩)
  | true => exact .inl ⟨rfl, hy⟩

/-- Of two numbers, the smaller one has the smaller key; of equal ones, the negative one has. -/
theorem orderKey_le_of_finite {s t : Bool} {m n : Nat} {e f : Int} (hx : x.value = .finite s m e)
    (hy : y.value = .finite t n f) (hle : units s m e ≤ units t n f)
    (hsign : y.isNegative → x.isNegative) : x.orderKey ≤ y.orderKey := by
  obtain ⟨-, -, hx⟩ := magnitude_of_finite hx
  obtain ⟨-, -, hy⟩ := magnitude_of_finite hy
  rw [hx, hy] at hle
  cases hsx : x.isNegative with
  | true =>
    refine orderKey_le_of_isNegative hsx fun hsy => scale_le_scale_iff.1 ?_
    rw [if_pos hsx, if_pos hsy] at hle
    omega
  | false =>
    have hsy : y.isNegative = false := by simpa [hsx] using hsign
    refine orderKey_le_of_isNegative_eq_false hsy fun _ => scale_le_scale_iff.1 ?_
    simp only [hsx, hsy, Bool.false_eq_true, if_false] at hle
    omega

/-- What comes first has the smaller key. -/
theorem TotalLE.orderKey_le (h : TotalLE x y) : x.orderKey ≤ y.orderKey := by
  cases h with
  | less hx hy hlt =>
    refine orderKey_le_of_finite hx hy (Int.le_of_lt hlt) fun hsy => ?_
    obtain ⟨-, -, hx⟩ := magnitude_of_finite hx
    obtain ⟨-, -, hy⟩ := magnitude_of_finite hy
    cases hsx : x.isNegative with
    | true => rfl
    | false =>
      rw [hx, hy, if_neg (by simp [hsx]), if_pos hsy] at hlt
      omega
  | equal hx hy heq hsign =>
    refine orderKey_le_of_finite hx hy (Int.le_of_eq heq) ?_
    rwa [← (magnitude_of_finite hx).1, ← (magnitude_of_finite hy).1]
  | infinite_left hx hy =>
    obtain ⟨hsign, hx⟩ := magnitude_of_infinite hx
    rw [Ne, value_eq_nan_iff, Nat.not_lt] at hy
    exact orderKey_le_of_isNegative hsign.symm fun _ => hx ▸ hy
  | infinite_right hx hy =>
    obtain ⟨hsign, hy⟩ := magnitude_of_infinite hy
    rw [Ne, value_eq_nan_iff, Nat.not_lt] at hx
    exact orderKey_le_of_isNegative_eq_false hsign.symm fun _ => hy ▸ hx
  | nan_left hx hsign hy =>
    rw [value_eq_nan_iff] at hx
    rw [Ne, value_eq_nan_iff, Nat.not_lt] at hy
    exact orderKey_le_of_isNegative hsign fun _ => Nat.le_trans hy (Nat.le_of_lt hx)
  | nan_right hx hy hsign =>
    rw [Ne, value_eq_nan_iff, Nat.not_lt] at hx
    rw [value_eq_nan_iff] at hy
    exact orderKey_le_of_isNegative_eq_false hsign fun _ => Nat.le_trans hx (Nat.le_of_lt hy)
  | nan_signs _ _ hx hy => exact orderKey_le_of_isNegative hx fun hneg => by simp [hy] at hneg
  | nan_negative hx hy hsx _ hle =>
    refine orderKey_le_of_isNegative hsx fun _ => ?_
    rw [magnitude_of_nan hx, magnitude_of_nan hy]
    exact Nat.add_le_add_left hle _
  | nan_positive hx hy _ hsy hle =>
    refine orderKey_le_of_isNegative_eq_false hsy fun _ => ?_
    rw [magnitude_of_nan hx, magnitude_of_nan hy]
    exact Nat.add_le_add_left hle _

/-- Of two patterns, one comes first. -/
theorem TotalLE.total (x y : Binary64) : TotalLE x y ∨ TotalLE y x := by
  by_cases hx : x.value = .nan <;> by_cases hy : y.value = .nan
  · cases hsx : x.isNegative <;> cases hsy : y.isNegative
    · exact (Nat.le_total x.fraction y.fraction).imp (.nan_positive hx hy hsx hsy)
        (.nan_positive hy hx hsy hsx)
    · exact .inr (.nan_signs hy hx hsy hsx)
    · exact .inl (.nan_signs hx hy hsx hsy)
    · exact (Nat.le_total y.fraction x.fraction).imp (.nan_negative hx hy hsx hsy)
        (.nan_negative hy hx hsy hsx)
  · cases hsx : x.isNegative
    · exact .inr (.nan_right hy hx hsx)
    · exact .inl (.nan_left hx hsx hy)
  · cases hsy : y.isNegative
    · exact .inl (.nan_right hx hy hsy)
    · exact .inr (.nan_left hy hsy hx)
  · cases hvx : x.value with
    | nan => exact absurd hvx hx
    | infinite s =>
      cases s with
      | false => exact .inr (.infinite_right hy hvx)
      | true => exact .inl (.infinite_left hvx hy)
    | finite s m e =>
      cases hvy : y.value with
      | nan => exact absurd hvy hy
      | infinite t =>
        cases t with
        | false => exact .inl (.infinite_right hx hvy)
        | true => exact .inr (.infinite_left hvy hx)
      | finite t n f =>
        rcases Int.lt_trichotomy (units s m e) (units t n f) with hlt | heq | hgt
        · exact .inl (.less hvx hvy hlt)
        · cases t with
          | false => exact .inl (.equal hvx hvy heq nofun)
          | true => exact .inr (.equal hvy hvx heq.symm fun _ => rfl)
        · exact .inr (.less hvy hvx hgt)

/-- **The order of the keys** is the total order of the patterns. -/
theorem orderKey_le_iff : x.orderKey ≤ y.orderKey ↔ TotalLE x y := by
  refine ⟨fun h => ?_, TotalLE.orderKey_le⟩
  rcases TotalLE.total x y with hle | hge
  · exact hle
  · obtain rfl := orderKey_inj.1 (Int.le_antisymm h hge.orderKey_le)
    exact hge

end

end VmMonitor.Binary64
