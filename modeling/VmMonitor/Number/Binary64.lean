import VmMonitor.Number.Power

/-!
# Binary64 numbers by their pattern

A reading such as a CPU load is stored as the 64-bit pattern of its binary floating-point number.
The pattern keeps what arithmetic loses, the sign of a zero and the sign of a NaN, so the total
order on patterns and the exact text of a number are functions on it.

* `Binary64.value` splits a pattern into sign, whole mantissa and binary exponent;
* `Binary64.orderKey` maps the IEEE total order to the order of the integers.
-/

namespace VmMonitor

/-- A binary floating-point number of 64 bits: a sign bit, eleven exponent bits and fifty-two
fraction bits. -/
structure Binary64 where
  bits : UInt64
  deriving DecidableEq, Repr, Inhabited

namespace Binary64

/-- The pattern of a machine number; every NaN gets one and the same pattern. -/
def ofFloat (x : Float) : Binary64 := ⟨x.toBits⟩

/-- The machine number with this pattern. -/
def toFloat (x : Binary64) : Float := Float.ofBits x.bits

/-- Positive zero. -/
def zero : Binary64 := ⟨0⟩

/-- The sign bit. -/
def isNegative (x : Binary64) : Bool := decide (twoTo 63 ≤ x.bits.toNat)

/-- The pattern without its sign bit. -/
def magnitude (x : Binary64) : Nat := x.bits.toNat % twoTo 63

/-- The eleven exponent bits. -/
def biasedExponent (x : Binary64) : Nat := x.magnitude / twoTo 52

/-- The fifty-two fraction bits. -/
def fraction (x : Binary64) : Nat := x.magnitude % twoTo 52

/-- What a pattern stands for. -/
inductive Value
  /-- Not a number, of either sign. -/
  | nan
  /-- An infinity. -/
  | infinite (negative : Bool)
  /-- The number `± mantissa · 2 ^ exponent`. -/
  | finite (negative : Bool) (mantissa : Nat) (exponent : Int)
  deriving DecidableEq, Repr

/-- Reads a pattern: exponent bits that are all set mark infinities and NaNs, exponent bits that
are all clear mark the numbers without a leading one. -/
def value (x : Binary64) : Value :=
  if x.biasedExponent = 2047 then
    if x.fraction = 0 then .infinite x.isNegative else .nan
  else if x.biasedExponent = 0 then .finite x.isNegative x.fraction (-1074)
  else .finite x.isNegative (x.fraction + twoTo 52) ((x.biasedExponent : Int) - 1075)

/-- Whether the pattern is that of a NaN. -/
def isNaN (x : Binary64) : Bool := decide (x.value = .nan)

/-- The place of a pattern in the IEEE total order: negative patterns come first, the larger their
magnitude the earlier, and positive patterns follow in the order of their magnitude. -/
def orderKey (x : Binary64) : Int :=
  if x.isNegative then -(x.magnitude : Int) - 1 else x.magnitude

end Binary64

/-- The number nearest to a whole number. -/
def nearestFloat : Int → Float
  | .ofNat n => OfScientific.ofScientific n false 0
  | .negSucc n => -(OfScientific.ofScientific (n + 1) false 0)

end VmMonitor
