import VmMonitor.Number.Binary64

/-!
# Numbers with a fixed count of places

The exact value of a number is rounded to a fixed count of decimal places; a tie goes to the even
neighbour. The sign is kept, also where the rounded number is zero.
-/

namespace VmMonitor

/-- The quotient `num / den` rounded to the nearest whole number, a tie to the even one. -/
def roundDiv (num den : Nat) : Nat :=
  let q := num / den
  let twice := 2 * (num % den)
  if twice < den then q
  else if den < twice then q + 1
  else q + q % 2

namespace Binary64

/-- `mantissa · 2 ^ exponent · 10 ^ places`, rounded to a whole number. -/
def scaled (places mantissa : Nat) (exponent : Int) : Nat :=
  match exponent with
  | .ofNat e => mantissa * tenTo places * twoTo e
  | .negSucc e => roundDiv (mantissa * tenTo places) (twoTo (e + 1))

/-- The digits of `n` with a point before the last `places` of them. -/
def withPoint (places n : Nat) : String :=
  let whole := toString (n / tenTo places)
  if places = 0 then whole
  else
    let rest := (toString (n % tenTo places)).toList
    String.ofList (whole.toList ++ '.' :: (List.replicate (places - rest.length) '0' ++ rest))

/-- The text of a number with `places` decimal places. -/
def fixed (places : Nat) (x : Binary64) : String :=
  match x.value with
  | .nan => "NaN"
  | .infinite negative => if negative then "-inf" else "inf"
  | .finite negative mantissa exponent =>
    let text := withPoint places (scaled places mantissa exponent)
    if negative then "-" ++ text else text

end Binary64

end VmMonitor
