import VmMonitor.Number.FixedPlaces

/-!
# The fewest digits that read back

A finite number is written with the fewest decimal digits that still name it: of all decimals with
that many digits inside the interval of reals which round to the number, the nearest one. How the
digits are laid out, with or without an exponent, is a format's decision and a parameter.
-/

namespace VmMonitor

/-- A decimal `digits · 10 ^ exponent`. -/
structure Decimal where
  digits : Nat
  exponent : Int
  deriving DecidableEq, Repr

namespace Binary64

/-- A positive fraction `num / den`. -/
structure Ratio where
  num : Nat
  den : Nat

namespace Ratio

/-- `n · 2 ^ e` as a fraction. -/
def ofBinary (n : Nat) : Int → Ratio
  | .ofNat e => ⟨n * twoTo e, 1⟩
  | .negSucc e => ⟨n, twoTo (e + 1)⟩

/-- `n · 10 ^ e` as a fraction. -/
def ofDecimal (n : Nat) : Int → Ratio
  | .ofNat e => ⟨n * tenTo e, 1⟩
  | .negSucc e => ⟨n, tenTo (e + 1)⟩

def lt (a b : Ratio) : Bool := decide (a.num * b.den < b.num * a.den)

def le (a b : Ratio) : Bool := decide (a.num * b.den ≤ b.num * a.den)

/-- The distance of two fractions. -/
def dist (a b : Ratio) : Ratio :=
  ⟨a.num * b.den - b.num * a.den + (b.num * a.den - a.num * b.den), a.den * b.den⟩

/-- The whole part of a fraction. -/
def floor (a : Ratio) : Nat := a.num / a.den

/-- A fraction divided by `10 ^ e`. -/
def shiftDown (a : Ratio) : Int → Ratio
  | .ofNat e => ⟨a.num, a.den * tenTo e⟩
  | .negSucc e => ⟨a.num * tenTo (e + 1), a.den⟩

end Ratio

/-- The reals that round to `mantissa · 2 ^ exponent`: half the gap to either neighbour, the ends
included iff the mantissa is even. Below a power of two the gap is half as wide. -/
def readsBack (mantissa : Nat) (exponent : Int) (r : Ratio) : Bool :=
  let high := Ratio.ofBinary (2 * mantissa + 1) (exponent - 1)
  let low :=
    if mantissa = twoTo 52 ∧ exponent ≠ -1074 then Ratio.ofBinary (4 * mantissa - 1) (exponent - 2)
    else Ratio.ofBinary (2 * mantissa - 1) (exponent - 1)
  if mantissa % 2 = 0 then low.le r && r.le high else low.lt r && r.lt high

/-- The least `e` with `r < 10 ^ e`, found from below. -/
def magnitudeFrom (r : Ratio) : Nat → Int → Int
  | 0, e => e
  | fuel + 1, e => if r.lt (Ratio.ofDecimal 1 e) then e else magnitudeFrom r fuel (e + 1)

/-- The better of the two neighbours of `r` on the grid of multiples of `10 ^ e` that read back:
the nearer one, and of two equally near ones the even one. -/
def onGrid (mantissa : Nat) (exponent : Int) (r : Ratio) (e : Int) : Option Decimal :=
  let low := (r.shiftDown e).floor
  let hits := [low, low + 1].filter fun n => readsBack mantissa exponent (Ratio.ofDecimal n e)
  match hits with
  | [a, b] =>
    let da := (Ratio.ofDecimal a e).dist r
    let db := (Ratio.ofDecimal b e).dist r
    if da.lt db then some ⟨a, e⟩
    else if db.lt da then some ⟨b, e⟩
    else some ⟨if a % 2 = 0 then a else b, e⟩
  | [a] => some ⟨a, e⟩
  | _ => none

/-- The first grid with a hit, from one digit to seventeen. -/
def firstGrid (mantissa : Nat) (exponent : Int) (r : Ratio) (top : Int) : Nat → Nat → Decimal
  | 0, _ => ⟨0, 0⟩
  | fuel + 1, n =>
    match onGrid mantissa exponent r (top - n) with
    | some d => d
    | none => firstGrid mantissa exponent r top fuel (n + 1)

/-- The digits of a positive finite number. -/
def shortest (mantissa : Nat) (exponent : Int) : Decimal :=
  let r := Ratio.ofBinary mantissa exponent
  firstGrid mantissa exponent r (magnitudeFrom r 640 (-330)) 17 1

/-- How a format lays out the digits of a number. -/
structure Layout where
  /-- Greatest place of the point, counted from the first digit, without an exponent. -/
  greatest : Option Int
  /-- Least place of the point without an exponent. -/
  least : Option Int
  /-- A positive exponent has a sign too. -/
  plus : Bool
  nan : String
  infinity : String
  negativeInfinity : String

/-- Whole digits without trailing zeros, and the place of the point counted from the first. -/
def significant (d : Decimal) : List Char × Int :=
  let all := (toString d.digits).toList
  let kept := (all.reverse.dropWhile (· == '0')).reverse
  (kept, all.length + d.exponent)

/-- Lays out digits with the point at `place`. -/
def Layout.write (l : Layout) (digits : List Char) (place : Int) : List Char :=
  let length : Int := digits.length
  let inside := (l.least.all (· ≤ place)) && (l.greatest.all (place ≤ ·))
  if inside then
    if length ≤ place then
      digits ++ List.replicate (place - length).toNat '0' ++ ['.', '0']
    else if 0 < place then
      digits.take place.toNat ++ '.' :: digits.drop place.toNat
    else ['0', '.'] ++ List.replicate (-place).toNat '0' ++ digits
  else
    let power := (if l.plus && 0 < place then ['+'] else []) ++ (toString (place - 1)).toList
    match digits with
    | [d] => d :: 'e' :: power
    | d :: rest => d :: '.' :: (rest ++ 'e' :: power)
    | [] => []

/-- The shortest text of a number in a layout. -/
def write (l : Layout) (x : Binary64) : String :=
  let sign (negative : Bool) := if negative then "-" else ""
  match x.value with
  | .nan => l.nan
  | .infinite negative => if negative then l.negativeInfinity else l.infinity
  | .finite negative 0 _ => sign negative ++ "0.0"
  | .finite negative mantissa exponent =>
    let (digits, place) := significant (shortest mantissa exponent)
    sign negative ++ String.ofList (l.write digits place)

end Binary64

end VmMonitor
