import VmMonitor.Number.Shortest

/-!
# Numerals

Reading whole numbers in a base and decimal fractions with an exponent. Digits are ASCII; a sign is
part of the numeral. Which numerals a setting or a file format admits is decided where it is read.
-/

namespace VmMonitor

/-- The value of one digit in a base of at most sixteen. -/
def digitValue? (base : Nat) (c : Char) : Option Nat :=
  let v :=
    if '0' ≤ c ∧ c ≤ '9' then c.toNat - '0'.toNat
    else if 'a' ≤ c ∧ c ≤ 'f' then c.toNat - 'a'.toNat + 10
    else if 'A' ≤ c ∧ c ≤ 'F' then c.toNat - 'A'.toNat + 10
    else base
  if v < base then some v else none

/-- An ASCII decimal digit. -/
def isDigit (c : Char) : Bool := '0' ≤ c && c ≤ '9'

/-- Digits read one after the other onto a value. -/
def digitsOnto? (base : Nat) : Nat → List Char → Option Nat
  | n, [] => some n
  | n, c :: cs => do digitsOnto? base (n * base + (← digitValue? base c)) cs

/-- A non-empty run of digits. -/
def readDigits? (base : Nat) : List Char → Option Nat
  | [] => none
  | cs => digitsOnto? base 0 cs

/-- A run of digits with an optional plus sign. -/
def readNat? (base : Nat) : List Char → Option Nat
  | '+' :: cs => readDigits? base cs
  | cs => readDigits? base cs

/-- A run of digits with an optional sign. -/
def readInt? (base : Nat) : List Char → Option Int
  | '-' :: cs => (readDigits? base cs).map fun n => -(n : Int)
  | cs => (readNat? base cs).map Int.ofNat

/-- The number nearest to a decimal; far outside the range it is an infinity or zero. -/
def Decimal.toFloat (d : Decimal) : Float :=
  if d.digits = 0 then 0.0
  else
    let places : Int := (toString d.digits).length
    if 400 < places + d.exponent then 1.0 / 0.0
    else if places + d.exponent < -400 then 0.0
    else match d.exponent with
      | .ofNat e => OfScientific.ofScientific d.digits false e
      | .negSucc e => OfScientific.ofScientific d.digits true (e + 1)

/-- An unsigned decimal: digits, an optional point with digits on at least one of its sides, and an
optional exponent. -/
def readDecimal? (cs : List Char) : Option Decimal := do
  let whole := cs.takeWhile isDigit
  let rest := cs.dropWhile isDigit
  let (fraction, rest) := match rest with
    | '.' :: r => (r.takeWhile isDigit, r.dropWhile isDigit)
    | r => ([], r)
  let digits ← readDigits? 10 (whole ++ fraction)
  let exponent ← match rest with
    | [] => some 0
    | 'e' :: r => readInt? 10 r
    | 'E' :: r => readInt? 10 r
    | _ => none
  return ⟨digits, exponent - fraction.length⟩

/-- Why a text is no floating-point number. -/
inductive NumeralFault
  | empty
  | malformed
  deriving DecidableEq, Repr

/-- The wording of a fault. -/
def NumeralFault.message : NumeralFault → String
  | .empty => "cannot parse float from empty string"
  | .malformed => "invalid float literal"

/-- A floating-point number: an optional sign, then a decimal or, in letters of either case, an
infinity or a NaN. -/
def readFloat (s : String) : Except NumeralFault Float :=
  let cs := s.toList
  if cs.isEmpty then .error .empty
  else
    let (negative, body) := match cs with
      | '-' :: r => (true, r)
      | '+' :: r => (false, r)
      | r => (false, r)
    let word := String.ofList (body.map Char.toLower)
    let magnitude : Option Float :=
      if word = "inf" || word = "infinity" then some (1.0 / 0.0)
      else if word = "nan" then some (0.0 / 0.0)
      else (readDecimal? body).map Decimal.toFloat
    match magnitude with
    | some x => .ok (if negative then -x else x)
    | none => .error .malformed

end VmMonitor
