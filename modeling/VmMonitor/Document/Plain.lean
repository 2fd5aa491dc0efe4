import VmMonitor.Document.Tag
import VmMonitor.Text.Numeral

/-!
# Plain scalars

What a YAML scalar without quotes stands for. Words for null and for truth values are matched
whole; whole numbers come in four bases with a sign; a decimal that starts with a needless zero is
a text. A number beyond sixty-four bits but within a hundred and twenty-eight has no value.
-/

namespace VmMonitor.Plain

def isNull (s : String) : Bool :=
  s = "null" || s = "Null" || s = "NULL" || s = "~"

def bool? (s : String) : Option Bool :=
  if s = "true" || s = "True" || s = "TRUE" then some true
  else if s = "false" || s = "False" || s = "FALSE" then some false
  else none

/-- A zero with more digits behind it, and digits only. -/
def isPaddedDigits (cs : List Char) : Bool :=
  let body := match cs with
    | '-' :: r => r
    | '+' :: r => r
    | r => r
  match body with
  | '0' :: c :: r => (c :: r).all isDigit
  | _ => false

/-- The base that a prefix names, with what follows it. -/
def basePrefix : List Char → Option (Nat × List Char)
  | '0' :: 'x' :: r => some (16, r)
  | '0' :: 'o' :: r => some (8, r)
  | '0' :: 'b' :: r => some (2, r)
  | _ => none

/-- A whole number that is not negative. -/
def nat? (cs : List Char) : Option Nat :=
  let body := match cs with
    | '+' :: r => r
    | r => r
  match basePrefix body with
  | some (base, r) => readDigits? base r
  | none => if isPaddedDigits cs then none else readDigits? 10 body

/-- A whole number with a minus sign. -/
def negative? : List Char → Option Int
  | '-' :: r =>
    let magnitude := match basePrefix r with
      | some (base, t) => readDigits? base t
      | none => if isPaddedDigits ('-' :: r) then none else readDigits? 10 r
    magnitude.map fun n => -(n : Int)
  | _ => none

/-- A whole number of either sign. -/
def int? (cs : List Char) : Option Int :=
  match nat? cs with
  | some n => some n
  | none => negative? cs

/-- A floating-point number; infinities and NaN are written with a leading point. -/
def float? (s : String) : Option Float :=
  let cs := s.toList
  let (signed, body) := match cs with
    | '+' :: r => (true, r)
    | r => (false, r)
  let word := String.ofList body
  if signed && (body.head? = some '+' || body.head? = some '-') then none
  else if word = ".inf" || word = ".Inf" || word = ".INF" then some (1.0 / 0.0)
  else if s = "-.inf" || s = "-.Inf" || s = "-.INF" then some (-(1.0 / 0.0))
  else if s = ".nan" || s = ".NaN" || s = ".NAN" then some (0.0 / 0.0)
  else match readFloat word with
    | .ok x => if x.isFinite then some x else none
    | .error _ => none

/-- The whole number that a text spells, if it spells one of at most 128 bits; beyond 64 bits it has
no value. -/
def whole? (s : String) : Option Scalar :=
  match int? s.toList with
  | none => none
  | some n =>
    if -(twoTo 63 : Int) ≤ n ∧ n < (twoTo 64 : Int) then some (.int n)
    else if -(twoTo 127 : Int) ≤ n ∧ n < (twoTo 128 : Int) then some .unreadable
    else none

/-- The type of a plain scalar where nothing asks for one. -/
def resolve (s : String) : Scalar :=
  if s.isEmpty || isNull s then .null
  else match bool? s with
    | some b => .bool b
    | none =>
      match whole? s with
      | some n => n
      | none =>
        if isPaddedDigits s.toList then .text s
        else match float? s with
          | some x => .float (Binary64.ofFloat x)
          | none => .text s

/-- The leaf that a text is under a tag: a core type has to fit it, and any other tag leaves it a
text. -/
def resolveAs (tag s : String) : Scalar :=
  if tag = Tag.null then if isNull s then .null else .unreadable
  else if tag = Tag.bool then ((bool? s).map Scalar.bool).getD .unreadable
  else if tag = Tag.int then (whole? s).getD .unreadable
  else if tag = Tag.float then
    ((float? s).map fun x => Scalar.float (Binary64.ofFloat x)).getD .unreadable
  else .text s

end VmMonitor.Plain
