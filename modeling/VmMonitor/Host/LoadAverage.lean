import VmMonitor.Text.Numeral

/-!
# Load average of the machine

The system writes the load of the last one, five and fifteen minutes as the first three fields of a
line.
-/

namespace VmMonitor

/-- The load of the machine over three spans of time. -/
structure LoadAverage where
  oneMinute : Float
  fiveMinutes : Float
  fifteenMinutes : Float

namespace LoadAverage

/-- Why a line is no load average. -/
inductive Fault
  | tooFewFields (found : Nat)
  | field (minutes : Nat) (fault : NumeralFault)

/-- The wording of a fault. -/
def Fault.message : Fault → String
  | tooFewFields found =>
    "Invalid /proc/loadavg format: expected at least 3 fields, got " ++ toString found
  | field minutes fault =>
    "Failed to parse " ++ toString minutes ++ "min load average: " ++ fault.message

/-- Characters between fields: the blanks of all scripts. -/
def isBlank (c : Char) : Bool :=
  let n := c.toNat
  (0x09 ≤ n && n ≤ 0x0D) || n = 0x20 || n = 0x85 || n = 0xA0 || n = 0x1680
    || (0x2000 ≤ n && n ≤ 0x200A) || n = 0x2028 || n = 0x2029 || n = 0x202F || n = 0x205F
    || n = 0x3000

/-- The pieces between blanks, the first of them reversed onto `acc`. -/
def fieldsOnto : List Char → List Char → List (List Char)
  | acc, [] => if acc.isEmpty then [] else [acc.reverse]
  | acc, c :: cs =>
    if isBlank c then
      if acc.isEmpty then fieldsOnto [] cs else acc.reverse :: fieldsOnto [] cs
    else fieldsOnto (c :: acc) cs

/-- The fields of a line. -/
def fields (line : String) : List String := (fieldsOnto [] line.toList).map String.ofList

/-- Reads one field. -/
def readField (minutes : Nat) (s : String) : Except Fault Float :=
  match readFloat s with
  | .ok x => .ok x
  | .error fault => .error (.field minutes fault)

/-- Reads a line. -/
def parse (line : String) : Except Fault LoadAverage :=
  match fields line with
  | a :: b :: c :: _ => do
    return ⟨← readField 1 a, ← readField 5 b, ← readField 15 c⟩
  | few => .error (.tooFewFields few.length)

end LoadAverage

end VmMonitor
