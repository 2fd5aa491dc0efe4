import VmMonitor.Document

/-!
# Writing TOML

One pair per line. A text stands between single quotes as it is; only a text that cannot, because
of control characters or of its quotes, is written with escapes between double quotes. What is null
has no line.
-/

namespace VmMonitor.Toml

/-- No number is written with an exponent. -/
def layout : Binary64.Layout := ⟨none, none, false, "nan", "inf", "-inf"⟩

/-- The longest run of single quotes. -/
def longestRun : List Char → Nat → Nat → Nat
  | [], run, best => max run best
  | '\'' :: cs, run, best => longestRun cs (run + 1) best
  | _ :: cs, run, best => longestRun cs 0 (max run best)

/-- Characters that no string holds as they are. -/
def needsEscape (c : Char) : Bool :=
  c ≠ '\t' && c ≠ '\n' && (c.toNat < 0x20 || c.toNat = 0x7F)

/-- Whether a text can stand as it is. -/
def isLiteral (cs : List Char) : Bool :=
  !cs.any needsEscape && decide (longestRun cs 0 0 < 3) && cs.getLast? ≠ some '\''

/-- The escape of a character between double quotes. -/
def escape (lines : Bool) (c : Char) : List Char :=
  if c = '\x08' then ['\\', 'b']
  else if c = '\t' then ['\\', 't']
  else if c = '\n' then if lines then [c] else ['\\', 'n']
  else if c = '\x0c' then ['\\', 'f']
  else if c = '\r' then ['\\', 'r']
  else if c = '\"' then ['\\', '\"']
  else if c = '\\' then ['\\', '\\']
  else if c.toNat < 0x20 || c.toNat = 0x7F then
    ['\\', 'u', '0', '0', (Nat.digitChar (c.toNat / 16)).toUpper,
      (Nat.digitChar (c.toNat % 16)).toUpper]
  else [c]

/-- A text with its quotes. -/
def quote (s : String) : String :=
  let cs := s.toList
  let lines := cs.contains '\n'
  if isLiteral cs then
    if lines then "'''\n" ++ s ++ "'''"
    else if cs.contains '\'' then "'''" ++ s ++ "'''"
    else "'" ++ s ++ "'"
  else
    let body := String.ofList (cs.flatMap (escape lines))
    if lines then "\"\"\"\n" ++ body ++ "\"\"\"" else "\"" ++ body ++ "\""

/-- A leaf, unless it is null. -/
def writeScalar : Scalar → Option String
  | .bool b => some (if b then "true" else "false")
  | .int n => some (toString n)
  | .float x => some (x.write layout)
  | .text s => some (quote s)
  | .plain s => some (quote s)
  | .literal s => some (quote s)
  | .null => none
  | .unreadable => none

/-- The pairs of a record without tables in it. -/
def pairs (entries : List (String × Scalar)) : String :=
  String.join (entries.filterMap fun (k, s) => (writeScalar s).map fun t => k ++ " = " ++ t ++ "\n")

end VmMonitor.Toml
