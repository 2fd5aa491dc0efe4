import VmMonitor.Document
import VmMonitor.Text.Numeral

/-!
# Documents as JSON

Reading is strict: no trailing comma, no comment, no leading zero, no control character inside a
string, nothing but blanks after the document. A number is whole if it has neither point nor
exponent and fits sixty-four bits, with or without a sign; any other number is floating-point.
Writing comes compact and in indented lines.
-/

namespace VmMonitor.Json

/-- Blanks between tokens. -/
def isBlank (c : Char) : Bool := c = ' ' || c = '\n' || c = '\t' || c = '\r'

def skipBlanks (cs : List Char) : List Char := cs.dropWhile isBlank

/-! ### Numbers -/

/-- Ten to a power of at most 308, rounded once. -/
def powerOfTen (e : Nat) : Float := OfScientific.ofScientific 1 false e

/-- Scales a number by a power of ten, dividing by `10 ^ 308` as long as the power is smaller than
that; `none` if the result is out of range. Every step rounds. -/
def scale : Nat → Float → Int → Option Float
  | 0, f, _ => some f
  | fuel + 1, f, e =>
    match e with
    | .ofNat n =>
      if n ≤ 308 then
        let g := f * powerOfTen n
        if g.isInf then none else some g
      else if f == 0.0 then some f else none
    | .negSucc n =>
      if n + 1 ≤ 308 then some (f / powerOfTen (n + 1))
      else if f == 0.0 then some f
      else scale fuel (f / powerOfTen 308) (e + 308)

/-- The leading digits that fit sixty-four bits, and how many digits were left over. -/
def leading : Nat → List Char → Nat × Nat
  | n, [] => (n, 0)
  | n, c :: cs =>
    let next := n * 10 + (c.toNat - '0'.toNat)
    if next < twoTo 64 then leading next cs else (n, (c :: cs).length)

/-- The floating-point number with these digits before and after the point. Digits beyond
sixty-four bits only move the point. -/
def floating (negative : Bool) (whole fraction : List Char) (exponent : Int) : Scalar :=
  let (mantissa, dropped) := leading 0 whole
  let (mantissa, power) :=
    if dropped = 0 then
      let (m, lost) := leading mantissa fraction
      (m, ((lost : Int) - fraction.length))
    else
      let (m, lost) := leading mantissa fraction
      (m, (dropped : Int) + ((lost : Int) - fraction.length))
  let f : Float := OfScientific.ofScientific mantissa false 0
  if twoTo 31 ≤ exponent.natAbs ∧ (mantissa = 0 ∨ exponent < 0) then
    .float (Binary64.ofFloat (if negative then -0.0 else 0.0))
  else match scale 8 f (max (-2000) (min 2000 (power + exponent))) with
    | some g => .float (Binary64.ofFloat (if negative then -g else g))
    | none => .unreadable

/-- The number with these digits and nothing after them; zero with a sign is floating-point. -/
def whole (negative : Bool) (digits : List Char) : Scalar :=
  match readDigits? 10 digits with
  | none => .unreadable
  | some n =>
    if negative then
      if 0 < n ∧ n ≤ twoTo 63 then .int (-(n : Int)) else floating true digits [] 0
    else if n < twoTo 64 then .int n
    else floating false digits [] 0

/-- A number at the head of the text. -/
def readNumber (cs : List Char) : Option (Scalar × List Char) := do
  let (negative, cs) := match cs with
    | '-' :: r => (true, r)
    | r => (false, r)
  let digits := cs.takeWhile isDigit
  let rest := cs.dropWhile isDigit
  if digits.isEmpty || (digits.head? = some '0' && 1 < digits.length) then none
  else
    let (fraction, afterPoint, pointed) := match rest with
      | '.' :: r => (r.takeWhile isDigit, r.dropWhile isDigit, true)
      | r => ([], r, false)
    if pointed && fraction.isEmpty then none
    else
      let scientific (r : List Char) : Option (Scalar × List Char) :=
        let (down, r) := match r with
          | '-' :: t => (true, t)
          | '+' :: t => (false, t)
          | t => (false, t)
        let power := r.takeWhile isDigit
        match readDigits? 10 power with
        | none => none
        | some p =>
          let exponent : Int := if down then -(p : Int) else p
          some (floating negative digits fraction exponent, r.dropWhile isDigit)
      match afterPoint with
      | 'e' :: r => scientific r
      | 'E' :: r => scientific r
      | r =>
        if pointed then some (floating negative digits fraction 0, r)
        else some (whole negative digits, r)

/-! ### Strings -/

/-- Four hexadecimal digits at the head of the text. -/
def readHex4 : List Char → Option (Nat × List Char)
  | a :: b :: c :: d :: r => (readDigits? 16 [a, b, c, d]).map fun n => (n, r)
  | _ => none

/-- One escape after its backslash: `none` if it is malformed, no character if it is half of a
surrogate pair. -/
def readEscape : List Char → Option (Option Char × List Char)
  | '\"' :: r => some (some '\"', r)
  | '\\' :: r => some (some '\\', r)
  | '/' :: r => some (some '/', r)
  | 'b' :: r => some (some '\x08', r)
  | 'f' :: r => some (some '\x0c', r)
  | 'n' :: r => some (some '\n', r)
  | 'r' :: r => some (some '\r', r)
  | 't' :: r => some (some '\t', r)
  | 'u' :: r => do
    let (high, rest) ← readHex4 r
    if high < 0xD800 || 0xDFFF < high then some (some (Char.ofNat high), rest)
    else if 0xDC00 ≤ high then some (none, rest)
    else
      match rest with
      | '\\' :: 'u' :: r2 =>
        match readHex4 r2 with
        | some (low, rest2) =>
          if 0xDC00 ≤ low && low ≤ 0xDFFF then
            some (some (Char.ofNat (0x10000 + (high - 0xD800) * 0x400 + (low - 0xDC00))), rest2)
          else some (none, rest)
        | none => none
      | _ => some (none, rest)
  | _ => none

/-- The characters of a string after its opening quote, in reverse onto `acc`, with whether all of
its escapes stand for characters. -/
def readString : Nat → List Char → List Char → Bool → Option (Scalar × List Char)
  | 0, _, _, _ => none
  | fuel + 1, cs, acc, good =>
    match cs with
    | [] => none
    | '\"' :: r => some (if good then .text (String.ofList acc.reverse) else .unreadable, r)
    | '\\' :: r =>
      match readEscape r with
      | some (some c, rest) => readString fuel rest (c :: acc) good
      | some (none, rest) => readString fuel rest acc false
      | none => none
    | c :: r => if c.toNat < 0x20 then none else readString fuel r (c :: acc) good

/-! ### Values -/

/-- Drops a fixed word from the head of the text. -/
def dropWord (word : String) (cs : List Char) : Option (List Char) :=
  if word.toList.isPrefixOf cs then some (cs.drop word.length) else none

mutual

/-- A value at the head of the text. -/
def readValue : Nat → List Char → Option (Doc × List Char)
  | 0, _ => none
  | fuel + 1, cs =>
    match skipBlanks cs with
    | '\"' :: r => (readString fuel r [] true).map fun (s, rest) => (.scalar s, rest)
    | '[' :: r =>
      match skipBlanks r with
      | ']' :: rest => some (.list [], rest)
      | r => (readItems fuel r).map fun (items, rest) => (.list items, rest)
    | '{' :: r =>
      match skipBlanks r with
      | '}' :: rest => some (.table [], rest)
      | r => (readEntries fuel r).map fun (entries, rest) => (.table entries, rest)
    | 'n' :: r => (dropWord "ull" r).map fun rest => (.null, rest)
    | 't' :: r => (dropWord "rue" r).map fun rest => (.bool true, rest)
    | 'f' :: r => (dropWord "alse" r).map fun rest => (.bool false, rest)
    | r => (readNumber r).map fun (s, rest) => (.scalar s, rest)

/-- The items of a list up to its closing bracket; there is at least one. -/
def readItems : Nat → List Char → Option (List Doc × List Char)
  | 0, _ => none
  | fuel + 1, cs => do
    let (d, rest) ← readValue fuel cs
    match skipBlanks rest with
    | ',' :: r =>
      let (ds, rest) ← readItems fuel r
      some (d :: ds, rest)
    | ']' :: r => some ([d], r)
    | _ => none

/-- The entries of a table up to its closing brace; there is at least one. -/
def readEntries : Nat → List Char → Option (List (Doc × Doc) × List Char)
  | 0, _ => none
  | fuel + 1, cs =>
    match skipBlanks cs with
    | '\"' :: r => do
      let (key, rest) ← readString fuel r [] true
      match skipBlanks rest with
      | ':' :: r => do
        let (d, rest) ← readValue fuel r
        match skipBlanks rest with
        | ',' :: r =>
          let (es, rest) ← readEntries fuel r
          some ((.scalar key, d) :: es, rest)
        | '}' :: r => some ([(.scalar key, d)], r)
        | _ => none
      | _ => none
    | _ => none

end

/-- Reads a document; `none` if the text is not JSON. -/
def read (s : String) : Option Doc := do
  let cs := s.toList
  let (d, rest) ← readValue (2 * cs.length + 2) cs
  if (skipBlanks rest).isEmpty then some d else none

/-- How deep lists and tables are nested at most. -/
def depthLimit : Nat := 127

/-! ### Writing -/

/-- Numbers from `0.00001` up to sixteen whole digits are written without an exponent, which has a
sign; what is no finite number is written as null. -/
def layout : Binary64.Layout := ⟨some 16, some (-4), true, "null", "null", "null"⟩

/-- The escape of a character, if it has one. -/
def escape (c : Char) : List Char :=
  if c = '\"' then ['\\', '\"']
  else if c = '\\' then ['\\', '\\']
  else if c = '\n' then ['\\', 'n']
  else if c = '\r' then ['\\', 'r']
  else if c = '\t' then ['\\', 't']
  else if c = '\x08' then ['\\', 'b']
  else if c = '\x0c' then ['\\', 'f']
  else if c.toNat < 0x20 then
    ['\\', 'u', '0', '0', Nat.digitChar (c.toNat / 16), Nat.digitChar (c.toNat % 16)]
  else [c]

/-- A string in quotes. -/
def quote (s : String) : String := String.ofList ('\"' :: (s.toList.flatMap escape ++ ['\"']))

/-- A leaf. -/
def writeScalar : Scalar → String
  | .null => "null"
  | .bool b => if b then "true" else "false"
  | .int n => toString n
  | .float x => x.write layout
  | .text s => quote s
  | .plain s => quote s
  | .literal s => quote s
  | .unreadable => "null"

/-- A key, which is always written as a string; one that is no leaf has no name. -/
def writeKey (key : Doc) : String :=
  match key.untagged with
  | .scalar (.text s) => quote s
  | .scalar (.plain s) => quote s
  | .scalar (.literal s) => quote s
  | .scalar s => quote (writeScalar s)
  | _ => quote ""

mutual

/-- A document on one line without blanks. -/
def compact : Doc → String
  | .scalar s => writeScalar s
  | .list items => "[" ++ String.intercalate "," (compactItems items) ++ "]"
  | .table entries => "\x7b" ++ String.intercalate "," (compactEntries entries) ++ "\x7d"
  | .tagged tag d => "\x7b" ++ quote tag ++ ":" ++ compact d ++ "\x7d"

def compactItems : List Doc → List String
  | [] => []
  | d :: ds => compact d :: compactItems ds

def compactEntries : List (Doc × Doc) → List String
  | [] => []
  | (k, d) :: es => (writeKey k ++ ":" ++ compact d) :: compactEntries es

end

/-- `n` levels of indentation, two blanks each. -/
def indent (n : Nat) : String := String.ofList (List.replicate (2 * n) ' ')

/-- Wraps written members in brackets, one to a line. -/
def bracket (opening closing : String) (level : Nat) : List String → String
  | [] => opening ++ closing
  | members =>
    opening ++ "\n"
      ++ String.intercalate ",\n" (members.map fun m => indent (level + 1) ++ m)
      ++ "\n" ++ indent level ++ closing

mutual

/-- A document in indented lines. -/
def pretty (level : Nat) : Doc → String
  | .scalar s => writeScalar s
  | .list items => bracket "[" "]" level (prettyItems (level + 1) items)
  | .table entries => bracket "\x7b" "\x7d" level (prettyEntries (level + 1) entries)
  | .tagged tag d =>
    bracket "\x7b" "\x7d" level [quote tag ++ ": " ++ pretty (level + 1) d]

def prettyItems (level : Nat) : List Doc → List String
  | [] => []
  | d :: ds => pretty level d :: prettyItems level ds

def prettyEntries (level : Nat) : List (Doc × Doc) → List String
  | [] => []
  | (k, d) :: es => (writeKey k ++ ": " ++ pretty level d) :: prettyEntries level es

end

end VmMonitor.Json
