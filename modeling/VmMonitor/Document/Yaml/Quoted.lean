import VmMonitor.Document.Yaml.Gap

/-!
# Quoted scalars

Between single quotes only the quote itself is special, and is written twice. Between double quotes
a backslash starts an escape; in front of a line break it takes the break away.
-/

namespace VmMonitor.Yaml.Quoted

/-- The character of a hexadecimal escape of `n` digits. -/
def hexEscape? (n : Nat) (p : Place) : Option (Char × Place) := do
  let digits := p.rest.take n
  let code ← readDigits? 16 digits
  if digits.length = n && code.isValidChar then some (Char.ofNat code, p.skip n) else none

/-- The character of an escape behind its backslash. -/
def escape? (p : Place) : Option (Char × Place) :=
  let is (c : Char) : Option (Char × Place) := some (c, p.skip 1)
  match p.rest.head? with
  | some '0' => is '\x00'
  | some 'a' => is '\x07'
  | some 'b' => is '\x08'
  | some 't' => is '\t'
  | some '\t' => is '\t'
  | some 'n' => is '\n'
  | some 'v' => is '\x0b'
  | some 'f' => is '\x0c'
  | some 'r' => is '\r'
  | some 'e' => is '\x1b'
  | some ' ' => is ' '
  | some '\"' => is '\"'
  | some '/' => is '/'
  | some '\\' => is '\\'
  | some 'N' => is (Char.ofNat 0x85)
  | some '_' => is (Char.ofNat 0xA0)
  | some 'L' => is (Char.ofNat 0x2028)
  | some 'P' => is (Char.ofNat 0x2029)
  | some 'x' => hexEscape? 2 (p.skip 1)
  | some 'u' => hexEscape? 4 (p.skip 1)
  | some 'U' => hexEscape? 8 (p.skip 1)
  | _ => none

/-- The characters of a scalar up to its closing quote, reversed onto `acc`. No document may start
or end inside it. -/
def readOnto (quote : Char) : Nat → List Char → Place → Option (String × Place)
  | 0, _, _ => none
  | fuel + 1, acc, p =>
    let across (g : Gap) (p : Place) : Option (String × Place) := do
      let (g, p) ← g.read 0 (p.size + 1) p
      readOnto quote fuel (g.reversed ++ acc) p
    if p.isAtDocument then none
    else match p.rest with
      | [] => none
      | c :: r =>
        if isBlank c || isBreak c then across .none p
        else if c = quote then
          if quote = '\'' && r.head? = some '\'' then readOnto quote fuel (c :: acc) (p.skip 2)
          else some (String.ofList acc.reverse, p.skip 1)
        else if c = '\\' && quote = '\"' then
          match (p.skip 1).lineBreak? with
          | some (_, p) => across .escaped p
          | none => do
            let (c, p) ← escape? (p.skip 1)
            readOnto quote fuel (c :: acc) p
        else readOnto quote fuel (c :: acc) (p.skip 1)

/-- The quoted scalar that starts here, and the place behind it. -/
def read? (p : Place) : Option (String × Place) := do
  readOnto (← p.rest.head?) (p.size + 1) [] (p.skip 1)

end VmMonitor.Yaml.Quoted
