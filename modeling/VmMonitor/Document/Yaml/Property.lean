import VmMonitor.Document.Yaml.Place

/-!
# Names, tags and directives

What stands in front of a node: the name of an anchor, and a tag, which is spelled in full between
angle brackets or starts with a handle. A directive at the head of a document gives the version or
the meaning of a handle.
-/

namespace VmMonitor.Yaml.Property

/-- The name of an anchor or an alias behind its indicator. -/
def name? (p : Place) : Option (String × Place) :=
  let (name, q) := (p.skip 1).span isWordChar
  let ends := blankNext q.rest || q.rest.head?.any fun c => "?:,]\x7d%@`".toList.contains c
  if !name.isEmpty && ends then some (String.ofList name, q) else none

/-! ### Tags -/

/-- Characters of a tag; the spelling in full, which is wider, may also hold brackets and commas. -/
def isTagChar (wide : Bool) (c : Char) : Bool :=
  isWordChar c || ";/?:@&=+$.!~*'()".toList.contains c
    || (wide && (c = ',' || c = '[' || c = ']'))

/-- An octet in hexadecimal digits behind a percent sign. -/
def octet? (p : Place) : Option (Nat × Place) :=
  match p.rest with
  | '%' :: a :: b :: _ => (readDigits? 16 [a, b]).map fun n => (n, p.skip 3)
  | _ => none

/-- Reads `n` further octets of a character onto its code. -/
def octetsOnto? : Nat → Nat → Place → Option (Nat × Place)
  | 0, code, p => some (code, p)
  | n + 1, code, p => do
    let (octet, p) ← octet? p
    if octet / 64 = 2 then octetsOnto? n (code * 64 + octet % 64) p else none

/-- A character that is written as the octets of its UTF-8 form. -/
def escape? (p : Place) : Option (Char × Place) := do
  let (octet, p) ← octet? p
  let (code, p) ←
    if octet < 0x80 then some (octet, p)
    else if octet / 32 = 6 then octetsOnto? 1 (octet % 32) p
    else if octet / 16 = 14 then octetsOnto? 2 (octet % 16) p
    else if octet / 8 = 30 then octetsOnto? 3 (octet % 8) p
    else none
  some (if code.isValidChar then Char.ofNat code else Char.ofNat 0xFFFD, p)

/-- The characters of a tag from here on, onto the reversed `acc`. -/
def tagOnto? (wide : Bool) : Nat → List Char → Place → Option (String × Place)
  | 0, _, _ => none
  | fuel + 1, acc, p =>
    match p.rest.head? with
    | some '%' => do
      let (c, p) ← escape? p
      tagOnto? wide fuel (c :: acc) p
    | c? =>
      if c?.any (isTagChar wide) then tagOnto? wide fuel (c?.toList ++ acc) (p.skip 1)
      else some (String.ofList acc.reverse, p)

/-- A part of a tag with at least one character. -/
def tagText? (wide : Bool) (p : Place) : Option (String × Place) := do
  let (text, p) ← tagOnto? wide (p.size + 1) [] p
  if text.isEmpty then none else some (text, p)

/-- A handle between two exclamation marks, which may be the same one if `short` admits it. -/
def handle? (short : Bool) (p : Place) : Option (String × Place) :=
  match p.rest with
  | '!' :: _ =>
    let (name, q) := (p.skip 1).span isWordChar
    if q.rest.head? = some '!' then some ("!" ++ String.ofList name ++ "!", q.skip 1)
    else if short && name.isEmpty then some ("!", q)
    else none
  | _ => none

/-- A tag as a handle and what is added to its meaning; without a handle the tag is spelled in full.
The exclamation mark alone is spelled in full. A blank follows, or a comma in a flow node. -/
def tag? (flow : Bool) (p : Place) : Option ((String × String) × Place) := do
  let (tag, q) ←
    match p.rest with
    | '!' :: '<' :: _ => do
      let (text, q) ← tagText? true (p.skip 2)
      if q.rest.head? = some '>' then some (("", text), q.skip 1) else none
    | _ =>
      match handle? false p with
      | some (handle, q) => do
        let (text, q) ← tagText? false q
        some ((handle, text), q)
      | none => do
        let (text, q) ← tagOnto? false (p.size + 1) [] (p.skip 1)
        some (if text.isEmpty then ("", "!") else ("!", text), q)
  if blankNext q.rest || (flow && q.rest.head? = some ',') then some (tag, q) else none

/-! ### Directives -/

/-- A directive: the version of the format, or the meaning of a handle. -/
inductive Directive
  | version (major minor : Nat)
  | handle (name meaning : String)
  deriving DecidableEq, Repr

/-- A part of a version, of at most nine digits. -/
def number? (p : Place) : Option (Nat × Place) :=
  let (digits, q) := p.span isDigit
  if digits.length ≤ 9 then (readDigits? 10 digits).map fun n => (n, q) else none

/-- The directive on this line behind its percent sign, and the place behind the line. -/
def directive? (p : Place) : Option (Directive × Place) := do
  let (name, q) := (p.skip 1).span isWordChar
  let start := q.skipWhile isBlank
  let (directive, q) ←
    match blankNext q.rest, String.ofList name with
    | true, "YAML" => do
      let (major, q) ← number? start
      let (minor, q) ← if q.rest.head? = some '.' then number? (q.skip 1) else none
      some (Directive.version major minor, q)
    | true, "TAG" => do
      let (handle, q) ← handle? true start
      let (meaning, q) ←
        if q.rest.head?.any isBlank then tagText? true (q.skipWhile isBlank) else none
      if blankNext q.rest then some (Directive.handle handle meaning, q) else none
    | _, _ => none
  let q ← q.endLine?
  some (directive, q)

end VmMonitor.Yaml.Property
