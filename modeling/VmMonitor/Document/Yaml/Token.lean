import VmMonitor.Document
import VmMonitor.Document.Yaml.Bare
import VmMonitor.Document.Yaml.Lines
import VmMonitor.Document.Yaml.Property
import VmMonitor.Document.Yaml.Quoted

/-!
# Tokens of a YAML text

A text is cut into tokens from left to right. Block lists and tables are opened and closed by
indentation. Whether a node is a key shows only when a colon follows it: until then the place of the
node is kept as a candidate, one for every open bracket, and the token for the key is put in front
of the node later. A candidate has to stand on one line, within 1024 bytes of the colon.
-/

namespace VmMonitor.Yaml

/-- A token. -/
inductive Token
  | directive (d : Property.Directive)
  | documentStart
  | documentEnd
  /-- A block list is opened. -/
  | blockList
  /-- A block table is opened. -/
  | blockTable
  | blockEnd
  | openList
  | closeList
  | openTable
  | closeTable
  | comma
  | dash
  | key
  | value
  | alias (name : String)
  | anchor (name : String)
  | tag (handle text : String)
  | scalar (s : Scalar)
  deriving Repr

/-- A node that becomes a key if a colon follows it. -/
structure Candidate where
  /-- How many tokens stand in front of it. -/
  number : Nat
  index : Nat
  line : Nat
  column : Nat
  /-- It stands where a block table needs a key. -/
  isRequired : Bool
  deriving Repr

/-- A text that is cut into tokens up to a place. -/
structure Scan where
  place : Place
  /-- The tokens so far, latest first. -/
  tokens : List Token := []
  count : Nat := 0
  /-- The columns of the open block nodes, innermost first. -/
  indents : List Nat := []
  /-- The candidates inside the open brackets, innermost first, and the one outside of all. -/
  candidates : List (Option Candidate) := [none]
  /-- Whether a candidate may start here. -/
  admitsKey : Bool := true

namespace Scan

/-- Whether a bracket is open. -/
def inFlow (s : Scan) : Bool := s.candidates.length ≠ 1

/-- The first column inside the innermost block node. -/
def least (s : Scan) : Nat :=
  match s.indents with
  | [] => 0
  | n :: _ => n + 1

/-- Adds a token. -/
def add (s : Scan) (t : Token) : Scan := { s with tokens := t :: s.tokens, count := s.count + 1 }

/-- Puts a token behind the first `number` ones. -/
def insert (s : Scan) (number : Nat) (t : Token) : Scan :=
  { s with tokens := s.tokens.insertIdx (s.count - number) t, count := s.count + 1 }

/-- Moves on to a place behind a token. -/
def moved (s : Scan) (p : Place) (t : Token) : Scan := { s with place := p }.add t

/-! ### Indentation and candidates -/

/-- Opens a block node at a column, if it is inside the innermost one; its token comes behind the
first `number` ones. -/
def indent (s : Scan) (column number : Nat) (t : Token) : Scan :=
  if !s.inFlow && s.least ≤ column then
    { s with indents := column :: s.indents }.insert number t
  else s

/-- Closes the block nodes that start at a column or behind it. -/
def dedent (s : Scan) (column : Nat) : Scan :=
  if s.inFlow then s
  else
    let closed := (s.indents.takeWhile (column ≤ ·)).length
    { s with
      indents := s.indents.drop closed
      tokens := List.replicate closed .blockEnd ++ s.tokens
      count := s.count + closed }

/-- Gives up the innermost candidate, unless it is required. -/
def dropCandidate (s : Scan) : Option Scan :=
  match s.candidates with
  | some c :: outer => if c.isRequired then none else some { s with candidates := none :: outer }
  | _ => some s

/-- Takes the node that starts here as a candidate, where one may start. -/
def addCandidate (s : Scan) : Option Scan := do
  if s.admitsKey then
    let s ← s.dropCandidate
    let p := s.place
    let c : Candidate :=
      { number := s.count, index := p.index, line := p.line, column := p.column
        isRequired := !s.inFlow && s.indents.head? = some p.column }
    some { s with candidates := some c :: s.candidates.drop 1 }
  else some s

/-- Gives up the candidates that are on an earlier line or too far back, unless one is required. -/
def expire (s : Scan) : Option Scan := do
  let expired (c : Candidate) : Bool :=
    c.line < s.place.line || c.index + 1024 < s.place.index
  let candidates ← s.candidates.mapM fun
    | some c =>
      if !expired c then some (some c) else if c.isRequired then none else some none
    | none => some none
  some { s with candidates }

/-! ### Single tokens -/

/-- Passes over blanks, comments and line breaks. A tab is no blank where a key may start in a block
node; a line break lets a key start there. -/
def skipGap : Nat → Scan → Scan
  | 0, s => s
  | fuel + 1, s =>
    let p := s.place
    let p := if p.index = 0 && p.rest.head? = some byteOrderMark then p.skip 1 else p
    let p := p.skipWhile fun c => c = ' ' || (c = '\t' && (s.inFlow || !s.admitsKey))
    match p.skipComment.lineBreak? with
    | some (_, p) => skipGap fuel { s with place := p, admitsKey := s.admitsKey || !s.inFlow }
    | none => { s with place := p.skipComment }

/-- Leaves all block nodes, as in front of a directive or a marker. -/
def leave (s : Scan) : Option Scan := do
  let s ← (s.dedent 0).dropCandidate
  some { s with admitsKey := false }

/-- An opening bracket. -/
def enter (s : Scan) (t : Token) : Option Scan := do
  let s ← s.addCandidate
  some <| { s with candidates := none :: s.candidates, admitsKey := true }.moved (s.place.skip 1) t

/-- A closing bracket. -/
def exit (s : Scan) (t : Token) : Option Scan := do
  let s ← s.dropCandidate
  let candidates := if s.inFlow then s.candidates.drop 1 else s.candidates
  some <| { s with candidates, admitsKey := false }.moved (s.place.skip 1) t

/-- A comma. -/
def separate (s : Scan) : Option Scan := do
  let s ← s.dropCandidate
  some <| { s with admitsKey := true }.moved (s.place.skip 1) .comma

/-- A dash or a question mark, which opens a block node of its kind in its column. -/
def begin (s : Scan) (node t : Token) (admitsKey : Bool) : Option Scan := do
  if !s.inFlow && !s.admitsKey then none
  else
    let s ← (s.indent s.place.column s.count node).dropCandidate
    some <| { s with admitsKey }.moved (s.place.skip 1) t

/-- A colon: behind a candidate it makes a key of it, elsewhere the key is left out. -/
def colon (s : Scan) : Option Scan :=
  let p := s.place
  match s.candidates with
  | some c :: outer =>
    let s := (s.insert c.number .key).indent c.column c.number .blockTable
    some <| { s with candidates := none :: outer, admitsKey := false }.moved (p.skip 1) .value
  | _ =>
    if s.inFlow then some <| { s with admitsKey := false }.moved (p.skip 1) .value
    else if s.admitsKey then
      some <| (s.indent p.column s.count .blockTable).moved (p.skip 1) .value
    else none

/-- A token that may start a key on its line. -/
def leaf (s : Scan) (read : Place → Option (Token × Place)) : Option Scan := do
  let s ← s.addCandidate
  let (t, p) ← read s.place
  some <| { s with admitsKey := false }.moved p t

/-- A plain scalar; if it takes up the end of its line, a key may follow. -/
def bare (s : Scan) : Option Scan := do
  let s ← s.addCandidate
  let r ← Bare.read? s.inFlow s.least s.place
  some <| { s with admitsKey := r.endsLine }.moved r.place (.scalar (.plain r.text))

/-- A block scalar. -/
def block (s : Scan) (folded : Bool) : Option Scan := do
  let s ← s.dropCandidate
  let (text, p) ← Lines.read? folded s.least s.place
  some <| { s with admitsKey := true }.moved p (.scalar (if folded then .text text else .literal text))

/-- The token that starts with a character; `rest` follows it. -/
def next (s : Scan) (c : Char) (rest : List Char) : Option Scan :=
  let p := s.place
  let alone := blankNext rest
  if p.column = 0 && c = '%' then do
    let s ← s.leave
    let (d, p) ← Property.directive? p
    some (s.moved p (.directive d))
  else if p.isAtMarker '-' then s.leave.map fun s => s.moved (p.skip 3) .documentStart
  else if p.isAtMarker '.' then s.leave.map fun s => s.moved (p.skip 3) .documentEnd
  else if c = '[' then s.enter .openList
  else if c = '{' then s.enter .openTable
  else if c = ']' then s.exit .closeList
  else if c = '}' then s.exit .closeTable
  else if c = ',' then s.separate
  else if c = '-' && alone then s.begin .blockList .dash true
  else if c = '?' && (s.inFlow || alone) then s.begin .blockTable .key !s.inFlow
  else if c = ':' && (s.inFlow || alone) then s.colon
  else if c = '*' then s.leaf fun p => (Property.name? p).map fun (n, p) => (.alias n, p)
  else if c = '&' then s.leaf fun p => (Property.name? p).map fun (n, p) => (.anchor n, p)
  else if c = '!' then
    s.leaf fun p => (Property.tag? s.inFlow p).map fun ((handle, text), p) => (.tag handle text, p)
  else if (c = '|' || c = '>') && !s.inFlow then s.block (c = '>')
  else if c = '\'' || c = '\"' then
    s.leaf fun p => (Quoted.read? p).map fun (t, p) => (.scalar (.text t), p)
  else if Bare.startsWith s.inFlow (c :: rest) then s.bare
  else none

/-- The tokens of a text from here on. -/
def run : Nat → Scan → Option (List Token)
  | 0, _ => none
  | fuel + 1, s => do
    let s ← (s.skipGap (s.place.size + 1)).expire
    let s := s.dedent (s.place.column + 1)
    match s.place.rest with
    | [] => s.leave.map fun s => s.tokens.reverse
    | c :: rest =>
      let s ← s.next c rest
      run fuel s

end Scan

/-- The tokens of a text; `none` if it cannot be cut. -/
def Token.ofText? (cs : List Char) : Option (List Token) :=
  if cs.all isAllowed then Scan.run (cs.length + 1) { place := .start cs } else none

end VmMonitor.Yaml
