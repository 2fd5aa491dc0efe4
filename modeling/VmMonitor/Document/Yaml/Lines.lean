import VmMonitor.Document.Yaml.Place

/-!
# Block scalars

A scalar that takes whole lines. Its header says whether its line breaks are kept or folded, what
becomes of the breaks at its end, and perhaps its indentation, which its first line with text gives
otherwise.
-/

namespace VmMonitor.Yaml.Lines

/-- How the line breaks at the end are treated: one is kept, none, or all. -/
inductive Chomp
  | clip
  | strip
  | keep
  deriving DecidableEq, Repr

/-- The indicators behind `|` or `>`: chomping and the indentation. -/
structure Header where
  chomp : Chomp := .clip
  indent : Option Nat := none

/-- A sign for chomping. -/
def chomp? : Option Char → Option Chomp
  | some '+' => some .keep
  | some '-' => some .strip
  | _ => none

/-- A header behind its first character, each indicator at most once in either order. An
indentation of zero is an error. -/
def header? (p : Place) : Option (Header × Place) :=
  let digit (p : Place) : Option Nat := p.rest.head? >>= digitValue? 10
  let indented (h : Header) (p : Place) : Option (Header × Place) :=
    match digit p with
    | some 0 => none
    | some n => some ({ h with indent := some n }, p.skip 1)
    | none => some (h, p)
  match chomp? p.rest.head? with
  | some chomp => indented { chomp } (p.skip 1)
  | none => do
    let (h, p) ← indented {} p
    match h.indent, chomp? p.rest.head? with
    | some _, some chomp => some ({ h with chomp }, p.skip 1)
    | _, _ => some (h, p)

/-- Passes over lines without text; gives their breaks, reversed onto `breaks`, and the greatest
column that their blanks reach. Only blanks before the column of the indentation are passed, and a
tab among them is an error. -/
def skipEmpty (indent : Option Nat) :
    Nat → List Char → Nat → Place → Option (List Char × Nat × Place)
  | 0, _, _, _ => none
  | fuel + 1, breaks, reach, p =>
    let before (p : Place) : Bool := indent.all (p.column < ·)
    let blanks := (p.rest.takeWhile (· = ' ')).length
    let p := p.skip (match indent with | some n => min blanks (n - p.column) | none => blanks)
    let reach := max reach p.column
    if before p && p.rest.head? = some '\t' then none
    else match p.lineBreak? with
      | some (b, p) => skipEmpty indent fuel (b :: breaks) reach p
      | none => some (breaks, reach, p)

/-- The lines of text at an indentation, reversed onto `acc`. In front of them stand the break of
the last line with text, if there was one, and those of the empty lines behind it; `starts` says
whether that line started with a blank. -/
def readOnto (folded : Bool) (chomp : Chomp) (indent : Nat) :
    Nat → List Char → Option Char → List Char → Bool → Place → Option (String × Place)
  | 0, _, _, _, _, _ => none
  | fuel + 1, acc, last, empty, starts, p =>
    if p.column = indent && !p.rest.isEmpty then
      let indented := p.rest.head?.any isBlank
      let between :=
        if folded && last = some '\n' && !starts && !indented then
          if empty.isEmpty then [' '] else empty
        else empty ++ last.toList
      let (line, p) := p.span fun c => !isBreak c
      let acc := line.reverse ++ (between ++ acc)
      let (last, p) := match p.lineBreak? with
        | some (b, p) => (some b, p)
        | none => (none, p)
      match skipEmpty (some indent) (p.size + 1) [] 0 p with
      | some (empty, _, p) => readOnto folded chomp indent fuel acc last empty indented p
      | none => none
    else
      let acc := if chomp = .strip then acc else last.toList ++ acc
      let acc := if chomp = .keep then empty ++ acc else acc
      some (String.ofList acc.reverse, p)

/-- The block scalar whose header starts here, and the place behind it. The lines of the node around
it start before column `least`. -/
def read? (folded : Bool) (least : Nat) (p : Place) : Option (String × Place) := do
  let (h, p) ← header? (p.skip 1)
  let p ← p.endLine?
  let explicit := h.indent.map fun n => if least = 0 then n else least - 1 + n
  let (empty, reach, p) ← skipEmpty explicit (p.size + 1) [] 0 p
  let indent := explicit.getD (max (max reach least) 1)
  readOnto folded h.chomp indent (p.size + 1) [] none empty false p

end VmMonitor.Yaml.Lines
