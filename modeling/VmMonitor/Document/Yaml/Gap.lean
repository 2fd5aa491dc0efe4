import VmMonitor.Document.Yaml.Place

/-!
# Gaps between words

The blanks and line breaks inside a scalar that may take several lines. On one line the blanks
count as they are. Over lines they do not: one line feed counts as a blank, further breaks count
instead of it, and a separator of lines or paragraphs counts in any case.
-/

namespace VmMonitor.Yaml

/-- What was passed between two words. -/
structure Gap where
  /-- The blanks in front of the first break, in reverse. -/
  blanks : List Char := []
  /-- Whether there was a break. -/
  isBroken : Bool := false
  /-- The first break, unless it was escaped. -/
  first : Option Char := none
  /-- The breaks behind the first one, in reverse. -/
  further : List Char := []

namespace Gap

/-- Nothing, so far. -/
def none : Gap := {}

/-- An escaped line break. -/
def escaped : Gap := { isBroken := true }

/-- The gap with a blank behind it. -/
def addBlank (g : Gap) (c : Char) : Gap := if g.isBroken then g else { g with blanks := c :: g.blanks }

/-- The gap with a line break behind it. -/
def addBreak (g : Gap) (c : Char) : Gap :=
  if g.isBroken then { g with further := c :: g.further }
  else { isBroken := true, first := some c }

/-- What the gap counts as, in reverse. -/
def reversed (g : Gap) : List Char :=
  if g.isBroken then
    match g.first with
    | some '\n' => if g.further.isEmpty then [' '] else g.further
    | some c => g.further ++ [c]
    | .none => g.further
  else g.blanks

/-- Passes over blanks and breaks. After a break no tab may stand in a column before `least`. -/
def read (least : Nat) : Nat → Gap → Place → Option (Gap × Place)
  | 0, _, _ => .none
  | fuel + 1, g, p =>
    match p.rest with
    | c :: _ =>
      if isBlank c then
        if g.isBroken && p.column < least && c = '\t' then .none
        else read least fuel (g.addBlank c) (p.skip 1)
      else match p.lineBreak? with
        | some (b, p) => read least fuel (g.addBreak b) p
        | .none => some (g, p)
    | [] => some (g, p)

end Gap

end VmMonitor.Yaml
