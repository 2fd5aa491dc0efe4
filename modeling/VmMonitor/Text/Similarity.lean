/-!
# Similarity of words

The Jaro similarity. Two characters match if they are equal and their places are not too far apart;
no character matches twice. The similarity grows with the number of matches and shrinks with the
matches that stand in a different order.
-/

namespace VmMonitor

namespace Similarity

/-- Takes the first free occurrence of a character from place `low` on and before place `high`; the
list starts at place `j`. -/
def take? (c : Char) (low high : Nat) : Nat → List (Char × Bool) → Option (List (Char × Bool))
  | _, [] => none
  | j, (d, taken) :: rest =>
    if low ≤ j && j < high && d = c && !taken then some ((d, true) :: rest)
    else (take? c low high (j + 1) rest).map ((d, taken) :: ·)

/-- The characters that match, in their order, and the other word with its matches taken; the list
starts at place `i`. -/
def matched (reach : Nat) : Nat → List Char → List (Char × Bool) → List Char × List (Char × Bool)
  | _, [], other => ([], other)
  | i, c :: cs, other =>
    match take? c (i - reach) (i + reach + 1) 0 other with
    | some other =>
      let (found, other) := matched reach (i + 1) cs other
      (c :: found, other)
    | none => matched reach (i + 1) cs other

end Similarity

open Similarity in
/-- How similar two words are, from 0 to 1. -/
def similarity (a b : List Char) : Float :=
  if a.isEmpty && b.isEmpty then 1.0
  else
    let reach := max a.length b.length / 2 - 1
    let (found, other) := matched reach 0 a (b.map (·, false))
    let order := (other.filter (·.2)).map (·.1)
    let moved := ((found.zip order).filter fun p => p.1 ≠ p.2).length / 2
    let m := Float.ofNat found.length
    if found.isEmpty then 0.0
    else (m / Float.ofNat a.length + m / Float.ofNat b.length
      + Float.ofNat (found.length - moved) / m) / 3.0

end VmMonitor
