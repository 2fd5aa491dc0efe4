import VmMonitor.Document.Yaml.Gap

/-!
# Plain scalars in a text

A scalar without quotes ends at a colon with a blank behind it, at a comment, where a document
starts or ends, in a block node where a line is indented less, and in a flow node at a bracket, a
brace or a comma.
-/

namespace VmMonitor.Yaml.Bare

/-- Whether a plain scalar may start with this text. -/
def startsWith (flow : Bool) : List Char → Bool
  | [] => false
  | '-' :: r => !(r.head?.any isBlank)
  | '?' :: r => !flow && !blankNext r
  | ':' :: r => !flow && !blankNext r
  | c :: _ => !isIndicator c && !isBlank c && !isBreak c

/-- How many characters of a scalar come next without a gap. A colon in front of a bracket, a brace,
a comma or a question mark is an error in a flow node. -/
def wordLength? (flow : Bool) : Nat → List Char → Option Nat
  | n, [] => some n
  | n, c :: r =>
    if isBlank c || isBreak c then some n
    else if flow && c = ':' && r.head?.any (fun d => isFlowIndicator d || d = '?') then none
    else if c = ':' && blankNext r then some n
    else if flow && isFlowIndicator c then some n
    else wordLength? flow (n + 1) r

/-- A scalar as it is read: its text, whether its last gap had a break, and the place behind it. -/
structure Reading where
  text : String
  endsLine : Bool
  place : Place

/-- Reads on behind a gap, onto the reversed `acc`. -/
def readOnto (flow : Bool) (least : Nat) : Nat → List Char → Gap → Place → Option Reading
  | 0, _, _, _ => none
  | fuel + 1, acc, g, p =>
    let done (acc : List Char) (g : Gap) (p : Place) : Option Reading :=
      some ⟨String.ofList acc.reverse, g.isBroken, p⟩
    if p.isAtDocument || p.rest.head? = some '#' then done acc g p
    else do
      let n ← wordLength? flow 0 p.rest
      let word := p.rest.take n
      let acc := if n = 0 then acc else word.reverse ++ (g.reversed ++ acc)
      let g := if n = 0 then g else Gap.none
      let p := p.skip n
      if p.rest.head?.any fun c => isBlank c || isBreak c then
        let (g, p) ← g.read least (p.size + 1) p
        if !flow && p.column < least then done acc g p else readOnto flow least fuel acc g p
      else done acc g p

/-- The plain scalar that starts here. In a block node its further lines are indented by at least
`least`. -/
def read? (flow : Bool) (least : Nat) (p : Place) : Option Reading :=
  readOnto flow least (p.size + 1) [] .none p

end VmMonitor.Yaml.Bare
