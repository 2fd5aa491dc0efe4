import VmMonitor.Text.Numeral

/-!
# Places in a YAML text

A place is what is left of a text, with its length, the number of bytes passed, of lines passed and
of characters passed on the current line. Five characters end a line; a carriage return and the line
feed behind it end it together.
-/

namespace VmMonitor.Yaml

/-- Space and tab. -/
def isBlank (c : Char) : Bool := c = ' ' || c = '\t'

/-- Characters that end a line: line feed, carriage return, next line, and the separators of lines
and paragraphs. -/
def isBreak (c : Char) : Bool :=
  c = '\n' || c = '\r' || c.toNat = 0x85 || c.toNat = 0x2028 || c.toNat = 0x2029

/-- The mark that may stand in front of a text. -/
def byteOrderMark : Char := Char.ofNat 0xFEFF

/-- Whether a blank, a line end or the end of the text comes next. -/
def blankNext (cs : List Char) : Bool := cs.head?.all fun c => isBlank c || isBreak c

/-- Characters of names: letters and digits of ASCII, dash and underscore. -/
def isWordChar (c : Char) : Bool :=
  isDigit c || ('a' ≤ c && c ≤ 'z') || ('A' ≤ c && c ≤ 'Z') || c = '-' || c = '_'

/-- Characters that a text may contain. -/
def isAllowed (c : Char) : Bool :=
  let n := c.toNat
  n = 0x09 || n = 0x0A || n = 0x0D || (0x20 ≤ n && n ≤ 0x7E) || n = 0x85
    || (0xA0 ≤ n && n ≤ 0xFFFD) || 0x10000 ≤ n

/-- Brackets, braces and the comma, which end a plain scalar inside a flow node. -/
def isFlowIndicator (c : Char) : Bool := ",[]\x7b\x7d".toList.contains c

/-- Characters that no plain scalar starts with. -/
def isIndicator (c : Char) : Bool := isFlowIndicator c || "#&*!|>'\"%@`".toList.contains c

/-- A place in a text. -/
structure Place where
  rest : List Char
  /-- How many characters are left. -/
  size : Nat
  /-- How many bytes were passed, in UTF-8. -/
  index : Nat := 0
  line : Nat := 0
  column : Nat := 0
  deriving Repr

namespace Place

/-- The start of a text. -/
def start (cs : List Char) : Place := { rest := cs, size := cs.length }

/-- The number of bytes passed behind `n` characters. -/
def indexAfter (p : Place) (n : Nat) : Nat :=
  (p.rest.take n).foldl (fun index c => index + c.utf8Size) p.index

/-- The place behind `n` characters of the line. -/
def skip (p : Place) (n : Nat) : Place :=
  { p with
    rest := p.rest.drop n, size := p.size - n, index := p.indexAfter n, column := p.column + n }

/-- The characters from here on that are all of one kind, and the place behind them. -/
def span (p : Place) (kind : Char → Bool) : List Char × Place :=
  let taken := p.rest.takeWhile kind
  (taken, p.skip taken.length)

/-- The place behind characters of one kind. -/
def skipWhile (p : Place) (kind : Char → Bool) : Place := (p.span kind).2

/-- The place at the start of the next line, behind a break of `n` characters. -/
def descend (p : Place) (n : Nat) : Place :=
  { rest := p.rest.drop n, size := p.size - n, index := p.indexAfter n, line := p.line + 1
    column := 0 }

/-- The line break at a place, as it counts in a scalar, and the place behind it. The separators of
lines and paragraphs count as themselves and all other breaks as line feeds. -/
def lineBreak? (p : Place) : Option (Char × Place) :=
  match p.rest with
  | '\r' :: '\n' :: _ => some ('\n', p.descend 2)
  | c :: _ =>
    if isBreak c then
      some (if c.toNat = 0x2028 || c.toNat = 0x2029 then c else '\n', p.descend 1)
    else none
  | [] => none

/-- The place behind a comment, if one starts here. -/
def skipComment (p : Place) : Place :=
  match p.rest with
  | '#' :: _ => p.skipWhile fun c => !isBreak c
  | _ => p

/-- The start of the next line, if only blanks and a comment are left on this one. -/
def endLine? (p : Place) : Option Place :=
  let p := (p.skipWhile isBlank).skipComment
  if p.rest.isEmpty then some p else p.lineBreak?.map (·.2)

/-- Whether a marker of three characters stands alone at the start of a line. -/
def isAtMarker (p : Place) (c : Char) : Bool :=
  p.column = 0 && [c, c, c].isPrefixOf p.rest && blankNext (p.rest.drop 3)

/-- Whether a document starts or ends here. -/
def isAtDocument (p : Place) : Bool := p.isAtMarker '-' || p.isAtMarker '.'

end Place

end VmMonitor.Yaml
