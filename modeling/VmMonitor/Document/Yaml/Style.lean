import VmMonitor.Document.Plain
import VmMonitor.Document.Yaml.Place

/-!
# Styles of written scalars

In which style a text is written. What reads back as another type is quoted. Line feeds ask for a
block scalar. Otherwise a text is plain where no indicator, blank or line end is in the way, then
between single quotes, and with escapes between double quotes where nothing else keeps it.
-/

namespace VmMonitor.Yaml

/-- Characters that are written as they are. -/
def isShown (c : Char) : Bool :=
  let n := c.toNat
  n = 0x0A || (0x20 ≤ n && n ≤ 0x7E) || (0xA0 ≤ n && n ≤ 0xFFFD && n ≠ 0xFEFF) || 0x10000 ≤ n

/-- A text that reads as null, a truth value or a number if it is not quoted, or that looks like
one. -/
def isAmbiguous (s : String) : Bool := Plain.resolve s ≠ .text s || Plain.isPaddedDigits s.toList

/-- Whether an indicator stands where it would not be read as text. -/
def hasIndicator : Bool → List Char → Bool
  | _, [] => false
  | afterBlank, c :: cs =>
    (c = ':' && blankNext cs) || (c = '#' && afterBlank)
      || hasIndicator (isBlank c || isBreak c) cs

/-- Whether a text starts with an indicator. -/
def startsWithIndicator : List Char → Bool
  | '-' :: '-' :: '-' :: _ => true
  | '.' :: '.' :: '.' :: _ => true
  | c :: cs => isIndicator c || ((c = '-' || c = '?' || c = ':') && blankNext cs)
  | [] => false

/-- A blank in front of a line end, which only an escape keeps. -/
def hasBlankBeforeBreak : List Char → Bool
  | a :: b :: cs => (a = ' ' && isBreak b) || hasBlankBeforeBreak (b :: cs)
  | _ => false

/-- A line end with a blank behind it. -/
def hasBlankAfterBreak : List Char → Bool
  | a :: b :: cs => (isBreak a && b = ' ') || hasBlankAfterBreak (b :: cs)
  | _ => false

/-- Whether a text needs no escapes. -/
def isPlainText (cs : List Char) : Bool := cs.all isShown && !hasBlankBeforeBreak cs

/-- How a scalar is written. -/
inductive Style
  | plain
  | single
  | double
  | block
  deriving DecidableEq, Repr

/-- Whether a text can be written without quotes. -/
def canBePlain (cs : List Char) : Bool :=
  isPlainText cs && !cs.isEmpty && !cs.any isBreak && cs.head? ≠ some ' ' && cs.getLast? ≠ some ' '
    && !startsWithIndicator cs && !hasIndicator true cs

/-- Whether a text can be written between single quotes. -/
def canBeSingle (cs : List Char) : Bool := isPlainText cs && !hasBlankAfterBreak cs

/-- Whether a text can be written line by line. -/
def canBeBlock (cs : List Char) : Bool := isPlainText cs && cs.getLast? ≠ some ' '

/-- The style of a text on one line, as keys need it. -/
def lineStyle (s : String) : Style :=
  let cs := s.toList
  if cs.any isBreak then .double
  else if !isAmbiguous s && canBePlain cs then .plain
  else if canBeSingle cs then .single
  else .double

/-- The style of a text that may take several lines. -/
def style (s : String) : Style :=
  let cs := s.toList
  if cs.contains '\n' then if canBeBlock cs then .block else .double
  else if !isAmbiguous s && canBePlain cs then .plain
  else if canBeSingle cs then .single
  else .double

end VmMonitor.Yaml
