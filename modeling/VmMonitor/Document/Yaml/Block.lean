import VmMonitor.Document.Yaml
import VmMonitor.Document.Yaml.Style

/-!
# Writing YAML

Tables and lists are written as blocks, two columns to a level; the items of a list stand in the
column of the key above them. The separators of lines and paragraphs are line ends that are written
as they are: what follows them is indented, and no line feed comes behind them.
-/

namespace VmMonitor.Yaml

/-! ### Texts -/

/-- Hexadecimal digits in capitals, at least `width` of them. -/
def hexDigits (width n : Nat) : List Char :=
  let digits := (Nat.toDigits 16 n).map Char.toUpper
  List.replicate (width - digits.length) '0' ++ digits

/-- The escape of a character between double quotes. -/
def escape (c : Char) : List Char :=
  let n := c.toNat
  if c = '\"' then ['\\', '\"']
  else if c = '\\' then ['\\', '\\']
  else if isShown c && !isBreak c then [c]
  else if n = 0x00 then ['\\', '0']
  else if n = 0x07 then ['\\', 'a']
  else if n = 0x08 then ['\\', 'b']
  else if n = 0x09 then ['\\', 't']
  else if n = 0x0A then ['\\', 'n']
  else if n = 0x0B then ['\\', 'v']
  else if n = 0x0C then ['\\', 'f']
  else if n = 0x0D then ['\\', 'r']
  else if n = 0x1B then ['\\', 'e']
  else if n = 0x85 then ['\\', 'N']
  else if n = 0x2028 then ['\\', 'L']
  else if n = 0x2029 then ['\\', 'P']
  else if n ≤ 0xFF then '\\' :: 'x' :: hexDigits 2 n
  else if n ≤ 0xFFFF then '\\' :: 'u' :: hexDigits 4 n
  else '\\' :: 'U' :: hexDigits 8 n

/-- A text with escapes between double quotes. -/
def doubleQuoted (cs : List Char) : String := String.ofList ('\"' :: (cs.flatMap escape ++ ['\"']))

/-- Characters with `margin` blanks in front of those that follow a line end. -/
def indented (margin : Nat) : Bool → List Char → List Char
  | _, [] => []
  | broken, c :: cs =>
    let blanks := if broken && !isBreak c then List.replicate margin ' ' else []
    blanks ++ c :: indented margin (isBreak c) cs

/-- A text between single quotes, in which a quote is written twice. -/
def singleQuoted (margin : Nat) (cs : List Char) : String :=
  let doubled := cs.flatMap fun c => if c = '\'' then ['\'', '\''] else [c]
  String.ofList ('\'' :: indented margin false (doubled ++ ['\'']))

/-- The indicators of a block scalar: its indentation if the text starts with a blank or a line end,
and what becomes of the line ends behind the text. -/
def indicators (cs : List Char) : String :=
  let hint := if cs.head?.any fun c => c = ' ' || isBreak c then "2" else ""
  let chomp := match cs.reverse.take 2 with
    | [last, c] => if !isBreak last then "-" else if isBreak c then "+" else ""
    | [last] => if isBreak last then "+" else "-"
    | _ => "-"
  "|" ++ hint ++ chomp

/-- A text line by line below its indicators. -/
def lineBlock (margin : Nat) (cs : List Char) : String :=
  indicators cs ++ "\n" ++ String.ofList (indented margin true cs)

/-- A text in a style, with further lines behind `margin` blanks. -/
def writeText (margin : Nat) (s : String) : Style → String
  | .plain => s
  | .single => singleQuoted margin s.toList
  | .double => doubleQuoted s.toList
  | .block => lineBlock margin s.toList

/-- A leaf as a value. -/
def writeScalar (margin : Nat) : Scalar → String
  | .null => "null"
  | .bool b => if b then "true" else "false"
  | .int n => toString n
  | .float x => x.write layout
  | .text s => writeText margin s (style s)
  | .plain s => s
  | .literal s => writeText margin s (style s)
  | .unreadable => "null"

/-- A key, which stands on one line; one that is no leaf has no name. -/
def writeKey (key : Doc) : String :=
  match key.untagged with
  | .scalar (.text s) => writeText 0 s (lineStyle s)
  | .scalar s => writeScalar 0 s
  | _ => "~"

/-! ### Blocks -/

/-- Lines with the column of each and whether it stands at the start of its item. -/
abbrev Block := List (Nat × String)

/-- Moves the first line of a block behind a dash in a column. -/
def dash (column : Nat) : Block → Block
  | [] => [(column, "-")]
  | (_, first) :: rest => (column, "- " ++ first) :: rest

mutual

/-- What stands behind a key or dash on its line, and the lines below. A list stands at `listColumn`
and a table at `column`. -/
def valueOf (listColumn column : Nat) : Doc → String × Block
  | .scalar s => (" " ++ writeScalar column s, [])
  | .list [] => (" []", [])
  | .list items => ("", itemLines listColumn items)
  | .table [] => (" \x7b\x7d", [])
  | .table entries => ("", entryLines column entries)
  | .tagged tag d =>
    let (here, below) := valueOf listColumn column d
    (" !<" ++ tag ++ ">" ++ here, below)

/-- The lines of a list at a column. -/
def itemLines (column : Nat) : List Doc → Block
  | [] => []
  | d :: ds =>
    let (here, below) := valueOf (column + 2) (column + 2) d
    (if here.isEmpty then dash column below else (column, "-" ++ here) :: below)
      ++ itemLines column ds

/-- The lines of a table at a column. -/
def entryLines (column : Nat) : List (Doc × Doc) → Block
  | [] => []
  | (k, d) :: es =>
    let (here, below) := valueOf column (column + 2) d
    (column, writeKey k ++ ":" ++ here) :: below ++ entryLines column es

end

/-- A line with a line feed behind it, unless it ends with a line end of its own. -/
def closed (line : String) : String :=
  if line.toList.getLast?.any isBreak then line else line ++ "\n"

/-- The text of a block. -/
def Block.text (b : Block) : String :=
  String.join (b.map fun (column, line) =>
    closed (String.ofList (List.replicate column ' ' ++ line.toList)))

/-- The text of a document. -/
def write (d : Doc) : String :=
  let (here, below) := valueOf 0 0 d
  (if here.isEmpty then "" else closed (String.ofList (here.toList.drop 1))) ++ Block.text below

end VmMonitor.Yaml
