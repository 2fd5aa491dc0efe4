import VmMonitor.Document.Tag
import VmMonitor.Text.Numeral

/-!
# Documents as TOML

A text is a sequence of lines: a header in brackets opens a table, a pair sets a value in the table
that is open, and a key with points in it reaches into the tables below. Values are strings of four
kinds, numbers, truth values, dates, lists and tables in braces.

A date is well-formed text without a value here. A key may be set twice in one table; who asks for
it refuses that. A table in braces stands for an alternative if it has one entry. A table that is
spread over lines does not, unless its header makes up the text: then the last key of the header
names the alternative.
-/

namespace VmMonitor.Toml

/-! ### Tokens -/

def isBlank (c : Char) : Bool := c = ' ' || c = '\t'

def skipBlanks (cs : List Char) : List Char := cs.dropWhile isBlank

/-- Characters of a key without quotes, and of numbers and dates. -/
def isBare (c : Char) : Bool :=
  isDigit c || ('a' ≤ c && c ≤ 'z') || ('A' ≤ c && c ≤ 'Z') || c = '-' || c = '_'

/-- Characters that a comment may hold. -/
def isComment (c : Char) : Bool := c = '\t' || 0x20 ≤ c.toNat

/-- Characters that a string may hold as they are. -/
def isPlain (c : Char) : Bool := isComment c && c.toNat ≠ 0x7F

/-- Drops a comment, if there is one. -/
def skipComment : List Char → List Char
  | '#' :: cs => cs.dropWhile isComment
  | cs => cs

/-- Moves over blanks, comments and line ends. -/
def skipLines : Nat → List Char → List Char
  | 0, cs => cs
  | fuel + 1, cs =>
    match skipBlanks cs with
    | '\n' :: r => skipLines fuel r
    | '#' :: r => skipLines fuel (r.dropWhile isComment)
    | r => r

/-- What is left behind blanks, a comment and the end of the line. -/
def endLine (cs : List Char) : Option (List Char) :=
  match skipComment (skipBlanks cs) with
  | [] => some []
  | '\n' :: r => some r
  | _ => none

/-! ### Strings -/

/-- One escape behind its backslash. -/
def readEscape : List Char → Option (Char × List Char)
  | '\"' :: r => some ('\"', r)
  | '\\' :: r => some ('\\', r)
  | 'b' :: r => some ('\x08', r)
  | 'f' :: r => some ('\x0c', r)
  | 'n' :: r => some ('\n', r)
  | 'r' :: r => some ('\r', r)
  | 't' :: r => some ('\t', r)
  | 'u' :: r => hex 4 r
  | 'U' :: r => hex 8 r
  | _ => none
where
  /-- The character of a hexadecimal escape of `n` digits. -/
  hex (n : Nat) (cs : List Char) : Option (Char × List Char) := do
    let digits := cs.take n
    let code ← readDigits? 16 digits
    if digits.length = n && code.isValidChar then some (Char.ofNat code, cs.drop n) else none

/-- What follows a backslash at the end of a line: blanks and line ends are passed over. -/
def joinLines (cs : List Char) : Option (List Char) :=
  match skipBlanks cs with
  | '\n' :: r => some (r.dropWhile fun c => isBlank c || c = '\n')
  | _ => none

/-- A string on one line behind its opening quote, reversed onto `acc`. -/
def readLine (quote : Char) : Nat → List Char → List Char → Option (List Char × List Char)
  | 0, _, _ => none
  | fuel + 1, acc, cs =>
    match cs with
    | [] => none
    | c :: r =>
      if c = quote then some (acc.reverse, r)
      else if c = '\\' && quote = '\"' then do
        let (c, r) ← readEscape r
        readLine quote fuel (c :: acc) r
      else if isPlain c then readLine quote fuel (c :: acc) r
      else none

/-- A string over several lines behind its three opening quotes, reversed onto `acc`. Up to two
quotes in front of the closing ones belong to it. -/
def readLines (quote : Char) : Nat → List Char → List Char → Option (List Char × List Char)
  | 0, _, _ => none
  | fuel + 1, acc, cs =>
    match cs with
    | [] => none
    | c :: r =>
      if c = quote then
        match r with
        | a :: b :: rest =>
          if a = quote && b = quote then
            let extra := (rest.take 2).takeWhile (· = quote)
            some ((extra ++ acc).reverse, rest.drop extra.length)
          else readLines quote fuel (c :: acc) r
        | _ => readLines quote fuel (c :: acc) r
      else if c = '\\' && quote = '\"' then
        match readEscape r with
        | some (c, r) => readLines quote fuel (c :: acc) r
        | none => do
          let r ← joinLines r
          readLines quote fuel acc r
      else if isPlain c || c = '\n' then readLines quote fuel (c :: acc) r
      else none

/-- A string with its quotes, and whether it may take several lines. -/
def readString (cs : List Char) : Option (String × Bool × List Char) :=
  let read (quote : Char) (r : List Char) : Option (String × Bool × List Char) :=
    match r with
    | a :: b :: rest =>
      if a = quote && b = quote then
        let body := match rest with
          | '\n' :: t => t
          | t => t
        (readLines quote (body.length + 1) [] body).map fun (s, t) => (String.ofList s, true, t)
      else line quote r
    | _ => line quote r
  match cs with
  | '\"' :: r => read '\"' r
  | '\'' :: r => read '\'' r
  | _ => none
where
  /-- A string on one line. -/
  line (quote : Char) (r : List Char) : Option (String × Bool × List Char) :=
    (readLine quote (r.length + 1) [] r).map fun (s, t) => (String.ofList s, false, t)

/-! ### Keys -/

/-- A key with or without quotes. -/
def readKey (cs : List Char) : Option (String × List Char) :=
  let bare := cs.takeWhile isBare
  if bare.isEmpty then
    match readString cs with
    | some (s, false, r) => some (s, r)
    | _ => none
  else some (String.ofList bare, cs.drop bare.length)

/-- A key with points in it, up to the first character that is none of its own. -/
def readPath : Nat → List Char → Option (List String × List Char)
  | 0, _ => none
  | fuel + 1, cs => do
    let (key, r) ← readKey (skipBlanks cs)
    match skipBlanks r with
    | '.' :: r =>
      let (keys, r) ← readPath fuel r
      some (key :: keys, r)
    | r => some ([key], r)

/-! ### Numbers -/

/-- How far a whole number reaches, with underscores between its digits only. -/
def digitsEnd (base : Nat) (zeros : Bool) : List Char → Nat → Bool → Bool → Bool → Option Nat
  | [], n, first, _, underscore => if first || underscore then none else some n
  | c :: cs, n, first, zero, underscore =>
    if c = '0' && first then digitsEnd base zeros cs (n + 1) false true underscore
    else if (digitValue? base c).isSome then
      if !first && zero && !zeros then none
      else digitsEnd base zeros cs (n + 1) false zero false
    else if c = '_' && first then none
    else if c = '_' && !underscore then digitsEnd base zeros cs (n + 1) false zero true
    else if first || underscore then none
    else some n

/-- A whole number at the head of the text without its underscores, and what follows it. Leading
zeros are an error unless `zeros` admits them. -/
def splitDigits (base : Nat) (signed zeros : Bool) (cs : List Char) :
    Option (List Char × List Char) := do
  let sign := if signed then (cs.take 1).filter fun c => c = '+' || c = '-' else []
  let body := cs.drop sign.length
  let n ← digitsEnd base zeros body 0 true false false
  some (sign ++ (body.take n).filter (· ≠ '_'), body.drop n)

/-- A whole number of sixty-four bits. -/
def readWhole (base : Nat) (cs : List Char) : Option Scalar := do
  let (digits, rest) ← splitDigits base (base = 10) (base ≠ 10) cs
  let n ← readInt? base digits
  if rest.isEmpty && isInt64 n then some (.int n) else none

/-- The number with these parts, if it is finite. -/
def floating (whole fraction exponent : List Char) : Option Scalar :=
  let text := whole ++ (if fraction.isEmpty then [] else '.' :: fraction)
    ++ (if exponent.isEmpty then [] else 'e' :: exponent)
  match readFloat (String.ofList text) with
  | .ok x => if x.isFinite then some (.float (Binary64.ofFloat x)) else none
  | .error _ => none

/-- The characters of a bare word. -/
def bareWord (cs : List Char) : Option (List Char × List Char) :=
  let word := cs.takeWhile isBare
  if word.isEmpty then none else some (word, cs.drop word.length)

/-- A floating-point number: a bare word, perhaps the bare word behind a point, and what follows. -/
def readFloating (word : List Char) (fraction : Option (List Char)) (cs : List Char) :
    Option (Scalar × List Char) := do
  let (whole, rest) ← splitDigits 10 true false word
  let (digits, rest) ← match fraction with
    | none => some ([], rest)
    | some f => if rest.isEmpty then splitDigits 10 false true f else none
  match rest with
  | [] => (floating whole digits []).map fun s => (s, cs)
  | e :: power =>
    if e = 'e' || e = 'E' then
      let (exponent, rest, cs) ←
        (if power.isEmpty then do
          let (word, cs) ← bareWord (match cs with | '+' :: r => r | r => r)
          let (digits, rest) ← splitDigits 10 false true word
          some (digits, rest, cs)
        else do
          let (digits, rest) ← splitDigits 10 true true power
          some (digits, rest, cs) : Option (List Char × List Char × List Char))
      if rest.isEmpty then (floating whole digits exponent).map fun s => (s, cs) else none
    else none

/-- The number that a bare word starts, with what follows it. -/
def readNumber (word cs : List Char) : Option (Scalar × List Char) :=
  let whole (base : Nat) (digits : List Char) := (readWhole base digits).map fun s => (s, cs)
  match word with
  | '0' :: 'x' :: digits => whole 16 digits
  | '0' :: 'o' :: digits => whole 8 digits
  | '0' :: 'b' :: digits => whole 2 digits
  | _ =>
    if word.contains 'e' || word.contains 'E' then readFloating word none cs
    else match cs with
      | '.' :: r => do
        let (fraction, r) ← bareWord r
        readFloating word (some fraction) r
      | _ =>
        let constant (x : Float) : Option (Scalar × List Char) :=
          some (.float (Binary64.ofFloat x), cs)
        match word with
        | ['i', 'n', 'f'] => constant (1.0 / 0.0)
        | ['-', 'i', 'n', 'f'] => constant (-(1.0 / 0.0))
        | ['n', 'a', 'n'] => constant (0.0 / 0.0)
        | ['-', 'n', 'a', 'n'] => constant (0.0 / 0.0)
        | _ => whole 10 word

/-- The time of a date behind its hours: minutes, seconds and an offset. -/
def readTime (cs : List Char) : Option (List Char) := do
  let (_, r) ← bareWord cs
  let r ← (match r with | ':' :: r => some r | _ => none : Option (List Char))
  let (_, r) ← bareWord r
  let part (mark : Char) (r : List Char) : Option (List Char) :=
    match r with
    | c :: t => if c = mark then (bareWord t).map (·.2) else some r
    | [] => some []
  part '.' r >>= part '+' >>= part ':'

/-- A date that a bare word starts; what stands for a time may follow a blank. -/
def readDate (colon : Bool) (cs : List Char) : Option (Scalar × List Char) :=
  let cs := match cs with
    | ' ' :: r => ((bareWord r).map (·.2)).getD cs
    | _ => cs
  let rest := if colon then readTime cs else match cs with
    | ':' :: r => readTime r
    | r => some r
  rest.map fun r => (.unreadable, r)

/-- A number or a date that a bare word starts. -/
def readNumberOrDate (word cs : List Char) : Option (Scalar × List Char) :=
  let power : List (List Char) := [['e', '-'], ['E', '-']]
  let dashed := (word.drop 1).contains '-'
    && !(word.zip (word.drop 1)).any fun (a, b) => power.contains [a, b]
  if word.contains 'T' || word.contains 't' || dashed then readDate false cs
  else match cs with
    | ':' :: r => readDate true r
    | _ => readNumber word cs

/-! ### Tables -/

/-- A value in a table under construction, or a table that keys with points in them reach into. -/
inductive Node
  | leaf (d : Doc)
  | branch (entries : List (String × Node))

/-- Sets a value under a path; a path cannot lead through a value. -/
def set (d : Doc) : List String → List (String × Node) → Option (List (String × Node))
  | [], _ => none
  | [key], entries => some (entries ++ [(key, .leaf d)])
  | key :: path, entries =>
    match entries.findIdx? fun e => e.1 = key with
    | none => (set d path []).map fun below => entries ++ [(key, .branch below)]
    | some i =>
      match entries[i]? with
      | some (_, .branch below) =>
        (set d path below).map fun below => entries.set i (key, .branch below)
      | _ => none

/-- A table that is spread over lines; its tag keeps it from standing for an alternative. -/
def spread (entries : List (Doc × Doc)) : Doc := .tagged "" (.table entries)

mutual

/-- The document of a node. -/
def Node.doc : Node → Doc
  | .leaf d => d
  | .branch entries => spread (docEntries entries)

/-- The entries of a table. -/
def docEntries : List (String × Node) → List (Doc × Doc)
  | [] => []
  | (k, n) :: es => (.text k, n.doc) :: docEntries es

end

/-! ### Values -/

mutual

/-- A value at the head of the text. -/
def readValue : Nat → List Char → Option (Doc × List Char)
  | 0, _ => none
  | fuel + 1, cs =>
    match cs with
    | '[' :: r => (readItems fuel r).map fun (ds, rest) => (.list ds, rest)
    | '{' :: r =>
      match skipBlanks r with
      | '}' :: rest => some (.table [], rest)
      | r => (readPairs fuel [] r).map fun (es, rest) => (.table (docEntries es), rest)
    | '+' :: r => do
      let (word, r) ← bareWord r
      let (s, rest) ← readNumber word r
      some (.scalar s, rest)
    | cs =>
      match readString cs with
      | some (s, _, rest) => some (.text s, rest)
      | none => do
        let (word, rest) ← bareWord cs
        match word with
        | ['t', 'r', 'u', 'e'] => some (.bool true, rest)
        | ['f', 'a', 'l', 's', 'e'] => some (.bool false, rest)
        | c :: _ =>
          if c = '-' || isDigit c || word = ['i', 'n', 'f'] || word = ['n', 'a', 'n'] then do
            let (s, rest) ← readNumberOrDate word rest
            some (.scalar s, rest)
          else none
        | [] => none

/-- The items of a list up to its closing bracket; a comma may follow the last one. -/
def readItems : Nat → List Char → Option (List Doc × List Char)
  | 0, _ => none
  | fuel + 1, cs =>
    match skipLines (cs.length + 1) cs with
    | ']' :: rest => some ([], rest)
    | r => do
      let (d, r) ← readValue fuel r
      match skipLines (r.length + 1) r with
      | ',' :: r =>
        let (ds, rest) ← readItems fuel r
        some (d :: ds, rest)
      | ']' :: rest => some ([d], rest)
      | _ => none

/-- The pairs of a table in braces up to its closing brace; there is at least one. -/
def readPairs : Nat → List (String × Node) → List Char → Option (List (String × Node) × List Char)
  | 0, _, _ => none
  | fuel + 1, entries, cs => do
    let (path, r) ← readPath (cs.length + 1) cs
    match r with
    | '=' :: r =>
      let (d, r) ← readValue fuel (skipBlanks r)
      let entries ← set d path entries
      match skipBlanks r with
      | '}' :: rest => some (entries, rest)
      | ',' :: r => readPairs fuel entries r
      | _ => none
    | _ => none

end

/-! ### Sections -/

/-- A header with the pairs below it. -/
structure Section where
  path : List String
  /-- A header in double brackets adds a table to a list. -/
  repeated : Bool
  entries : List (String × Node)

/-- A header behind its opening bracket. -/
def readHeader (cs : List Char) : Option (Section × List Char) := do
  let (repeated, cs) := match cs with
    | '[' :: r => (true, r)
    | r => (false, r)
  let (path, r) ← readPath (cs.length + 1) cs
  let rest ← (match repeated, r with
    | true, ']' :: ']' :: r => endLine r
    | false, ']' :: r => endLine r
    | _, _ => none : Option (List Char))
  some (⟨path, repeated, []⟩, rest)

/-- The sections of a text behind the open one, which comes first. -/
def readSections : Nat → Section → List Char → Option (List Section)
  | 0, _, _ => none
  | fuel + 1, current, cs =>
    match skipLines (cs.length + 1) cs with
    | [] => some [current]
    | '[' :: r => do
      let (opened, rest) ← readHeader r
      let sections ← readSections fuel opened rest
      some (current :: sections)
    | cs => do
      let (path, r) ← readPath (cs.length + 1) cs
      match r with
      | '=' :: r =>
        let (d, r) ← readValue (r.length + 1) (skipBlanks r)
        let entries ← set d path current.entries
        let rest ← endLine r
        readSections fuel { current with entries } rest
      | _ => none

/-- Whether a header may follow the ones before it, the latest of which comes first: a table is
opened once, and a list does not take the place of tables. A list that gets a new table starts the
tables below it anew. -/
def mayFollow (s : Section) : List Section → Bool
  | [] => true
  | t :: earlier =>
    if t.repeated && t.path.isPrefixOf s.path && t.path ≠ s.path then true
    else if t.path = s.path then t.repeated && s.repeated
    else if s.repeated && s.path.isPrefixOf t.path then
      earlier.any fun u => u.repeated && u.path = s.path
    else mayFollow s earlier

/-- All headers may follow the ones before them. -/
def areConsistent : List Section → List Section → Bool
  | _, [] => true
  | earlier, s :: sections => mayFollow s earlier && areConsistent (s :: earlier) sections

/-- Adds the pairs of a section to the tables of the sections before it. -/
def place (repeated : Bool) (pairs : List (Doc × Doc)) :
    List String → List (Doc × Doc) → List (Doc × Doc)
  | [], entries => entries ++ pairs
  | key :: path, entries =>
    match entries.findIdx? fun e => e.1.isNamed key with
    | none =>
      let below := spread (place repeated pairs path [])
      entries ++ [(.text key, if repeated && path.isEmpty then .list [below] else below)]
    | some i =>
      match entries[i]? with
      | some (_, .tagged _ (.table below)) =>
        entries.set i (.text key, spread (place repeated pairs path below))
      | some (_, .list items) =>
        if path.isEmpty then entries.set i (.text key, .list (items ++ [spread pairs]))
        else match items.getLast? with
          | some (.tagged _ (.table below)) =>
            let last := spread (place repeated pairs path below)
            entries.set i (.text key, .list (items.dropLast ++ [last]))
          | _ => entries
      | _ => entries

/-- The entry of a section that makes up the whole text. -/
def alone (s : Section) : List (Doc × Doc) :=
  match s.path, s.path.getLast? with
  | key :: _ :: _, some name =>
    [(.text key, .tagged (Tag.ofAlternative name) (.table (docEntries s.entries)))]
  | _, _ => place s.repeated (docEntries s.entries) s.path []

/-- Line feeds in place of line ends of two characters. -/
def joinBreaks : List Char → List Char
  | '\r' :: '\n' :: cs => '\n' :: joinBreaks cs
  | c :: cs => c :: joinBreaks cs
  | [] => []

/-- Reads a document; `none` if the text is not TOML. -/
def read (s : String) : Option Doc := do
  let cs := match s.toList with
    | c :: r => if c.toNat = 0xFEFF then r else c :: r
    | [] => []
  let cs := joinBreaks cs
  match ← readSections (cs.length + 1) ⟨[], false, []⟩ cs with
  | [] => some (.table [])
  | [⟨[], false, []⟩, s] => some (.table (alone s))
  | root :: sections =>
    if areConsistent [] sections then
      let below := sections.foldl
        (fun entries s => place s.repeated (docEntries s.entries) s.path entries) []
      some (.table (docEntries root.entries ++ below))
    else none

end VmMonitor.Toml
