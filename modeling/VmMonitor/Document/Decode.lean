import VmMonitor.Document.Plain
import VmMonitor.Table

/-!
# Values out of documents

A decoder gives the value that a document stands for, or nothing if it does not fit. Plain scalars
take the type that the decoder asks for, whatever their tag. A record is a table whose unknown keys
are ignored and whose known keys occur at most once; where the format has no names for it, a list of
the fields in their order is a record too.
-/

namespace VmMonitor

/-- The text formats, as far as values are read differently from them. -/
inductive Format
  | json
  | yaml
  | toml
  deriving DecidableEq, Repr

/-- The name of a format. -/
def Format.name : Format → String
  | json => "json"
  | yaml => "yaml"
  | toml => "toml"

/-- A partial reading of documents. -/
abbrev Decoder (α : Type) := Doc → Option α

namespace Scalar

def asText? : Scalar → Option String
  | .text s => some s
  | .plain s => some s
  | .literal s => some s
  | _ => none

/-- The leaf with its type settled. -/
def settled : Scalar → Scalar
  | .plain s => Plain.resolve s
  | .literal s => .text s
  | s => s

/-- The leaf with its type settled by a tag. -/
def settledAs (tag : String) (s : Scalar) : Scalar :=
  match s.asText? with
  | some spelled => Plain.resolveAs tag spelled
  | none => s

/-- Null, and a plain scalar that is empty or one of the words for null. -/
def isNull : Scalar → Bool
  | .null => true
  | .plain s => s.isEmpty || Plain.isNull s
  | _ => false

end Scalar

/-- The text from which a value of a core type is read: that of a plain scalar, and that of a
literal one whose tag names the type. -/
def Doc.spelling? (tag : String) : Doc → Option String
  | .scalar (.plain s) => some s
  | .tagged _ (.scalar (.plain s)) => some s
  | .tagged t (.scalar (.literal s)) => if t = tag then some s else none
  | _ => none

namespace Decode

def text : Decoder String := fun d =>
  match d.untagged with
  | .scalar s => s.asText?
  | _ => none

def bool : Decoder Bool
  | .scalar (.bool b) => some b
  | d => d.spelling? Tag.bool >>= Plain.bool?

/-- A whole number from `low` to `high`. -/
def intIn (low high : Int) : Decoder Int
  | .scalar (.int n) => if low ≤ n ∧ n ≤ high then some n else none
  | d => do
    let n ← Plain.int? (← d.spelling? Tag.int).toList
    if low ≤ n ∧ n ≤ high then some n else none

/-- A whole number of sixty-four bits with a sign. -/
def int64 : Decoder Int := intIn (-(twoTo 63 : Int)) ((twoTo 63 : Int) - 1)

/-- A whole number without a sign, below a bound. -/
def natBelow (bound : Nat) : Decoder Nat
  | .scalar (.int n) => if 0 ≤ n ∧ n < bound then some n.toNat else none
  | d => do
    let n ← Plain.nat? (← d.spelling? Tag.int).toList
    if n < bound then some n else none

def float : Decoder Binary64
  | .scalar (.float x) => some x
  | .scalar (.int n) => some (Binary64.ofFloat (nearestFloat n))
  | d => do
    let x ← Plain.float? (← d.spelling? Tag.float)
    return Binary64.ofFloat x

/-- Null is no value; what is tagged as null has to be it. -/
def optional {α : Type} (decode : Decoder α) : Decoder (Option α)
  | .scalar s => if s.isNull then some none else (decode (.scalar s)).map some
  | .tagged tag (.scalar (.plain s)) =>
    if tag = Tag.null then if Plain.isNull s then some none else none
    else (decode (.tagged tag (.scalar (.plain s)))).map some
  | d => (decode d).map some

/-- An empty plain scalar is an empty list. -/
def list {α : Type} (decode : Decoder α) : Decoder (List α) := fun d =>
  match d.untagged with
  | .list items => items.mapM decode
  | .scalar (.plain "") => some []
  | _ => none

/-- A table of texts, of which the last one under a key wins. -/
def textTable : Decoder (Table String String) := fun d =>
  match d.untagged with
  | .table entries => do
    let pairs ← entries.mapM fun e => do return (← text e.1, ← text e.2)
    return Table.ofList pairs
  | .scalar (.plain "") => some []
  | _ => none

/-! ### Records -/

/-- A record taken apart: its known fields by their names. -/
structure Record where
  /-- The fields came as a list, so none may be left out for want of a value. -/
  positional : Bool
  fields : List (String × Doc)

/-- A field: its name and the other spellings of it. -/
structure Field where
  name : String
  aliases : List String := []

/-- The field that a key names; a number names a field by its place. -/
def fieldOf? (fields : List Field) : Doc → Option String
  | .scalar (.int n) =>
    if 0 ≤ n then (fields[n.toNat]?).map (·.name) else none
  | d => do
    let key ← text d
    let field ← fields.find? fun f => f.name = key || f.aliases.contains key
    return field.name

/-- Whether a key can be compared with the names of fields at all. -/
def isFieldKey : Doc → Bool
  | .scalar (.int n) => 0 ≤ n
  | d => (text d).isSome

/-- Collects the known entries of a table; a field given twice is refused. -/
def collect (fields : List Field) : List (Doc × Doc) → Option (List (String × Doc))
  | [] => some []
  | (key, d) :: rest =>
    if isFieldKey key then do
      let known ← collect fields rest
      match fieldOf? fields key with
      | none => some known
      | some name => if known.any (·.1 = name) then none else some ((name, d) :: known)
    else none

/-- Takes a record apart. -/
def record? (positional : Bool) (fields : List Field) (d : Doc) : Option Record :=
  match d.untagged with
  | .table entries => (collect fields entries).map fun known => ⟨false, known⟩
  | .list items =>
    if positional && items.length ≤ fields.length then
      some ⟨true, (fields.map (·.name)).zip items⟩
    else none
  | .scalar (.plain "") => some ⟨false, []⟩
  | _ => none

/-- Takes a record of a format apart; only JSON admits a list for it. -/
def record (format : Format) (fields : List Field) : Doc → Option Record :=
  record? (format = .json) fields

namespace Record

def find? (r : Record) (name : String) : Option Doc :=
  (r.fields.find? fun e => e.1 = name).map (·.2)

/-- A field that has to be there. -/
def required {α : Type} (r : Record) (name : String) (decode : Decoder α) : Option α :=
  r.find? name >>= decode

/-- A field with a value to take its place. -/
def orElse {α : Type} (r : Record) (name : String) (value : α) (decode : Decoder α) : Option α :=
  match r.find? name with
  | none => some value
  | some d => decode d

/-- A field that may be null, and missing from a table. -/
def nullable {α : Type} (r : Record) (name : String) (decode : Decoder α) : Option (Option α) :=
  match r.find? name with
  | none => if r.positional then none else some none
  | some d => optional decode d

end Record

/-! ### Alternatives -/

/-- The name of an alternative with the document of its content. YAML names it by a tag; elsewhere
it is the key of a table with one entry. -/
def alternative (format : Format) : Doc → Option (String × Option Doc)
  | .scalar s => s.asText?.map fun name => (name, none)
  | .tagged tag d =>
    match Tag.alternative? tag with
    | some name => some (name, some d)
    | none => match d with
      | .scalar s => s.asText?.map fun name => (name, none)
      | _ => none
  | .table [(key, d)] => if format = .yaml then none else (text key).map fun name => (name, some d)
  | _ => none

/-- Whether this stands for no content: null, or an empty table where the format has no null. -/
def isVacant (format : Format) : Doc → Bool
  | .scalar s => format ≠ .toml && s.isNull
  | .table [] => format = .toml
  | _ => false

/-- An alternative without content. -/
def word {α : Type} (format : Format) (meaning : String → Option α) : Decoder α := fun d => do
  match ← alternative format d with
  | (name, none) => meaning name
  | (name, some content) => if isVacant format content then meaning name else none

end Decode

end VmMonitor
