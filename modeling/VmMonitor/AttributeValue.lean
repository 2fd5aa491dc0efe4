import VmMonitor.Document.Decode
import VmMonitor.Error

/-!
# Values of attributes

What a management object answers: numbers, texts, lists of them, memory usages, threads and
properties. A reader knows the type it needs and asks for it by an accessor, which names what was
read if the type is another one.

In a document a value is spelled naturally, without a tag for its type. Reading tries the types in
the order of the constructors, and the first that fits wins.
-/

namespace VmMonitor

/-- Sizes in bytes; `max` is `-1` where there is no limit. -/
structure MemoryUsage where
  init : Int := 0
  used : Int := 0
  committed : Int := 0
  max : Int := 0
  deriving DecidableEq, Repr, Inhabited

/-- A thread as its process reports it. -/
structure ThreadInfo where
  id : Int
  name : String
  state : String
  /-- The thread that owns the awaited lock, or `-1`. -/
  lockOwner : Int := -1
  deriving DecidableEq, Repr, Inhabited

/-- Texts under texts, such as system properties. -/
abbrev Properties := Table String String

/-- A value of an attribute, or the result of an operation. -/
inductive AttributeValue
  | null
  | bool (b : Bool)
  | long (n : Int)
  | double (x : Binary64)
  | text (s : String)
  | longs (ns : List Int)
  | texts (ss : List String)
  | usage (u : MemoryUsage)
  | thread (t : ThreadInfo)
  | properties (p : Properties)
  deriving DecidableEq, Repr, Inhabited

namespace AttributeValue

/-! ### Accessors -/

def asLong (what : String) : AttributeValue → Except ConnectionError Int
  | long n => .ok n
  | _ => .error (.typeMismatch what)

def asBool (what : String) : AttributeValue → Except ConnectionError Bool
  | bool b => .ok b
  | _ => .error (.typeMismatch what)

def asUsage (what : String) : AttributeValue → Except ConnectionError MemoryUsage
  | usage u => .ok u
  | _ => .error (.typeMismatch what)

/-- Null is an empty list of texts. -/
def asTexts (what : String) : AttributeValue → Except ConnectionError (List String)
  | texts ss => .ok ss
  | null => .ok []
  | _ => .error (.typeMismatch what)

def asProperties (what : String) : AttributeValue → Except ConnectionError Properties
  | properties p => .ok p
  | _ => .error (.typeMismatch what)

/-- Null is no list of numbers, which is not the same as an empty one. -/
def asLongs? (what : String) : AttributeValue → Except ConnectionError (Option (List Int))
  | null => .ok none
  | longs ns => .ok (some ns)
  | _ => .error (.typeMismatch what)

/-- Null is a thread that is gone. -/
def asThread? (what : String) : AttributeValue → Except ConnectionError (Option ThreadInfo)
  | null => .ok none
  | thread t => .ok (some t)
  | _ => .error (.typeMismatch what)

end AttributeValue

/-! ### Documents -/

namespace MemoryUsage

def fields : List Decode.Field := [⟨"init", []⟩, ⟨"used", []⟩, ⟨"committed", []⟩, ⟨"max", []⟩]

/-- All four sizes have to be there. -/
def ofRecord (r : Decode.Record) : Option MemoryUsage := do
  return {
    init := ← r.required "init" Decode.int64
    used := ← r.required "used" Decode.int64
    committed := ← r.required "committed" Decode.int64
    max := ← r.required "max" Decode.int64 }

def decode (format : Format) : Decoder MemoryUsage := fun d =>
  Decode.record format fields d >>= ofRecord

def encode (u : MemoryUsage) : Doc :=
  .record [("init", .int u.init), ("used", .int u.used), ("committed", .int u.committed),
    ("max", .int u.max)]

end MemoryUsage

namespace ThreadInfo

def fields : List Decode.Field :=
  [⟨"thread_id", []⟩, ⟨"thread_name", []⟩, ⟨"thread_state", []⟩, ⟨"lock_owner_id", []⟩]

/-- A thread without a lock owner waits for nobody. -/
def ofRecord (r : Decode.Record) : Option ThreadInfo := do
  return {
    id := ← r.required "thread_id" Decode.int64
    name := ← r.required "thread_name" Decode.text
    state := ← r.required "thread_state" Decode.text
    lockOwner := ← r.orElse "lock_owner_id" (-1) Decode.int64 }

def encode (t : ThreadInfo) : Doc :=
  .record [("thread_id", .int t.id), ("thread_name", .text t.name),
    ("thread_state", .text t.state), ("lock_owner_id", .int t.lockOwner)]

end ThreadInfo

namespace Doc

mutual

/-- The document with the types of its leaves settled and without tags. What a tag names as an
alternative has no value. -/
def settled : Doc → Doc
  | .scalar s => .scalar s.settled
  | .list items => .list (settledItems items)
  | .table entries => .table (settledEntries entries)
  | .tagged tag d =>
    if (Tag.alternative? tag).isSome then .scalar .unreadable
    else match d with
      | .scalar s => .scalar (s.settledAs tag)
      | .list items => .list (settledItems items)
      | .table entries => .table (settledEntries entries)
      | .tagged _ _ => .scalar .unreadable

def settledItems : List Doc → List Doc
  | [] => []
  | d :: ds => settled d :: settledItems ds

def settledEntries : List (Doc × Doc) → List (Doc × Doc)
  | [] => []
  | (k, d) :: es => (settled k, settled d) :: settledEntries es

end

end Doc

namespace AttributeValue

/-- The value of a leaf whose type is settled; a whole number beyond sixty-four bits is a
floating-point one. -/
def ofScalar : Scalar → Option AttributeValue
  | .null => some null
  | .bool b => some (bool b)
  | .int n =>
    if isInt64 n then some (long n)
    else some (double (Binary64.ofFloat (nearestFloat n)))
  | .float x => some (double x)
  | .text s => some (text s)
  | .plain _ => none
  | .literal _ => none
  | .unreadable => none

/-- The value of a list or table: the first of the types that fits. -/
def ofCompound (d : Doc) : Option AttributeValue :=
  ((Decode.list Decode.int64 d).map longs)
    <|> ((Decode.list Decode.text d).map texts)
    <|> ((Decode.record? true MemoryUsage.fields d >>= MemoryUsage.ofRecord).map usage)
    <|> ((Decode.record? true ThreadInfo.fields d >>= ThreadInfo.ofRecord).map thread)
    <|> ((Decode.textTable d).map properties)

/-- Reads a value from its natural spelling, in which lists and tables are nested at most `depth`
deep. -/
def decode (depth : Nat) : Decoder AttributeValue := fun d =>
  let d := d.settled
  if d.readable depth then
    match d with
    | .scalar s => ofScalar s
    | .tagged _ _ => none
    | d => ofCompound d
  else none

/-- The natural spelling of a value. -/
def encode : AttributeValue → Doc
  | null => .null
  | bool b => .bool b
  | long n => .int n
  | double x => .float x
  | text s => .text s
  | longs ns => .list (ns.map .int)
  | texts ss => .list (ss.map .text)
  | usage u => u.encode
  | thread t => t.encode
  | properties p => .record (p.map fun (k, v) => (k, .text v))

end AttributeValue

end VmMonitor
