import VmMonitor.Number.Shortest

/-!
# Documents

The tree that a configuration or scenario text stands for, before any meaning is given to it. The
three text formats share it. Three leaves keep a decision open until a value is asked for:

* `Scalar.plain` is a YAML scalar without quotes, whose type depends on who asks;
* `Scalar.literal` is a YAML scalar that stands line by line, a text unless a tag gives it a type;
* `Scalar.unreadable` is well-formed text without a value (a number out of range, half of a
  surrogate pair), which is harmless where nobody asks.

A tag says what a node stands for. It is never nested in another tag.
-/

namespace VmMonitor

/-- A leaf of a document. -/
inductive Scalar
  | null
  | bool (b : Bool)
  | int (n : Int)
  | float (x : Binary64)
  | text (s : String)
  | plain (s : String)
  | literal (s : String)
  | unreadable
  deriving DecidableEq, Repr, Inhabited

/-- A document: a leaf, a list, a table of entries in the order of the text, or a tagged node. The
keys of a table are documents too, most often texts. -/
inductive Doc
  | scalar (s : Scalar)
  | list (items : List Doc)
  | table (entries : List (Doc × Doc))
  | tagged (tag : String) (content : Doc)
  deriving Repr, Inhabited

namespace Doc

def null : Doc := .scalar .null

def bool (b : Bool) : Doc := .scalar (.bool b)

def int (n : Int) : Doc := .scalar (.int n)

def nat (n : Nat) : Doc := .scalar (.int n)

def float (x : Binary64) : Doc := .scalar (.float x)

def text (s : String) : Doc := .scalar (.text s)

/-- A table whose keys are texts. -/
def record (entries : List (String × Doc)) : Doc :=
  .table (entries.map fun (k, d) => (.text k, d))

/-- The node behind its tag, if it has one. -/
def untagged : Doc → Doc
  | .tagged _ d => d
  | d => d

/-- Whether a key is this text. -/
def isNamed (d : Doc) (key : String) : Bool :=
  match d with
  | .scalar (.text s) => s = key
  | _ => false

/-- `none` is written as null. -/
def optional {α : Type} (write : α → Doc) : Option α → Doc
  | none => null
  | some a => write a

mutual

/-- Whether every leaf has a value and lists and tables are nested at most `depth` deep. -/
def readable (depth : Nat) : Doc → Bool
  | .scalar s => decide (s ≠ .unreadable)
  | .list items =>
    match depth with
    | 0 => false
    | n + 1 => allReadable n items
  | .table entries =>
    match depth with
    | 0 => false
    | n + 1 => entriesReadable n entries
  | .tagged _ d => readable depth d

/-- All items are readable. -/
def allReadable (depth : Nat) : List Doc → Bool
  | [] => true
  | d :: ds => readable depth d && allReadable depth ds

/-- All entries are readable. -/
def entriesReadable (depth : Nat) : List (Doc × Doc) → Bool
  | [] => true
  | (k, d) :: es => readable depth k && readable depth d && entriesReadable depth es

end

/-- The value under the first entry with this text as its key. -/
def get? (d : Doc) (key : String) : Option Doc :=
  match d with
  | .table entries => (entries.find? fun e => e.1.isNamed key).map (·.2)
  | _ => none

end Doc

end VmMonitor
