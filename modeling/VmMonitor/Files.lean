import VmMonitor.Text.Path
import VmMonitor.Table

/-!
# Files as they are seen

What a run depends on of the file system: which paths are there, and what the readable files hold.
-/

namespace VmMonitor

/-- A view of the file system. -/
structure Files where
  isThere : String → Bool
  /-- What a file holds; a directory holds nothing. -/
  content : String → Option String
  /-- Whether a file can be written. -/
  isWritable : String → Bool

namespace Files

/-! ### Why a file cannot be read -/

/-- Whether a name has more bytes than a file system admits. -/
def isLongName (name : List Char) : Bool := 255 < (String.ofList name).utf8ByteSize

/-- Whether a path has more bytes than a file system admits. -/
def isLongPath (path : String) : Bool := 4096 ≤ path.utf8ByteSize

/-- A part of a path that stays in a directory or goes up from it. -/
def isStep (part : List Char) : Bool := part = [] || part = ['.'] || part = ['.', '.']

/-- Why the parts of a path lead to no file. `before` was passed; it is a file itself if `inFile`
says so. -/
def fault (files : Files) : Bool → List Char → List (List Char) → String
  | _, _, [] => "Is a directory (os error 21)"
  | true, _, _ :: _ => "Not a directory (os error 20)"
  | false, before, part :: parts =>
    let here := before ++ part
    if isStep part then fault files false (here ++ ['/']) parts
    else if isLongName part then "File name too long (os error 36)"
    else if files.isThere (String.ofList here) then
      fault files (files.content (String.ofList here)).isSome (here ++ ['/']) parts
    else "No such file or directory (os error 2)"

/-- The paths that are passed on the way along the parts of a path behind `before`. -/
def stations : List Char → List (List Char) → List String
  | _, [] => []
  | before, part :: parts =>
    let here := before ++ part
    let behind := stations (here ++ ['/']) parts
    if isStep part then behind else String.ofList here :: behind

/-- Why a file cannot be read. -/
def reasonUnreadable (files : Files) (path : String) : String :=
  if path.isEmpty then "No such file or directory (os error 2)"
  else if path.toList.contains '\x00' then "file name contained an unexpected NUL byte"
  else if isLongPath path then "File name too long (os error 36)"
  else files.fault false [] (splitAll '/' path.toList)

/-! ### A single directory -/

/-- Whether a path can be looked up at all. -/
def isPath (path : String) : Bool :=
  !path.isEmpty && !isLongPath path && !path.toList.contains '\x00'

/-- The name of a file in the working directory; other paths have none. -/
def nameHere? (path : String) : Option String :=
  match (splitAll '/' path.toList).reverse with
  | name :: before =>
    if isPath path && path.toList.head? ≠ some '/' && !isStep name && !isLongName name
      && before.all (fun part => part = [] || part = ['.']) then some (String.ofList name)
    else none
  | [] => none

/-- A working directory with nothing but files in it. -/
def directory (files : List (String × String)) : Files where
  isThere path :=
    isPath path && ((splitAll '/' path.toList).all isStep
      || (nameHere? path).any fun n => files.any fun f => f.1 = n)
  content path := do
    let name ← nameHere? path
    let file ← files.find? fun f => f.1 = name
    return file.2
  isWritable path := (nameHere? path).isSome

end Files

end VmMonitor
