import VmMonitor.ObjectName

/-!
# File names

A file's extension is what follows the last point of its name, unless that point is the first
character of the name.
-/

namespace VmMonitor.Path

/-- The last component of a path that names something. -/
def fileName? (path : String) : Option (List Char) :=
  let parts := (splitAll '/' path.toList).filter fun p => p ≠ [] ∧ p ≠ ['.']
  match parts.getLast? with
  | some name => if name = ['.', '.'] then none else some name
  | none => none

/-- The extension of a path. -/
def extension? (path : String) : Option String := do
  let name ← fileName? path
  let behind := name.reverse.takeWhile (· ≠ '.')
  let front := (name.reverse.dropWhile (· ≠ '.')).drop 1
  if front.isEmpty then none else some (String.ofList behind.reverse)

end VmMonitor.Path
