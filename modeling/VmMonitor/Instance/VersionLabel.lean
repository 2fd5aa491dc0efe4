import VmMonitor.ObjectName
import VmMonitor.Table
import VmMonitor.Text.Numeral

/-!
# Labels of runtime versions

A console has five characters for a version. Two schemes are recognised: `1.8.0_292-b10` becomes
`8U292`, and a vendor build such as `pxa6470sr4fp2-20140419_01` becomes `1404`; the vendor's initial
goes in front. Any other version is kept as it is.
-/

namespace VmMonitor.VersionLabel

/-- A digit, a point, a digit, `.0_`, digits, a dash, and the rest of one line: the second digit and
the digits before the dash. -/
def legacy? : List Char → Option (Char × List Char)
  | a :: '.' :: minor :: '.' :: '0' :: '_' :: rest =>
    let build := rest.takeWhile isDigit
    match rest.dropWhile isDigit with
    | '-' :: tail =>
      if isDigit a && isDigit minor && !build.isEmpty && !tail.contains '\n' then
        some (minor, build)
      else none
    | _ => none
  | _ => none

/-- The text before and after the last occurrence of a character. -/
def splitLast? (sep : Char) (cs : List Char) : Option (List Char × List Char) :=
  (splitFirst? sep cs.reverse).map fun (a, b) => (b.reverse, a.reverse)

/-- What stands between the last underscore of a line and the last dash before it. -/
def vendorBuild? (cs : List Char) : Option (List Char) :=
  if cs.contains '\n' then none
  else do
    let (head, _) ← splitLast? '_' cs
    let (_, build) ← splitLast? '-' head
    return build

/-- The label of a version by a vendor. -/
def short (version vendor : String) : String :=
  let initial := vendor.toList.take 1
  match legacy? version.toList with
  | some (minor, build) => String.ofList (initial ++ minor :: 'U' :: build)
  | none =>
    match vendorBuild? version.toList with
    | some build => String.ofList (initial ++ (build.drop 2).take 4)
    | none => version

/-- The label of the runtime that has these system properties. -/
def shortOf (properties : Table String String) : String :=
  short ((Table.get? "java.runtime.version" properties).getD "")
    ((Table.get? "java.vendor" properties).getD "")

/-- Whether a text contains another one. -/
def contains (part : List Char) : List Char → Bool
  | [] => part.isEmpty
  | c :: cs => part.isPrefixOf (c :: cs) || contains part cs

/-- Whether the runtime counts CPU time in units of a hundred nanoseconds. -/
def countsHundredNanos (properties : Table String String) : Bool :=
  match Table.get? "java.vm.name" properties with
  | some name => contains ['J', '9'] name.toList
  | none => false

end VmMonitor.VersionLabel
