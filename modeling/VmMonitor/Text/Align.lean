/-!
# Columns of text

Cells are cut and padded by characters (Unicode scalar values), whatever their display width.
-/

namespace VmMonitor

/-- The text with blanks in front until it is `width` characters long. -/
def padLeft (width : Nat) (s : String) : String :=
  String.ofList (List.replicate (width - s.length) ' ' ++ s.toList)

/-- The text with blanks behind until it is `width` characters long. -/
def padRight (width : Nat) (s : String) : String :=
  String.ofList (s.toList ++ List.replicate (width - s.length) ' ')

/-- The first `n` characters. -/
def leftmost (n : Nat) (s : String) : String := String.ofList (s.toList.take n)

/-- The last `n` characters. -/
def rightmost (n : Nat) (s : String) : String := String.ofList (s.toList.drop (s.length - n))

end VmMonitor
