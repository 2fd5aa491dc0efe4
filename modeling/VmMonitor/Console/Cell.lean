import VmMonitor.Number.FixedPlaces
import VmMonitor.Text.Align

/-!
# Cells of a console

How single readings are written: sizes in megabytes, times in hours and minutes, loads in percent.
A cell is as wide as its column at least; a cell of free text is exactly as wide, while a number is
never cut.
-/

namespace VmMonitor.Cell

/-- A size in whole megabytes; a negative one is not known. -/
def megabytes (bytes : Int) : String :=
  if bytes < 0 then "n/a" else toString ((bytes.tdiv 1024).tdiv 1024) ++ "m"

/-- A number with a zero in front if it has one digit and no sign. -/
def twoDigits (n : Int) : String :=
  if 0 ≤ n ∧ n < 10 then "0" ++ toString n else toString n

/-- A time in hours and minutes. -/
def hoursMinutes (millis : Int) : String :=
  let seconds := millis.tdiv 1000
  twoDigits (seconds.tdiv 3600) ++ ":" ++ twoDigits ((seconds.tdiv 60).tmod 60) ++ "m"

/-- A number with two places. -/
def percent (x : Binary64) : String := padLeft 5 (x.fixed 2) ++ "%"

/-- A load, which is a share of one, in percent. -/
def load (x : Binary64) : String := percent (Binary64.ofFloat (x.toFloat * 100.0))

/-- Free text at the left end of a column. -/
def left (width : Nat) (s : String) : String := padRight width (leftmost width s)

/-- Free text at the right end of a column. -/
def right (width : Nat) (s : String) : String := padLeft width (leftmost width s)

/-- The sign of a deadlock. -/
def deadlock (found : Bool) : String := right 2 (if found then "!D" else "")

end VmMonitor.Cell
