/-!
# Powers of two and ten

The bounds of machine integers are powers of two, and decimal places are powers of ten.
-/

namespace VmMonitor

def twoTo (e : Nat) : Nat := Nat.pow 2 e

def tenTo (e : Nat) : Nat := Nat.pow 10 e

/-- Whether a number is a signed one of 64 bits. -/
def isInt64 (n : Int) : Bool := -(twoTo 63 : Int) ≤ n && n < (twoTo 63 : Int)

end VmMonitor
