import VmMonitor.Number.Power

/-!
# Counters

What a runtime counts are signed numbers of 64 bits, and what is computed from them is such a number
again. A result beyond one end of the range goes on from the other end.
-/

namespace VmMonitor.Counter

/-- What 64 bits keep of a result. -/
def wrap (n : Int) : Int := n.bmod (twoTo 64)

def add (a b : Int) : Int := wrap (a + b)

def sub (a b : Int) : Int := wrap (a - b)

def mul (a b : Int) : Int := wrap (a * b)

end VmMonitor.Counter
