set_option autoImplicit false

namespace CoreWatch.Bits

/-- The number of values of that many bits. Numbers without a sign are below it. -/
def bound (bits : Nat) : Nat :=
  Nat.pow 2 bits

def top (bits : Nat) : Nat :=
  bound bits - 1

/-- Whether a number can be held with a sign, which takes one of the bits. -/
def holds (bits : Nat) (n : Int) : Bool :=
  -(bound (bits - 1) : Int) ≤ n && n < bound (bits - 1)

end CoreWatch.Bits
