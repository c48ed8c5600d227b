set_option autoImplicit false

namespace CoreWatch

/-- The number of doubles from one power of two to the next. -/
def binade : Nat := 4503599627370496

/-- The rank that infinity would have: there are that many non-negative finite doubles. -/
def topRank : Nat := 2047 * binade

inductive Double
  | nan
  | infinite (negative : Bool)
  | finite (negative : Bool) (rank : Fin topRank)
deriving DecidableEq

namespace Double

/-- The number of binary places that a unit is below one. -/
def unitPlaces : Nat := 1074

def one : Nat := Nat.pow 2 unitPlaces

def units (rank : Nat) : Nat :=
  if rank < 2 * binade then rank
  else (binade + rank % binade) * Nat.pow 2 (rank / binade - 1)

/-- The rank nearest to a quotient of units, a tie going to the even rank. -/
def nearestRank (num den : Nat) : Nat :=
  let shift := (num / den).log2 - 52
  let step := den * Nat.pow 2 shift
  let below := shift * binade + num / step
  let twice := 2 * (num % step)
  if twice < step || (twice == step && below % 2 == 0) then below else below + 1

/-- The double nearest to a quotient of units; what reaches the top rank is infinite. -/
def ofUnits (negative : Bool) (num den : Nat) : Double :=
  let rank := nearestRank num den
  if h : rank < topRank then .finite negative ⟨rank, h⟩ else .infinite negative

def zero (negative : Bool) : Double :=
  .finite negative ⟨0, by decide⟩

def ofNat (n : Nat) : Double :=
  ofUnits false (n * one) 1

def isZero : Double → Bool
  | .finite _ rank => rank.val == 0
  | _ => false

def isNegative : Double → Bool
  | .nan => false
  | .infinite negative => negative
  | .finite negative _ => negative

def mul : Double → Double → Double
  | .nan, _ => .nan
  | _, .nan => .nan
  | .infinite s, y => if y.isZero then .nan else .infinite (s != y.isNegative)
  | x, .infinite t => if x.isZero then .nan else .infinite (x.isNegative != t)
  | .finite s j, .finite t k => ofUnits (s != t) (units j * units k) one

def div : Double → Double → Double
  | .nan, _ => .nan
  | _, .nan => .nan
  | .infinite _, .infinite _ => .nan
  | .infinite s, y => .infinite (s != y.isNegative)
  | x, .infinite t => zero (x.isNegative != t)
  | .finite s j, .finite t k =>
    if k.val = 0 then
      if j.val = 0 then .nan else .infinite (s != t)
    else
      ofUnits (s != t) (units j * one) (units k)

private def signed (negative : Bool) (rank : Nat) : Int :=
  if negative then -(units rank : Int) else units rank

/-- A sum of zero is negative only when both operands are. -/
def add : Double → Double → Double
  | .nan, _ => .nan
  | _, .nan => .nan
  | .infinite s, .infinite t => if s = t then .infinite s else .nan
  | .infinite s, _ => .infinite s
  | _, .infinite t => .infinite t
  | .finite s j, .finite t k =>
    let total := signed s j + signed t k
    if total = 0 then zero (s && t) else ofUnits (total < 0) total.natAbs 1

def isNonneg (x : Double) : Bool :=
  match x with
  | .nan => false
  | x => x.isZero || !x.isNegative

/-- The whole part of a non-negative number, at most `bound`; anything else gives zero. -/
def wholePart (bound : Nat) : Double → Nat
  | .finite false rank => min (units rank / one) bound
  | .infinite false => bound
  | _ => 0

/-- The nearest integer, halves going away from zero; `none` unless the number is finite. -/
def nearestInt? : Double → Option Int
  | .finite negative rank =>
    let magnitude := (2 * units rank + one) / (2 * one)
    some (if negative then -(magnitude : Int) else magnitude)
  | _ => none

end Double
end CoreWatch
