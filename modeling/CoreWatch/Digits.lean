set_option autoImplicit false

namespace CoreWatch.Digits

/-- The value of a digit, of which there are at most 36. -/
def value? (c : Char) : Option Nat :=
  if c.isDigit then some (c.toNat - '0'.toNat)
  else if c.isAlpha then some (c.toLower.toNat - 'a'.toNat + 10)
  else none

def read? (base : Nat) (digits : List Char) : Option Nat :=
  if digits.isEmpty then none
  else
    digits.foldlM (fun value c => do
      let digit ← value? c
      if digit < base then some (value * base + digit) else none) 0

def char? (digits : List Char) : Option Char :=
  ((read? 16 digits).filter fun code => code.isValidChar).map Char.ofNat

/-- The base that the start of a number shows, and its digits. -/
def splitBase : List Char → Nat × List Char
  | '0' :: 'x' :: rest => (16, rest)
  | '0' :: 'o' :: rest => (8, rest)
  | '0' :: 'b' :: rest => (2, rest)
  | word => (10, word)

end CoreWatch.Digits
