import CoreWatch.Bits
import CoreWatch.Double.Decimal

set_option autoImplicit false

namespace CoreWatch

structure Span where
  nanos : Nat
deriving DecidableEq, Repr

namespace Span

def perSecond : Nat := 1000000000

def perMilli : Nat := 1000000

/-- A span that can be held is shorter than this: seconds count up to 64 bits. -/
def limit : Nat := Bits.bound 64 * perSecond

def zero : Span := ⟨0⟩

def ofSeconds (seconds : Nat) : Span :=
  ⟨seconds * perSecond⟩

def ofMillis (millis : Nat) : Span :=
  ⟨millis * perMilli⟩

def seconds (span : Span) : Nat :=
  span.nanos / perSecond

def millis (span : Span) : Nat :=
  span.nanos / perMilli

def ofNanos? (nanos : Nat) : Option Span :=
  if nanos < limit then some ⟨nanos⟩ else none

def add? (left right : Span) : Option Span :=
  ofNanos? (left.nanos + right.nanos)

def twice? (span : Span) : Option Span :=
  ofNanos? (2 * span.nanos)

/-- The length in seconds: the whole seconds plus the rest of a second. -/
def toDouble (span : Span) : Double :=
  .add (.ofNat span.seconds) (.div (.ofNat (span.nanos % perSecond)) (.ofNat perSecond))

/-- Whole seconds as `5s`; a span with a fraction of a second in milliseconds, as `2500ms`. -/
def toText (span : Span) : String :=
  if span.millis % 1000 = 0 then toString span.seconds ++ "s" else toString span.millis ++ "ms"

end Span
end CoreWatch
