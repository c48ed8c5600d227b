set_option autoImplicit false

namespace CoreWatch.Text

def byteLength : List Char → Nat
  | [] => 0
  | c :: rest => c.utf8Size + byteLength rest

theorem byteLength_append (front back : List Char) :
    byteLength (front ++ back) = byteLength front + byteLength back := by
  induction front with
  | nil => exact (Nat.zero_add (byteLength back)).symm
  | cons c front ih => rw [List.cons_append, byteLength, byteLength, ih, Nat.add_assoc]

/-- What stands at the head of a byte sequence: a character, or a malformed run to be replaced. -/
inductive Lead
  | char (c : Char) (width : Nat)
  | malformed (width : Nat)

private def isTail (byte : UInt8) : Bool :=
  0x80 ≤ byte && byte ≤ 0xBF

/-- The values that the second byte may take after a given first byte of a longer sequence. -/
private def secondAllowed (first second : UInt8) : Bool :=
  if first == 0xE0 then 0xA0 ≤ second && second ≤ 0xBF
  else if first == 0xED then 0x80 ≤ second && second ≤ 0x9F
  else if first == 0xF0 then 0x90 ≤ second && second ≤ 0xBF
  else if first == 0xF4 then 0x80 ≤ second && second ≤ 0x8F
  else isTail second

private def sixBits (byte : UInt8) : Nat :=
  byte.toNat % 64

/--
The character at the head of the bytes. A malformed run is the longest start of some well-formed
sequence, and one byte when there is none.
-/
def lead (first : UInt8) (rest : List UInt8) : Lead :=
  if first < 0x80 then .char (Char.ofNat first.toNat) 1
  else if 0xC2 ≤ first && first ≤ 0xDF then
    match rest with
    | second :: _ =>
      if isTail second then .char (Char.ofNat (first.toNat % 32 * 64 + sixBits second)) 2
      else .malformed 1
    | [] => .malformed 1
  else if 0xE0 ≤ first && first ≤ 0xEF then
    match rest with
    | second :: more =>
      if secondAllowed first second then
        match more with
        | third :: _ =>
          if isTail third then
            .char (Char.ofNat (first.toNat % 16 * 4096 + sixBits second * 64 + sixBits third)) 3
          else .malformed 2
        | [] => .malformed 2
      else .malformed 1
    | [] => .malformed 1
  else if 0xF0 ≤ first && first ≤ 0xF4 then
    match rest with
    | second :: more =>
      if secondAllowed first second then
        match more with
        | third :: last =>
          if isTail third then
            match last with
            | fourth :: _ =>
              if isTail fourth then
                .char (Char.ofNat (first.toNat % 8 * 262144 + sixBits second * 4096 +
                  sixBits third * 64 + sixBits fourth)) 4
              else .malformed 3
            | [] => .malformed 3
          else .malformed 2
        | [] => .malformed 2
      else .malformed 1
    | [] => .malformed 1
  else .malformed 1

/-- The characters of a byte sequence, `none` for each malformed run. -/
def decodeRuns : List UInt8 → List (Option Char)
  | [] => []
  | first :: rest =>
    match lead first rest with
    | .char c width => some c :: decodeRuns (rest.drop (width - 1))
    | .malformed width => none :: decodeRuns (rest.drop (width - 1))
termination_by bytes => bytes.length

def decode? (bytes : List UInt8) : Option (List Char) :=
  (decodeRuns bytes).mapM id

/-- Reads UTF-8 with U+FFFD in the place of every malformed run. -/
def decodeReplacing (bytes : List UInt8) : List Char :=
  (decodeRuns bytes).map (·.getD '\uFFFD')

end CoreWatch.Text
