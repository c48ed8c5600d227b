import CoreWatch.Config.Setting
import CoreWatch.Digits

set_option autoImplicit false

namespace CoreWatch.Config.Toml

/-- Digits in which single underscores may stand between two of them; the result has none. -/
def plainDigits? (isDigit : Char → Bool) : List Char → Option (List Char)
  | [] => none
  | [c] => if isDigit c then some [c] else none
  | c :: '_' :: rest =>
    if isDigit c then (plainDigits? isDigit rest).map (c :: ·) else none
  | c :: rest => if isDigit c then (plainDigits? isDigit rest).map (c :: ·) else none

/-- The digits of a decimal number, which has no leading zero. -/
def decimalDigits? (word : List Char) : Option (List Char) :=
  (plainDigits? Char.isDigit word).filter fun digits =>
    digits.length = 1 || digits.head? != some '0'

private def basedInt? (word : List Char) : Option Int :=
  match Digits.splitBase word with
  | (10, _) => none
  | (base, digits) =>
    ((plainDigits? Char.isAlphanum digits).bind (Digits.read? base)).map Int.ofNat

/-- A whole number: decimal with an optional sign, or in another base. -/
def readInt? (word : List Char) : Option Int :=
  let (negative, body) := Decimal.takeSign word
  let decimal := (decimalDigits? body).map fun digits =>
    let value := Decimal.digitsValue digits
    if negative then -(value : Int) else value
  decimal.or (basedInt? word)

/-- The fraction and the exponent of a number, in plain digits, without its whole part. -/
private def tail? (fraction exponent : List Char) : Option (List Char) := do
  let fraction ← match fraction with
    | [] => some []
    | _ :: digits => (plainDigits? Char.isDigit digits).map ('.' :: ·)
  let exponent ← match exponent with
    | [] => some []
    | _ :: '+' :: digits => (plainDigits? Char.isDigit digits).map ('e' :: ·)
    | _ :: '-' :: digits => (plainDigits? Char.isDigit digits).map ('e' :: '-' :: ·)
    | _ :: digits => (plainDigits? Char.isDigit digits).map ('e' :: ·)
  if fraction.isEmpty && exponent.isEmpty then none else return fraction ++ exponent

/-- A number with a point or an exponent, which is not too large, or one of the special ones. -/
def readReal? (word : List Char) : Option Double :=
  let (negative, body) := Decimal.takeSign word
  if body = "inf".toList then some (.infinite negative)
  else if body = "nan".toList then some .nan
  else
    let isMark (c : Char) : Bool := c = 'e' || c = 'E'
    let mantissa := body.takeWhile (!isMark ·)
    let number? := do
      let whole ← decimalDigits? (mantissa.takeWhile (· != '.'))
      let tail ← tail? (mantissa.dropWhile (· != '.')) (body.dropWhile (!isMark ·))
      Double.read? ((if negative then ['-'] else []) ++ whole ++ tail)
    number?.filter (· != .infinite false)

/-- The value of two digits that is at least `low` and at most `high`. -/
private def twoDigits? (low high : Nat) (tens ones : Char) : Option Nat :=
  if tens.isDigit && ones.isDigit then
    (some (Decimal.digitsValue [tens, ones])).filter fun n => low ≤ n && n ≤ high
  else none

def isLeapYear (year : Nat) : Bool :=
  year % 4 = 0 && (year % 100 ≠ 0 || year % 400 = 0)

def daysIn (year month : Nat) : Nat :=
  if month = 2 then if isLeapYear year then 29 else 28
  else if month = 4 || month = 6 || month = 9 || month = 11 then 30
  else 31

def isDate : List Char → Bool
  | [y₁, y₂, y₃, y₄, '-', m₁, m₂, '-', d₁, d₂] =>
    [y₁, y₂, y₃, y₄].all Char.isDigit &&
      match twoDigits? 1 12 m₁ m₂ with
      | some month =>
        (twoDigits? 1 (daysIn (Decimal.digitsValue [y₁, y₂, y₃, y₄]) month) d₁ d₂).isSome
      | none => false
  | _ => false

/-- Whether eight characters are a time of day; a minute may end with a leap second. -/
def isClock : List Char → Bool
  | [h₁, h₂, ':', m₁, m₂, ':', s₁, s₂] =>
    (twoDigits? 0 23 h₁ h₂).isSome && (twoDigits? 0 59 m₁ m₂).isSome &&
      (twoDigits? 0 60 s₁ s₂).isSome
  | _ => false

/-- Splits the fraction off what follows a time of day; nine digits of it count. -/
private def takeFraction? : List Char → Option (List Char × List Char)
  | '.' :: rest =>
    let digits := rest.takeWhile Char.isDigit
    if digits.isEmpty then none
    else
      let kept := ((digits.take 9).reverse.dropWhile (· = '0')).reverse
      some (if kept.isEmpty then [] else '.' :: kept, rest.drop digits.length)
  | rest => some ([], rest)

private def zone? : List Char → Option (List Char)
  | [] => some []
  | [c] => if c = 'Z' || c = 'z' then some ['Z'] else none
  | [sign, h₁, h₂, ':', m₁, m₂] =>
    if (sign = '+' || sign = '-') && (twoDigits? 0 23 h₁ h₂).isSome &&
        (twoDigits? 0 59 m₁ m₂).isSome then
      some ((if [h₁, h₂, m₁, m₂].all (· = '0') then '+' else sign) :: [h₁, h₂, ':', m₁, m₂])
    else none
  | _ => none

/-- A time of day in the form in which it is written, with a distance from universal time or not. -/
def timeText? (zoned : Bool) (word : List Char) : Option (List Char) := do
  if !isClock (word.take 8) then none
  else
    let (fraction, rest) ← takeFraction? (word.drop 8)
    let zone ← zone? rest
    if !zoned && !zone.isEmpty then none else return word.take 8 ++ fraction ++ zone

def momentText? (word : List Char) : Option (List Char) :=
  if isDate (word.take 10) then
    match word.drop 10 with
    | [] => some word
    | separator :: rest =>
      if separator = 'T' || separator = 't' || separator = ' ' then
        (timeText? true rest).map fun time => word.take 10 ++ 'T' :: time
      else none
  else timeText? false word

def ofWord? (word : List Char) : Option Setting :=
  if word = "true".toList then some (.bool true)
  else if word = "false".toList then some (.bool false)
  else
    match readInt? word with
    | some n => if isInt64 n then some (.int n) else none
    | none =>
      match readReal? word with
      | some x => some (.real x)
      | none => (momentText? word).map fun text => .text (String.ofList text)

private def isWordChar (c : Char) : Bool :=
  c.isAlphanum || c = '+' || c = '-' || c = '.' || c = '_' || c = ':'

/-- Reads a word. A single space may stand between a date and a time of day. -/
def readWord (text : List Char) : Option (Setting × List Char) :=
  let word := text.takeWhile isWordChar
  let rest := text.drop word.length
  let more := (rest.drop 1).takeWhile isWordChar
  if isDate word && rest.head? = some ' ' && isClock (more.take 8) then
    (ofWord? (word ++ ' ' :: more)).map fun setting => (setting, rest.drop (more.length + 1))
  else (ofWord? word).map fun setting => (setting, rest)

end CoreWatch.Config.Toml
