import CoreWatch.Yaml.Word

set_option autoImplicit false

namespace CoreWatch.Yaml

inductive ScalarStyle
  | plain
  | singleQuoted
  | doubleQuoted
  | literal
deriving DecidableEq, Repr

def isBreak (c : Char) : Bool :=
  c = '\n' || c = '\r' || c = '\x85' || c = '\u2028' || c = '\u2029'

/-- Whether a character can stand as itself; all others need escapes. -/
def isPrintable (c : Char) : Bool :=
  let code := c.toNat
  c = '\n' || (0x20 ≤ code && code ≤ 0x7E) || (0xA0 ≤ code && code ≤ 0xD7FF) ||
    (0xE000 ≤ code && code ≤ 0xFFFD && code != 0xFEFF) || 0x10000 ≤ code

def endsToken (rest : List Char) : Bool :=
  match rest with
  | [] => true
  | c :: _ => c = ' ' || c = '\t' || isBreak c

/-- The characters that begin something else than a plain text. -/
def leadingIndicators : List Char :=
  ['#', ',', '[', ']', '\x7b', '\x7d', '&', '*', '!', '|', '>', '\'', '"', '%', '@', '\x60']

/-- Whether a text holds a colon before the end of a token, or a number sign after a blank. -/
def hasInnerIndicator : (afterBlank : Bool) → List Char → Bool
  | _, [] => false
  | afterBlank, c :: rest =>
    (c = ':' && endsToken rest) || (c = '#' && afterBlank) ||
      hasInnerIndicator (c = ' ' || c = '\t' || isBreak c) rest

def hasIndicator (text : List Char) : Bool :=
  "---".toList.isPrefixOf text || "...".toList.isPrefixOf text ||
    match text with
    | [] => false
    | c :: rest =>
      leadingIndicators.contains c ||
        ((c = '?' || c = ':' || c = '-') && endsToken rest) ||
        hasInnerIndicator (c = ' ' || c = '\t' || isBreak c) rest

def hasPair (first second : Char → Bool) : List Char → Bool
  | c :: d :: rest => (first c && second d) || hasPair first second (d :: rest)
  | _ => false

def isSpaceChar (c : Char) : Bool :=
  c = ' '

private def hasBlankEnd (text : List Char) : Bool :=
  text.head?.any isSpaceChar || text.getLast?.any isSpaceChar

def plainAllowed (text : List Char) : Bool :=
  text.all isPrintable && !text.any isBreak && !hasBlankEnd text && !hasIndicator text

def singleQuotedAllowed (text : List Char) : Bool :=
  text.all isPrintable && !hasPair isBreak isSpaceChar text && !hasPair isSpaceChar isBreak text

def literalAllowed (text : List Char) : Bool :=
  text.all isPrintable && !text.getLast?.any isSpaceChar && !hasPair isSpaceChar isBreak text

def styleOf (text : String) : ScalarStyle :=
  let chars := text.toList
  if chars.contains '\n' then
    if literalAllowed chars then .literal else .doubleQuoted
  else if !isTaken text && plainAllowed chars then .plain
  else if singleQuotedAllowed chars then .singleQuoted
  else .doubleQuoted

def spaces (n : Nat) : List Char :=
  List.replicate n ' '

/-- Indents what follows a run of line ends, up to the closing quote. -/
def writeSingle (indent : Nat) (afterBreak : Bool) : List Char → List Char
  | [] => if afterBreak then spaces indent else []
  | c :: rest =>
    if isBreak c then c :: writeSingle indent true rest
    else
      (if afterBreak then spaces indent else []) ++
        (if c = '\'' then ['\'', '\''] else [c]) ++ writeSingle indent false rest

def upperHex (width n : Nat) : List Char :=
  let digits := (Nat.toDigits 16 n).map Char.toUpper
  List.replicate (width - digits.length) '0' ++ digits

def escapeDouble (c : Char) : List Char :=
  match c with
  | '"' => ['\\', '"']
  | '\\' => ['\\', '\\']
  | '\x00' => ['\\', '0']
  | '\x07' => ['\\', 'a']
  | '\x08' => ['\\', 'b']
  | '\t' => ['\\', 't']
  | '\n' => ['\\', 'n']
  | '\x0b' => ['\\', 'v']
  | '\x0c' => ['\\', 'f']
  | '\r' => ['\\', 'r']
  | '\x1b' => ['\\', 'e']
  | '\x85' => ['\\', 'N']
  | '\u2028' => ['\\', 'L']
  | '\u2029' => ['\\', 'P']
  | c =>
    if isPrintable c then [c]
    else if c.toNat < 0x100 then '\\' :: 'x' :: upperHex 2 c.toNat
    else if c.toNat < 0x10000 then '\\' :: 'u' :: upperHex 4 c.toNat
    else '\\' :: 'U' :: upperHex 8 c.toNat

/-- Lines of a literal text, each indented unless it is empty. -/
def writeLines (indent : Nat) (atStart : Bool) : List Char → List Char
  | [] => []
  | c :: rest =>
    if isBreak c then c :: writeLines indent true rest
    else (if atStart then spaces indent else []) ++ c :: writeLines indent false rest

/-- How the line ends after a literal text count: kept, dropped, or just the one. -/
def chomping (text : List Char) : List Char :=
  match text.reverse with
  | [] => ['-']
  | c :: rest =>
    if !isBreak c then ['-']
    else
      match rest with
      | [] => ['+']
      | d :: _ => if isBreak d then ['+'] else []

def step : Nat := 2

def literalHead (text : List Char) : List Char :=
  let hint := if text.head?.any fun c => c = ' ' || isBreak c then ['2'] else []
  '|' :: hint ++ chomping text

/-- A text as it stands inside a level that is indented; a literal text brings its last line end. -/
def renderScalar (indent : Nat) (text : String) : List Char × Bool :=
  let chars := text.toList
  match styleOf text with
  | .plain => (chars, false)
  | .singleQuoted => ('\'' :: writeSingle indent false chars ++ ['\''], false)
  | .doubleQuoted => ('"' :: chars.flatMap escapeDouble ++ ['"'], false)
  | .literal =>
    (literalHead chars ++ '\n' :: writeLines indent true chars, chars.getLast?.any isBreak)

end CoreWatch.Yaml
