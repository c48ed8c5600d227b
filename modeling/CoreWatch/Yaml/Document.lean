import CoreWatch.Yaml.Cursor
import CoreWatch.Yaml.Layout.Tokens

set_option autoImplicit false

namespace CoreWatch.Yaml

def Token.isDirective : Token → Bool
  | .version => true
  | .handle _ _ => true
  | _ => false

def Token.isDocumentMark : Token → Bool
  | .documentStart => true
  | .documentEnd => true
  | token => token.isDirective

/--
Reads the lines in front of a document and the mark at its start. The version is given once at most,
and only the last line tells what tags mean.
-/
def readHead (tokens : List Token) : Option (Handles × List Token) :=
  let directives := tokens.takeWhile Token.isDirective
  let handles := match directives.getLast? with
    | some (.handle name meaning) => [(name, meaning)]
    | _ => []
  if 1 < directives.count .version then none
  else
    match tokens.drop directives.length with
    | .documentStart :: rest => some (handles, rest)
    | _ => none

/-- Reads a document, which has a mark at its start unless it may be `bare`. -/
def readDocument (bare : Bool) (tokens : List Token) : Option (Value × List Token) := do
  let isBare := bare && !tokens.head?.any Token.isDocumentMark
  let (handles, tokens) ← if isBare then some ([], tokens) else readHead tokens
  if !isBare && tokens.head?.all Token.isDocumentMark then return (.null, tokens)
  else
    let (value, cursor) ← Cursor.readWhole handles ⟨tokens, .empty⟩
    return (value, cursor.tokens)

/-- Reads document after document. Lines about the next one stand after an end mark only. -/
def readDocuments : (fuel : Nat) → (bare : Bool) → List Token → Option (List Value)
  | 0, _, _ => none
  | fuel + 1, bare, tokens =>
    match tokens.dropWhile (· = .documentEnd) with
    | [] => some []
    | tokens => do
      let (value, rest) ← readDocument bare tokens
      let isEnded := rest.head? == some .documentEnd
      if !isEnded && rest.head?.any Token.isDirective then none
      else
        let more ← readDocuments fuel isEnded (if isEnded then rest.drop 1 else rest)
        return value :: more

def documents? (text : List Char) : Option (List Value) :=
  (Layout.tokens? text).bind fun tokens => readDocuments (tokens.length + 1) true tokens

end CoreWatch.Yaml
