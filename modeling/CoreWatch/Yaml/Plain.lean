import CoreWatch.Yaml.Gap

set_option autoImplicit false

namespace CoreWatch.Yaml.Plain

/-- Whether a character belongs to a word, with this text after it. -/
def continues (inFlow : Bool) (c : Char) (rest : List Char) : Bool :=
  !isBlank c && c != '\n' && !(inFlow && isFlowMark c) &&
    !(c = ':' && (isApart rest || (inFlow && rest.head?.any isFlowMark)))

def word (inFlow : Bool) : List Char → List Char
  | [] => []
  | c :: rest => if continues inFlow c rest then c :: word inFlow rest else []

/-- Whether a lone hyphen is next to a mark of a list or a record in brackets. -/
private def isLoneHyphen : List Char → Bool
  | '-' :: c :: _ => isFlowMark c
  | _ => false

/-- A line that begins with a tab too early holds no more than a comment. -/
private def skipTabbed (place : Place) : Option Place :=
  place.skipBlanks.filter Place.atLineEnd

/-- Reads a text whose lines are indented to a column, unless it stands in brackets. -/
def read (inFlow : Bool) (indent : Int) : (fuel : Nat) → Place → Option (List Char × Place)
  | 0, place => some ([], place)
  | fuel + 1, place =>
    if place.atDocumentMark || place.isAt '#' then some ([], place)
    else if inFlow && isLoneHyphen place.rest then none
    else
      let first := word inFlow place.rest
      let after := place.skip first.length
      if !isApart after.rest || after.rest.isEmpty then some (first, after)
      else do
        let (gap, next) ← Gap.read indent skipTabbed fuel ⟨[], 0, false⟩ after
        if !inFlow && next.column < indent then return (first, next)
        else
          let (more, last) ← read inFlow indent fuel next
          return (if more.isEmpty then first else first ++ gap.text ++ more, last)

end CoreWatch.Yaml.Plain
