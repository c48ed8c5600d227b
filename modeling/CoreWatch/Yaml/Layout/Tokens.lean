import CoreWatch.Yaml.Block
import CoreWatch.Yaml.Layout.Basic
import CoreWatch.Yaml.Plain
import CoreWatch.Yaml.Quoted
import CoreWatch.Yaml.Tag

set_option autoImplicit false

namespace CoreWatch.Yaml.Layout

def takeDirective (layout : Layout) : Option Layout := do
  let layout ← (layout.unwind (-1)).dropMark
  let (token, place) ← Yaml.takeDirective layout.place
  return { layout.emit token with place, keyAllowed := false }

def takeDocumentMark (layout : Layout) (token : Token) : Option Layout := do
  let layout ← (layout.unwind (-1)).dropMark
  return { layout.emit token with place := layout.place.skip 3, keyAllowed := false }

/-- The greatest depth of lists and records in brackets. -/
def maxDepth : Nat := 255

def takeFlowStart (layout : Layout) (token : Token) : Option Layout :=
  let layout := layout.markKey.nest
  if layout.outerMarks.length = maxDepth then none
  else
    { layout.emit token with
      place := layout.place.next
      keyAllowed := true
      mark := none
      outerMarks := layout.mark :: layout.outerMarks
      pairs := if token = .flowList then false :: layout.pairs else layout.pairs
      inRecord := layout.inRecord || token = .flowRecord : Layout }.skipBlanks

def takeFlowEnd (layout : Layout) (token : Token) : Option Layout :=
  match layout.outerMarks with
  | [] => none
  | mark :: outerMarks => do
    let layout := { layout with mark, outerMarks, keyAllowed := false }
    let layout :=
      if token = .flowListEnd then
        let ended := layout.endPair
        { ended with pairs := ended.pairs.drop 1 }
      else layout
    let layout ← { layout.emit token with place := layout.place.next : Layout }.skipBlanks
    return if layout.inFlow then { layout with joined := layout.place.index } else layout

def takeComma (layout : Layout) : Option Layout :=
  if !layout.inFlow then none
  else
    let layout := { layout with mark := none, keyAllowed := true }.endPair
    { layout.emit .comma with place := layout.place.next : Layout }.skipBlanks

def takeItem (layout : Layout) : Option Layout :=
  if layout.inFlow || !layout.keyAllowed then none
  else do
    let after := layout.place.next
    let place ← after.skipBlanks
    let hasTab := (after.rest.takeWhile isBlank).contains '\t'
    if hasTab && place.isAt '-' && isApart (place.rest.drop 1) then none
    else
      let layout := layout.openBlock layout.place.column layout.tokens.length .blockList
      let nested :=
        if place.rest.head?.any fun c => c = '\n' || isFlowMark c then layout.nest else layout
      let layout ← { nested with place }.dropMark
      return { layout.emit .item with keyAllowed := true }

def takeKey (layout : Layout) : Option Layout :=
  if !layout.inFlow && !layout.keyAllowed then none
  else do
    let layout := layout.openBlock layout.place.column layout.tokens.length .blockRecord
    let layout ← { layout with inRecord := layout.inRecord || layout.inFlow }.dropMark
    let place ← layout.place.next.skipSpaces
    return { layout.emit .key with place, keyAllowed := !layout.inFlow }

/-- The place after a colon; only a tab between it and a word is refused. -/
def skipColon (place : Place) : Option Place :=
  let after := place.next
  if after.isAt '\t' then
    after.skipBlanks.filter fun next =>
      (after.rest.takeWhile isBlank).contains ' ' || !next.rest.head?.any isNameChar
  else some after

def takeValue (layout : Layout) : Option Layout := do
  let start := layout.place
  let isPair := !layout.pairs.isEmpty && !layout.inRecord
  let pairStart := if isPair then [Token.flowRecord] else []
  let layout := if isPair then { layout with pairs := true :: layout.pairs.drop 1 } else layout
  let layout := { layout with place := ← skipColon start }
  match layout.mark with
  | some mark =>
    if isPair && mark.line < start.line then none
    else
      let layout := layout.insert mark.before (pairStart ++ [.key])
      let layout := (layout.openBlock mark.column mark.before .blockRecord).nest
      return { layout.emit .value with mark := none, keyAllowed := false }
  | none =>
    if !layout.inFlow && !layout.keyAllowed then none
    else
      let layout := layout.insert layout.tokens.length pairStart
      let layout := (layout.openBlock start.column layout.tokens.length .blockRecord).nest
      return { layout.emit .value with keyAllowed := !layout.inFlow }

def takeNamed (layout : Layout) (token : String → Token) : Option Layout := do
  let layout := layout.markKey
  let (name, place) ← takeAnchorName layout.place.next
  return { layout.emit (token name) with place, keyAllowed := false }

def takeTag (layout : Layout) : Option Layout := do
  let layout := layout.markKey
  let (token, place) ← Yaml.takeTag layout.inFlow layout.place
  return { layout.emit token with place, keyAllowed := false }

def takeBlockText (layout : Layout) (isFolded : Bool) : Option Layout := do
  let layout := layout.markKey
  let levels := layout.levels.blocks
  let (text, place) ← Block.read isFolded levels.indent layout.place.next
  return { layout.emit (.scalar false (String.ofList text)) with place, levels, keyAllowed := true }

def takeQuoted (layout : Layout) (quote : Char) : Option Layout := do
  let layout := layout.markKey
  let (text, place) ← Quoted.read layout.inFlow layout.indent quote layout.place
  let layout ← { layout with place, keyAllowed := false }.skipGap
  return { layout.emit (.scalar false (String.ofList text)) with joined := layout.place.index }

def takePlain (layout : Layout) : Option Layout :=
  let layout := layout.markKey
  let levels := layout.levels.blocks
  let indent := levels.indent + 1
  if layout.inFlow && layout.place.column < indent then none
  else do
    let (text, place) ← Plain.read layout.inFlow indent (layout.place.rest.length + 1) layout.place
    let layout := layout.emit (.scalar true (String.ofList text))
    return { layout with place, levels, keyAllowed := place.inMargin }

/-- Takes what begins with a character that no blank is before. -/
def takeAt (layout : Layout) (c : Char) (rest : List Char) : Option Layout :=
  let joinsValue :=
    layout.inFlow && (rest.head?.any isFlowMark || layout.place.index = layout.joined)
  match c with
  | '[' => layout.takeFlowStart .flowList
  | '\x7b' => layout.takeFlowStart .flowRecord
  | ']' => layout.takeFlowEnd .flowListEnd
  | '\x7d' => layout.takeFlowEnd .flowRecordEnd
  | ',' => layout.takeComma
  | '-' => if isApart rest then layout.takeItem else layout.takePlain
  | '?' => if isApart rest then layout.takeKey else layout.takePlain
  | ':' => if isApart rest || joinsValue then layout.takeValue else layout.takePlain
  | '*' => layout.takeNamed .link
  | '&' => layout.takeNamed .anchor
  | '!' => layout.takeTag
  | '|' => if layout.inFlow then layout.takePlain else layout.takeBlockText false
  | '>' => if layout.inFlow then layout.takePlain else layout.takeBlockText true
  | '\'' => layout.takeQuoted '\''
  | '"' => layout.takeQuoted '"'
  | '%' => none
  | '@' => none
  | '\x60' => none
  | _ => layout.takePlain

def take (layout : Layout) : Option Layout :=
  let place := layout.place
  match place.rest with
  | [] => none
  | c :: rest =>
    if place.column = 0 && c = '%' then layout.takeDirective
    else if place.atDocumentStart then layout.takeDocumentMark .documentStart
    else if place.atDocumentEnd then
      ((layout.takeDocumentMark .documentEnd).bind skipBlanks).filter (·.place.atLineEnd)
    else if place.column < layout.indent then none
    else layout.takeAt c rest

def run : (fuel : Nat) → Layout → Option Layout
  | 0, _ => none
  | fuel + 1, layout => do
    let layout ← layout.skipGap
    let layout ← layout.dropStale
    if layout.place.rest.isEmpty then
      if layout.inFlow then none else (layout.unwind (-1)).dropMark
    else (layout.unwind layout.place.column).take.bind (run fuel)

def tokens? (text : List Char) : Option (List Token) :=
  (run (text.length + 1) (start text)).map fun layout => layout.tokens.reverse

end CoreWatch.Yaml.Layout
