import CoreWatch.Yaml.Place

set_option autoImplicit false

namespace CoreWatch.Yaml

structure Gap where
  /-- Blanks before the first line end. -/
  blanks : List Char
  /-- How many lines end in the gap, without one that is escaped. -/
  breaks : Nat
  /-- Whether the first line end in the gap is escaped, so that it leaves nothing. -/
  isEscaped : Bool

namespace Gap

def text (gap : Gap) : List Char :=
  if gap.isEscaped then List.replicate gap.breaks '\n'
  else
    match gap.breaks with
    | 0 => gap.blanks
    | 1 => [' ']
    | n + 2 => List.replicate (n + 1) '\n'

/-- Reads a gap; what becomes of a tab before the column `indent` of a line is up to `onTab`. -/
def read (indent : Int) (onTab : Place → Option Place) :
    (fuel : Nat) → Gap → Place → Option (Gap × Place)
  | 0, gap, place => some (gap, place)
  | fuel + 1, gap, place =>
    match place.rest with
    | [] => some (gap, place)
    | c :: _ =>
      if c = '\n' then read indent onTab fuel { gap with breaks := gap.breaks + 1 } place.next
      else if !isBlank c then some (gap, place)
      else if gap.breaks = 0 && !gap.isEscaped then
        read indent onTab fuel { gap with blanks := gap.blanks ++ [c] } place.next
      else if c = '\t' && place.column < indent then
        match onTab place with
        | some after => read indent onTab fuel gap after
        | none => none
      else read indent onTab fuel gap place.next

end Gap
end CoreWatch.Yaml
