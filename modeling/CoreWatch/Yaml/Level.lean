set_option autoImplicit false

namespace CoreWatch.Yaml

structure Level where
  column : Int
  /-- Whether it is a list or a record, or only what must be deeper than one. -/
  isBlock : Bool

abbrev Levels := List Level

namespace Levels

def indent (levels : Levels) : Int :=
  match levels with
  | [] => -1
  | level :: _ => level.column

def isInBlock (levels : Levels) : Bool :=
  levels.head?.any Level.isBlock

/-- The levels without inner ones that are no lists or records. -/
def blocks (levels : Levels) : Levels :=
  levels.dropWhile fun level => !level.isBlock

/-- The levels in which a list or a record at a column stands, or goes on. -/
def settle (levels : Levels) (column : Nat) : Levels :=
  if levels.indent ≤ column && !levels.isInBlock then levels.drop 1 else levels

/-- What stands inside an item or a value is deeper by a column at least. -/
def nest (levels : Levels) : Levels :=
  if levels.isInBlock then ⟨levels.indent + 1, false⟩ :: levels else levels

end Levels

end CoreWatch.Yaml
