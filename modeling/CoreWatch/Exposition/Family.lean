import CoreWatch.Exposition.LabelText

set_option autoImplicit false

namespace CoreWatch.Exposition

/-- One line of a family: its labels in the order in which they are written, and a value. -/
structure Point where
  labels : List Label
  value : Double

structure Family where
  name : String
  help : String
  kind : Kind
  points : List Point

inductive EncodeFault
  | unnamedFamily
deriving DecidableEq, Repr

namespace EncodeFault

def message : EncodeFault → String
  | unnamedFamily => "Error: MetricFamily has no name"

end EncodeFault

/-- Writes a character of a description so that it does not end the line. -/
def escapeHelpChar (c : Char) : List Char :=
  if c = '\\' then ['\\', '\\'] else if c = '\n' then ['\\', 'n'] else [c]

namespace Kind

/-- The kind that is announced for a family; what is unknown counts as a gauge. -/
def announced : Kind → Kind
  | counter => counter
  | gauge => gauge
  | unknown => gauge

end Kind

def Point.line (name : List Char) (point : Point) : List Char :=
  let labels := if point.labels.isEmpty then [] else '\x7b' :: renderLabels point.labels ++ ['\x7d']
  name ++ labels ++ ' ' :: point.value.toChars

namespace Family

def helpLine (family : Family) : List Char :=
  "# HELP ".toList ++ family.name.toList ++ ' ' :: family.help.toList.flatMap escapeHelpChar

def typeLine (family : Family) : List Char :=
  "# TYPE ".toList ++ family.name.toList ++ ' ' :: family.kind.announced.name.toList

/-- The lines of one family: its description unless that is empty, its kind, and its points. -/
def lines (family : Family) : List (List Char) :=
  (if family.help.isEmpty then [] else [family.helpLine]) ++
    family.typeLine :: family.points.map (Point.line family.name.toList)

end Family

/-- A measure that is shown of every item of one kind. -/
structure Measure (α : Type) where
  name : String
  help : String
  kind : Kind
  value : α → Double

/-- A family for each measure, with a point for each item. -/
def sheet {α : Type} (measures : List (Measure α)) (labels : α → List Label) (items : List α) :
    List Family :=
  measures.map fun measure =>
    ⟨measure.name, measure.help, measure.kind,
      items.map fun item => ⟨labels item, measure.value item⟩⟩

/-- Writes families in their order; those without points are left out. -/
def encode (families : List Family) : Except EncodeFault String :=
  let families := families.filter fun family => !family.points.isEmpty
  if families.any fun family => family.name.isEmpty then .error .unnamedFamily
  else .ok (String.ofList ((families.flatMap Family.lines).flatMap (· ++ ['\n'])))

def contentType : String := "text/plain; version=0.0.4; charset=utf-8"

end CoreWatch.Exposition
