import CoreWatch.Double.Decimal
import CoreWatch.Text.Blank
import Std.Data.ExtTreeMap

set_option autoImplicit false

namespace CoreWatch.Exposition

/-- What a metric measures; anything but a gauge or a counter is unknown. -/
inductive Kind
  | gauge
  | counter
  | unknown
deriving DecidableEq, Repr

namespace Kind

def name : Kind → String
  | gauge => "gauge"
  | counter => "counter"
  | unknown => "unknown"

/-- The kind that a word announces, in any letter case. -/
def ofWord (word : List Char) : Kind :=
  let word := Text.lower word
  if word = "gauge".toList then gauge
  else if word = "counter".toList then counter
  else unknown

def rank : Kind → Nat
  | gauge => 0
  | counter => 1
  | unknown => 2

instance : Ord Kind :=
  ⟨compareOn rank⟩

instance : Std.TransOrd Kind :=
  inferInstanceAs (Std.TransCmp (compareOn rank))

instance : Std.LawfulEqOrd Kind where
  eq_of_compare {left right} h := by
    have same : left.rank = right.rank := Std.LawfulEqOrd.eq_of_compare h
    revert same
    cases left <;> cases right <;> decide

end Kind

structure Label where
  name : String
  value : String
deriving DecidableEq, Repr

namespace Label

instance : Ord Label :=
  ⟨compareLex (compareOn name) (compareOn value)⟩

instance : Std.TransOrd Label :=
  inferInstanceAs (Std.TransCmp (compareLex (compareOn Label.name) (compareOn Label.value)))

instance : Std.LawfulEqOrd Label where
  eq_of_compare {left right} h := by
    have both := compareLex_eq_eq.mp h
    cases left
    cases right
    simp only [Label.mk.injEq]
    exact ⟨Std.LawfulEqOrd.eq_of_compare both.1, Std.LawfulEqOrd.eq_of_compare both.2⟩

end Label

/-- The labels of a sample by name, in ascending order of names. -/
abbrev LabelSet := Std.ExtTreeMap String String

namespace LabelSet

/-- The set of a sequence of labels; of labels with one name the last stays. -/
def ofLabels (labels : List Label) : LabelSet :=
  labels.foldl (fun labelSet label => labelSet.insert label.name label.value) ∅

def toLabels (labels : LabelSet) : List Label :=
  labels.toList.map fun entry => ⟨entry.1, entry.2⟩

end LabelSet

/-- The description of a metric that has none of its own. -/
def defaultHelp : String := "no description"

structure Sample where
  name : String
  kind : Kind
  help : String
  value : Double
  labels : LabelSet

def isLabelName : List Char → Bool
  | [] => false
  | c :: rest => (c.isAlpha || c = '_') && rest.all fun c => c.isAlphanum || c = '_'

def isMetricName : List Char → Bool
  | [] => false
  | c :: rest =>
    (c.isAlpha || c = '_' || c = ':') && rest.all fun c => c.isAlphanum || c = '_' || c = ':'

end CoreWatch.Exposition
