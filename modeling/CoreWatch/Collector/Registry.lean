import CoreWatch.Exposition.Family
import CoreWatch.NetworkFunction.Basic

set_option autoImplicit false

namespace CoreWatch.Collector

open Exposition

def componentLabel : String := "component_id"

def functionLabel : String := "nf_type"

/-- The series of one metric by their own labels. -/
abbrev SeriesMap := Std.ExtTreeMap (List Label) Double

structure FamilyKey where
  name : String
  kind : Kind
deriving DecidableEq, Repr

namespace FamilyKey

/-- Families compare by name and then by kind. -/
instance : Ord FamilyKey :=
  ⟨compareLex (compareOn name) (compareOn kind)⟩

instance : Std.TransOrd FamilyKey :=
  inferInstanceAs (Std.TransCmp (compareLex (compareOn FamilyKey.name) (compareOn FamilyKey.kind)))

instance : Std.LawfulEqOrd FamilyKey where
  eq_of_compare {left right} h := by
    have both := compareLex_eq_eq.mp h
    cases left
    cases right
    simp only [FamilyKey.mk.injEq]
    exact ⟨Std.LawfulEqOrd.eq_of_compare both.1, Std.LawfulEqOrd.eq_of_compare both.2⟩

end FamilyKey

@[ext]
structure FamilyEntry where
  help : String
  series : SeriesMap

/--
The latest value of every series that one component has shown. A metric has one kind at a time: a
sample of another kind drops what was held of the metric before.
-/
structure Registry where
  component : String
  function : NetworkFunction
  entries : Std.ExtTreeMap FamilyKey FamilyEntry

namespace Registry

def empty (component : String) (function : NetworkFunction) : Registry :=
  ⟨component, function, ∅⟩

/-- The labels of a sample apart from those that the registry sets itself. -/
def ownLabels (labels : LabelSet) : List Label :=
  labels.toLabels.filter fun label =>
    label.name != componentLabel && label.name != functionLabel

def setLabels (registry : Registry) : List Label :=
  [⟨componentLabel, registry.component⟩, ⟨functionLabel, registry.function.name⟩]

def seriesOf (registry : Registry) (name : String) (kind : Kind) : SeriesMap :=
  match registry.entries[FamilyKey.mk name kind]? with
  | some entry => entry.series
  | none => ∅

def evictOtherKinds (registry : Registry) (name : String) (kind : Kind) : Registry :=
  let others := [Kind.gauge, .counter, .unknown].filter (· ≠ kind)
  { registry with
    entries := others.foldl (fun entries other => entries.erase ⟨name, other⟩) registry.entries }

def record (registry : Registry) (sample : Sample) : Registry :=
  let registry := registry.evictOtherKinds sample.name sample.kind
  let series := (registry.seriesOf sample.name sample.kind).insert (ownLabels sample.labels)
    sample.value
  { registry with
    entries := registry.entries.insert ⟨sample.name, sample.kind⟩ ⟨sample.help, series⟩ }

def ingest (registry : Registry) (samples : List Sample) : Registry :=
  samples.foldl record registry

def familyCount (registry : Registry) : Nat :=
  registry.entries.size

def seriesCount (registry : Registry) : Nat :=
  registry.entries.values.foldl (fun count entry => count + entry.series.size) 0

def value? (registry : Registry) (name : String) (kind : Kind) (labels : LabelSet) :
    Option Double :=
  (registry.seriesOf name kind)[ownLabels labels]?

def families (registry : Registry) : List Family :=
  registry.entries.toList.map fun (key, entry) =>
    { name := key.name, help := entry.help, kind := key.kind
      points := entry.series.toList.map fun (labels, value) =>
        ⟨registry.setLabels ++ labels, value⟩ }

def encode (registry : Registry) : Except EncodeFault String :=
  Exposition.encode registry.families

end Registry
end CoreWatch.Collector
