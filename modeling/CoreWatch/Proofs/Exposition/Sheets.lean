import CoreWatch.Proofs.Exposition.ReadBack
import Mathlib.Data.List.ProdSigma

set_option autoImplicit false

/-!
A sheet shows the same measures of every item. Where a label tells the items apart, its text is read
again as one row of records for each item, and no series stands in it twice.
-/

namespace CoreWatch.Exposition

theorem flatMap_samples (families : List Family) :
    families.flatMap Family.samples = (Family.shown families).map fun entry =>
      ⟨entry.1.name, entry.1.kind.announced, entry.1.help, entry.2.value,
        LabelSet.ofLabels entry.2.labels⟩ := by
  rw [Family.shown, List.map_flatMap]
  simp only [List.map_map]
  rfl

/-- Readable families are read again as their samples, if they have any. -/
theorem encode_samples {families : List Family}
    (readable : ∀ family ∈ families, family.Readable) :
    ∃ text, encode families = .ok text ∧ skips text = [] ∧
      samples text = families.flatMap Family.samples := by
  have kept : ∀ family ∈ shownFamilies families, family.Readable :=
    fun family listed => readable family (List.mem_of_mem_filter listed)
  have some : ∀ family ∈ shownFamilies families, family.points ≠ [] := by
    intro family listed
    simpa using List.of_mem_filter listed
  obtain ⟨text, written, skipped, read, -⟩ := encode_readable kept some
  rw [encode_shownFamilies] at written
  rw [flatMap_samples, shown_shownFamilies, ← flatMap_samples] at read
  exact ⟨text, written, skipped, read⟩

section

variable {α : Type} {measures : List (Measure α)} {labels : α → List Label} {items : List α}

/-- The record of an item that a measure gives. -/
def Measure.record (measure : Measure α) (labels : α → List Label) (item : α) : Sample :=
  ⟨measure.name, measure.kind.announced, measure.help, measure.value item,
    LabelSet.ofLabels (labels item)⟩

/-- A measure whose name and description can be read again as they are. -/
structure Measure.Readable (measure : Measure α) : Prop where
  name : isMetricName measure.name.toList = true
  help : Settled measure.help.toList

instance (measure : Measure α) : Decidable measure.Readable :=
  decidable_of_iff (isMetricName measure.name.toList = true ∧ Settled measure.help.toList)
    ⟨fun ⟨name, help⟩ => ⟨name, help⟩, fun readable => ⟨readable.name, readable.help⟩⟩

theorem samples_sheet (readable : ∀ measure ∈ measures, measure.Readable)
    (named : ∀ item ∈ items, ∀ label ∈ labels item, isLabelName label.name.toList = true) :
    ∃ text, encode (sheet measures labels items) = .ok text ∧ skips text = [] ∧
      samples text = measures.flatMap fun measure => items.map (measure.record labels) := by
  have each : ∀ family ∈ sheet measures labels items, family.Readable := by
    intro family listed
    obtain ⟨measure, there, rfl⟩ := List.mem_map.mp listed
    refine ⟨(readable measure there).name, (readable measure there).help, ?_⟩
    intro point shown
    obtain ⟨item, inside, rfl⟩ := List.mem_map.mp shown
    exact named item inside
  obtain ⟨text, written, skipped, read⟩ := encode_samples each
  refine ⟨text, written, skipped, ?_⟩
  rw [read, sheet, List.flatMap_map]
  congr
  funext measure
  rw [Family.samples, List.map_map]
  rfl

/-- The value that a label has for an item. -/
def mark? (labels : α → List Label) (key : String) (item : α) : Option String :=
  (LabelSet.ofLabels (labels item))[key]?

/-- The records with an item's mark are those that the measures give of it, in their order. -/
theorem filter_mark {key : String} (distinct : (items.map (mark? labels key)).Nodup) {item : α}
    (listed : item ∈ items) :
    ((measures.flatMap fun measure => items.map (measure.record labels)).filter fun record =>
      record.labels[key]? == mark? labels key item) = measures.map (·.record labels item) := by
  have row (measure : Measure α) :
      ((items.map (measure.record labels)).filter fun record =>
        record.labels[key]? == mark? labels key item) = [measure.record labels item] := by
    rw [List.filter_map]
    exact congrArg (List.map (measure.record labels)) (Maps.filter_key_eq distinct listed)
  rw [List.filter_flatMap]
  simp only [row]
  exact List.map_eq_flatMap.symm

/-- A series is a measure of an item, so that none stands twice. -/
theorem nodup_series (names : (measures.map (·.name)).Nodup) {key : String}
    (distinct : (items.map (mark? labels key)).Nodup) :
    ((measures.flatMap fun measure => items.map (measure.record labels)).map fun record =>
      (record.name, record.labels)).Nodup := by
  have sets : (items.map fun item => LabelSet.ofLabels (labels item)).Nodup := by
    refine List.Nodup.of_map (fun set : LabelSet => set[key]?) ?_
    rw [List.map_map]
    exact distinct
  have pairs : ((measures.flatMap fun measure => items.map (measure.record labels)).map
      fun record => (record.name, record.labels)) =
        (measures.map (·.name)) ×ˢ items.map fun item => LabelSet.ofLabels (labels item) := by
    rw [List.map_flatMap, SProd.sprod, List.instSProd]
    simp only [List.product, List.flatMap_map, List.map_map]
    rfl
  rw [pairs]
  exact names.product sets

end

/--
A text in which nothing is left out when it is read, and no series stands twice. Each of its records
belongs by a label to a row, and the records of a row are as they are to be.
-/
structure Tabulates {α : Type} (text key : String) (rows : String → Option α)
    (shows : α → List Sample → Prop) : Prop where
  whole : skips text = []
  once : ((samples text).map fun record => (record.name, record.labels)).Nodup
  belongs : ∀ record ∈ samples text, ∃ name item, rows name = some item ∧
    record.labels[key]? = some name
  shown : ∀ name item, rows name = some item →
    shows item ((samples text).filter fun record => record.labels[key]? == some name)

/-- A sheet in which a label has the name of the row. -/
theorem sheet_tabulates {α : Type} {measures : List (Measure α)} {labels : α → List Label}
    {items : List α} {key : String} {rows : String → Option α} {shows : α → List Sample → Prop}
    (readable : ∀ measure ∈ measures, measure.Readable)
    (names : (measures.map (·.name)).Nodup)
    (named : ∀ item, ∀ label ∈ labels item, isLabelName label.name.toList = true)
    (listed : ∀ item, item ∈ items ↔ ∃ name, rows name = some item)
    (marked : ∀ name item, rows name = some item → mark? labels key item = some name)
    (distinct : (items.map (mark? labels key)).Nodup)
    (each : ∀ item, shows item (measures.map (·.record labels item))) :
    ∃ text, encode (sheet measures labels items) = .ok text ∧ Tabulates text key rows shows := by
  obtain ⟨text, written, whole, read⟩ :=
    samples_sheet readable fun item (_ : item ∈ items) => named item
  refine ⟨text, written, ⟨whole, ?_, ?_, ?_⟩⟩
  · rw [read]
    exact nodup_series names distinct
  · intro record shown
    rw [read] at shown
    obtain ⟨measure, -, inside⟩ := List.mem_flatMap.mp shown
    obtain ⟨item, there, rfl⟩ := List.mem_map.mp inside
    obtain ⟨name, found⟩ := (listed item).mp there
    exact ⟨name, item, found, marked name item found⟩
  · intro name item found
    have there := (listed item).mpr ⟨name, found⟩
    rw [read, ← marked name item found, filter_mark distinct there]
    exact each item

end CoreWatch.Exposition
