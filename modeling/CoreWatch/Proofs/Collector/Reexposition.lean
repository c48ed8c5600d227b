import CoreWatch.Proofs.Collector.History
import CoreWatch.Proofs.Exposition.PayloadRoundTrip
import CoreWatch.Proofs.Exposition.ReadSamples
import Mathlib.Data.List.Forall2

set_option autoImplicit false

/-!
What a collector serves again: the text of a registry is read as one sample for each series, with
the labels of upstream apart from those that the registry sets.
-/

namespace CoreWatch.Collector.Registry

open Exposition

/-! Labels -/

/-- Upstream labels with the two that a registry sets in place of any of the same name. -/
def relabel (component : String) (function : NetworkFunction) (labels : LabelSet) : LabelSet :=
  (labels.insert componentLabel component).insert functionLabel function.name

theorem mem_ownLabels {labels : LabelSet} {label : Label} :
    label ∈ ownLabels labels ↔
      isOwn label.name = true ∧ labels[label.name]? = some label.value := by
  rw [ownLabels, List.mem_filter, LabelSet.mem_toLabels]
  exact and_comm

theorem nodup_written (registry : Registry) (labels : LabelSet) :
    ((registry.setLabels ++ ownLabels labels).map (·.name)).Nodup := by
  have set : (registry.setLabels.map (·.name)).Nodup := by
    change [componentLabel, functionLabel].Nodup
    decide
  have own : ((ownLabels labels).map (·.name)).Nodup := by
    rw [ownLabels_eq_toLabels]
    exact LabelSet.nodup_names _
  rw [List.map_append]
  refine set.append own ?_
  intro name listed listed'
  obtain ⟨label, kept, rfl⟩ := List.mem_map.mp listed'
  obtain ⟨component, function⟩ := isOwn_iff.mp (mem_ownLabels.mp kept).1
  change label.name ∈ [componentLabel, functionLabel] at listed
  rw [List.mem_cons, List.mem_singleton] at listed
  exact listed.elim component function

/-- What is written for a series is the upstream set with the registry's own labels in it. -/
theorem ofLabels_written (registry : Registry) (labels : LabelSet) :
    LabelSet.ofLabels (registry.setLabels ++ ownLabels labels) =
      relabel registry.component registry.function labels := by
  apply LabelSet.eq_of_getElem?
  intro name value
  rw [LabelSet.getElem?_ofLabels (nodup_written registry labels), List.mem_append, mem_ownLabels,
    relabel, Maps.getElem?_insert, Maps.getElem?_insert, setLabels, List.mem_cons,
    List.mem_singleton, Label.mk.injEq, Label.mk.injEq, isOwn_iff]
  have different : componentLabel ≠ functionLabel := by decide
  by_cases function : name = functionLabel
  · subst function
    simp only [Ne.symm different, ↓reduceIte, false_and, true_and, false_or, ne_eq,
      not_true_eq_false, and_false, or_false, Option.some.injEq]
    exact eq_comm
  by_cases component : name = componentLabel
  · subst component
    simp only [Ne.symm different, different, ↓reduceIte, false_and, true_and, or_false, ne_eq,
      not_true_eq_false, Option.some.injEq]
    exact eq_comm
  · simp only [function, component, Ne.symm function, Ne.symm component, ↓reduceIte, false_and,
      or_self, false_or, ne_eq, not_false_eq_true, and_self, true_and]

theorem relabel_eq_iff {component : String} {function : NetworkFunction}
    {first second : LabelSet} :
    relabel component function first = relabel component function second ↔ Agree first second := by
  constructor
  · intro same name noComponent noFunction
    have here : (relabel component function first)[name]? =
        (relabel component function second)[name]? := by rw [same]
    simp only [relabel, Maps.getElem?_insert, Ne.symm noComponent, Ne.symm noFunction,
      ↓reduceIte] at here
    exact here
  · intro agree
    apply Std.ExtTreeMap.ext_getElem?
    intro name
    simp only [relabel, Maps.getElem?_insert]
    by_cases function : functionLabel = name
    · rw [if_pos function, if_pos function]
    by_cases component : componentLabel = name
    · rw [if_neg function, if_neg function, if_pos component, if_pos component]
    · rw [if_neg function, if_neg function, if_neg component, if_neg component]
      exact agree name (Ne.symm component) (Ne.symm function)

/-! Families -/

/-- The sample that is read for a series. -/
def sampleOf (registry : Registry) (series : Held) : Sample :=
  ⟨series.name, series.kind.announced, series.help, series.value,
    LabelSet.ofLabels (registry.setLabels ++ series.labels)⟩

theorem samples_families (registry : Registry) :
    registry.families.flatMap Family.samples = registry.held.map registry.sampleOf := by
  rw [families, held, List.flatMap_map, List.map_flatMap]
  congr 1
  funext entry
  simp only [Family.samples, List.map_map]
  rfl

theorem Traced.readable {history : List Sample} {registry : Registry}
    (traced : Traced history registry) (read : ∀ sample ∈ history, sample.Readable) :
    ∀ family ∈ registry.families, family.Readable := by
  intro family listed
  obtain ⟨⟨key, entry⟩, held, rfl⟩ := List.mem_map.mp listed
  have there := Std.ExtTreeMap.mem_toList_iff_getElem?_eq_some.mp held
  obtain ⟨before, last, after, split, named, _, help, _⟩ := traced.latest key entry there
  have readable := read last (by rw [split]; exact List.mem_append_right _ List.mem_cons_self)
  refine ⟨?_, ?_, ?_⟩
  · change isMetricName key.name.toList = true
    rw [← named]
    exact readable.name
  · change Settled entry.help.toList
    rw [← help]
    exact readable.help
  · intro point shown
    obtain ⟨⟨labels, value⟩, inside, rfl⟩ := List.mem_map.mp shown
    have found := Std.ExtTreeMap.mem_toList_iff_getElem?_eq_some.mp inside
    obtain ⟨sample, given, _, _, rfl, _⟩ := traced.held key entry labels value there found
    rw [List.forall_mem_append]
    constructor
    · rw [setLabels, List.forall_mem_cons, List.forall_mem_singleton]
      exact ⟨show isLabelName componentLabel.toList = true by decide,
        show isLabelName functionLabel.toList = true by decide⟩
    · intro label own
      obtain ⟨_, upstream⟩ := mem_ownLabels.mp own
      exact (read sample given).labels label (LabelSet.mem_toLabels.mpr upstream)

theorem component_ingest (registry : Registry) (samples : List Sample) :
    (registry.ingest samples).component = registry.component ∧
      (registry.ingest samples).function = registry.function := by
  induction samples generalizing registry with
  | nil => exact ⟨rfl, rfl⟩
  | cons sample rest ih => exact ih (registry.record sample)

/-- Every metric shows some series. -/
theorem Traced.mem_names_held {history : List Sample} {registry : Registry}
    (traced : Traced history registry) (name : String) :
    name ∈ registry.families.map (·.name) ↔ ∃ series ∈ registry.held, series.name = name := by
  rw [Registry.mem_names]
  constructor
  · rintro ⟨kind, entry, there⟩
    have some : ∃ labels, labels ∈ entry.series := by
      by_contra none
      apply traced.shown _ entry there
      exact Std.ExtTreeMap.eq_empty_iff_forall_not_mem.mpr (not_exists.mp none)
    obtain ⟨labels, inside⟩ := some
    obtain ⟨value, found⟩ := Maps.mem_iff_exists.mp inside
    exact ⟨⟨name, kind, entry.help, labels, value⟩, mem_held.mpr ⟨entry, there, rfl, found⟩, rfl⟩
  · intro shown
    obtain ⟨series, listed, rfl⟩ := shown
    obtain ⟨entry, there, _⟩ := mem_held.mp listed
    exact ⟨series.kind, entry, there⟩

/-! What is read -/

/-- What a record says of a series: what upstream said of it, with the labels of the registry. -/
structure Relays (component : String) (function : NetworkFunction) (history : List Sample)
    (series : Held) (record : Sample) : Prop where
  name : record.name = series.name
  value : record.value = series.value
  kind : record.kind = if series.kind = .counter then .counter else .gauge
  labels : ∃ upstream ∈ history, upstream.name = series.name ∧ upstream.kind = series.kind ∧
    ownLabels upstream.labels = series.labels ∧ upstream.value = series.value ∧
    record.labels = relabel component function upstream.labels
  /-- The description is that of the last sample of the metric. -/
  help : ∃ before last after, history = before ++ last :: after ∧ last.name = series.name ∧
    record.help = last.help ∧ ∀ later ∈ after, later.name ≠ series.name

theorem Traced.relays {history : List Sample} {registry : Registry}
    (traced : Traced history registry) {series : Held} (listed : series ∈ registry.held) :
    Relays registry.component registry.function history series (registry.sampleOf series) := by
  obtain ⟨entry, there, help, _⟩ := mem_held.mp listed
  refine ⟨rfl, rfl, ?_, ?_, ?_⟩
  · change series.kind.announced = _
    cases series.kind <;> rfl
  · obtain ⟨upstream, given, name, kind, own, value⟩ := traced.sample_of_held listed
    refine ⟨upstream, given, name, kind, own, value, ?_⟩
    rw [← ofLabels_written, own]
    rfl
  · obtain ⟨before, last, after, split, named, _, same, none⟩ := traced.latest _ entry there
    refine ⟨before, last, after, split, named, ?_, none⟩
    rw [same, help]
    rfl

theorem Traced.nodup_records {history : List Sample} {registry : Registry}
    (traced : Traced history registry) :
    ((registry.held.map registry.sampleOf).map
      fun record => (record.name, record.labels)).Nodup := by
  rw [List.map_map]
  refine List.Nodup.map_on ?_ traced.oneKind.nodup_held.of_map
  intro first listed second listed' same
  obtain ⟨sample, _, _, _, own, _⟩ := traced.sample_of_held listed
  obtain ⟨sample', _, _, _, own', _⟩ := traced.sample_of_held listed'
  obtain ⟨name, labels⟩ := Prod.mk.inj same
  change LabelSet.ofLabels (registry.setLabels ++ first.labels) =
    LabelSet.ofLabels (registry.setLabels ++ second.labels) at labels
  rw [← own, ← own', ofLabels_written, ofLabels_written, relabel_eq_iff, ← ownLabels_eq_iff, own,
    own'] at labels
  exact List.inj_on_of_nodup_map traced.oneKind.nodup_held listed listed' (Prod.ext name labels)

/--
What a registry serves after any texts is read again without a line left out, as one record for each
series that it holds. No two records are alike in name and labels, and each name has one kind.
-/
theorem reexposition_faithful (component : String) (function : NetworkFunction)
    (texts : List String) :
    let history := texts.flatMap samples
    let registry := texts.foldl (fun registry text => registry.ingest (samples text))
      (empty component function)
    ∃ text, registry.encode = .ok text ∧ skips text = [] ∧
      List.Forall₂ (Relays component function history) registry.held (samples text) ∧
      ((samples text).map fun record => (record.name, record.labels)).Nodup ∧
      (typedNames text).Nodup ∧
      ∀ name, name ∈ typedNames text ↔ ∃ record ∈ samples text, record.name = name := by
  intro history registry
  have gathered : registry = (empty component function).ingest history := by
    change List.foldl _ _ texts = (empty component function).ingest (texts.flatMap samples)
    rw [List.flatMap_def, ← foldl_ingest, List.foldl_map]
  have traced : Traced history registry := gathered ▸ ingest_traced component function history
  have read : ∀ sample ∈ history, sample.Readable := by
    intro sample listed
    obtain ⟨text, _, inside⟩ := List.mem_flatMap.mp listed
    exact samples_readable sample inside
  obtain ⟨text, written, skipped, records, typed⟩ :=
    encode_readable (traced.readable read) traced.points_ne_nil
  rw [samples_families] at records
  refine ⟨text, written, skipped, ?_, ?_, ?_, ?_⟩
  · rw [records, List.forall₂_map_right_iff, List.forall₂_same]
    intro series listed
    have relayed := traced.relays listed
    rw [gathered, (component_ingest _ _).1, (component_ingest _ _).2, ← gathered] at relayed
    exact relayed
  · rw [records]
    exact traced.nodup_records
  · rw [typed]
    exact traced.oneKind.nodup_names
  · intro name
    rw [typed, records, traced.mem_names_held]
    simp only [List.mem_map, exists_exists_and_eq_and]
    exact Iff.rfl

end CoreWatch.Collector.Registry
