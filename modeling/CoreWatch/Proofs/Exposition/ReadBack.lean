import CoreWatch.Proofs.Exposition.LabelSets
import CoreWatch.Proofs.Exposition.PayloadRoundTrip

set_option autoImplicit false

/-!
Whatever families hold in their descriptions, label values and numbers, their text is read again as
the same points. Nothing of one family, not even of one with the same name, is taken for another's.
-/

namespace CoreWatch.Exposition

open Text

theorem Settled.of_trimmed {help : List Char} (some : help ≠ []) (trimmed : Trimmed help) :
    Settled help :=
  ⟨some, fun c head => Or.inl (trimmed.head c head), fun c last => Or.inl (trimmed.last c last)⟩

/-- The families that are written: those that show something. -/
def shownFamilies (families : List Family) : List Family :=
  families.filter fun family => !family.points.isEmpty

theorem encode_shownFamilies (families : List Family) :
    encode (shownFamilies families) = encode families := by
  have again : (shownFamilies families).filter (fun family => !family.points.isEmpty) =
      families.filter fun family => !family.points.isEmpty := by
    rw [shownFamilies, List.filter_filter]
    simp only [Bool.and_self]
  unfold encode
  rw [again]

theorem shown_shownFamilies (families : List Family) :
    Family.shown (shownFamilies families) = Family.shown families := by
  induction families with
  | nil => rfl
  | cons family families ih =>
    have own : Family.shown (family :: families) =
        family.points.map (family, ·) ++ Family.shown families := rfl
    rw [own, ← ih]
    by_cases none : family.points = []
    · rw [shownFamilies, List.filter_cons_of_neg (by rw [none]; decide), none]
      rfl
    · rw [shownFamilies, List.filter_cons_of_pos (by simpa using none)]
      rfl

/-- A record says of a point what its family and the point itself say. -/
structure ReadsBack (entry : Family × Point) (record : Sample) : Prop where
  name : record.name = entry.1.name
  value : record.value = entry.2.value
  kind : record.kind = if entry.1.kind = .counter then .counter else .gauge
  labels : ∀ name value : String,
    record.labels[name]? = some value ↔ ⟨name, value⟩ ∈ entry.2.labels
  help : entry.1.help ≠ "" → Trimmed entry.1.help.toList → record.help = entry.1.help

theorem Family.Reads.readsBack {entry : Family × Point} {record : Sample}
    (reads : Reads entry record) (distinct : (entry.2.labels.map (·.name)).Nodup) :
    ReadsBack entry record where
  name := reads.name
  value := reads.value
  kind := by
    rw [reads.kind]
    cases entry.1.kind <;> rfl
  labels name value := by
    rw [reads.labels, LabelSet.getElem?_ofLabels distinct]
  help some trimmed :=
    reads.help (.of_trimmed (mt String.toList_eq_nil_iff.mp some) trimmed)

/--
Families with valid names, whose points each name no label twice, can always be written. Their text
is read without a line left out, as one record for each point in the same order.
-/
theorem encode_readsBack {families : List Family} (named : ∀ family ∈ families, family.Named)
    (distinct : ∀ family ∈ families, ∀ point ∈ family.points, (point.labels.map (·.name)).Nodup) :
    ∃ text, encode families = .ok text ∧ skips text = [] ∧
      List.Forall₂ ReadsBack (Family.shown families) (samples text) := by
  have kept : ∀ family ∈ shownFamilies families, family.Named :=
    fun family listed => named family (List.mem_of_mem_filter listed)
  have some : ∀ family ∈ shownFamilies families, family.points ≠ [] := by
    intro family listed
    simpa using List.of_mem_filter listed
  obtain ⟨text, written, skipped, reads, _⟩ := encode_named kept some
  rw [encode_shownFamilies] at written
  rw [shown_shownFamilies] at reads
  have apart : ∀ entry ∈ Family.shown families, (entry.2.labels.map (·.name)).Nodup := by
    intro entry listed
    obtain ⟨family, there, inside⟩ := List.mem_flatMap.mp listed
    obtain ⟨point, shown, rfl⟩ := List.mem_map.mp inside
    exact distinct family there point shown
  refine ⟨text, written, skipped, ?_⟩
  exact ((List.forall₂_and_left _ _).mpr ⟨apart, reads⟩).imp
    fun _ _ facts => facts.2.readsBack facts.1

/-- Line ends, quotes, braces and backslashes, blank descriptions and one name for two families. -/
theorem encode_readsBack_hostile :
    let families : List Family :=
      [⟨"sessions", "a\n# TYPE sessions counter", .unknown,
          [⟨[⟨"slice", "\"\x7d 1\n\\"⟩, ⟨"le", ""⟩], .nan⟩, ⟨[], .infinite true⟩]⟩,
        ⟨"sessions", "", .counter, [⟨[⟨"le", "+Inf"⟩], .zero true⟩]⟩,
        ⟨"idle", "nothing", .gauge, []⟩,
        ⟨"requests", " \t", .counter, [⟨[], .zero false⟩]⟩]
    (∀ family ∈ families, family.Named) ∧
      (∀ family ∈ families, ∀ point ∈ family.points, (point.labels.map (·.name)).Nodup) ∧
      ∃ text, encode families = .ok text ∧ skips text = [] ∧
        List.Forall₂ ReadsBack (Family.shown families) (samples text) := by
  intro families
  have named : ∀ family ∈ families, family.Named := by
    have valid : families.all (fun family => isMetricName family.name.toList &&
        family.points.all fun point =>
          point.labels.all fun label => isLabelName label.name.toList) = true := by
      decide
    simp only [List.all_eq_true, Bool.and_eq_true] at valid
    exact fun family listed => ⟨(valid family listed).1, (valid family listed).2⟩
  have distinct : ∀ family ∈ families, ∀ point ∈ family.points,
      (point.labels.map (·.name)).Nodup := by
    decide
  exact ⟨named, distinct, encode_readsBack named distinct⟩

end CoreWatch.Exposition
