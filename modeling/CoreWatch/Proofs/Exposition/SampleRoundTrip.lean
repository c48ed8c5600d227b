import CoreWatch.Proofs.Exposition.LabelSetRoundTrip
import CoreWatch.Proofs.Exposition.PayloadRoundTrip
import CoreWatch.Proofs.Exposition.ReadSamples

set_option autoImplicit false

/-!
Samples by themselves: the line of a sample is a text of one sample, which says the same. Only what
was announced about the metric is not on the line.
-/

namespace CoreWatch.Exposition

open Text

/-- The line of a sample is that of its labels and value as a point. -/
theorem toList_line (sample : Sample) :
    sample.line.toList =
      Point.line sample.name.toList ⟨sample.labels.toLabels, sample.value⟩ := by
  have none : sample.labels.toLabels.isEmpty = sample.labels.isEmpty := by
    rw [LabelSet.toLabels, List.isEmpty_map, Std.ExtTreeMap.isEmpty_toList]
  unfold Sample.line Point.line
  simp only [none]
  cases sample.labels.isEmpty with
  | true =>
    simp only [↓reduceIte, String.toList_append, Double.toText, String.toList_ofList,
      List.append_assoc, List.append_nil]
    rfl
  | false =>
    simp only [Bool.false_eq_true, ↓reduceIte, String.toList_append, Double.toText,
      LabelSet.render, String.toList_ofList, List.append_assoc, List.cons_append,
      List.nil_append]
    rfl

theorem outcomes_line {sample : Sample} (name : isMetricName sample.name.toList = true)
    (labels : ∀ label ∈ sample.labels.toLabels, isLabelName label.name.toList = true) :
    outcomes sample.line =
      [.sample ⟨sample.name, .unknown, defaultHelp, sample.value, sample.labels⟩] := by
  let point : Point := ⟨sample.labels.toLabels, sample.value⟩
  have valid : ∀ label ∈ point.labels, isLabelName label.name.toList = true := labels
  obtain ⟨c, rest, shape, hash, trimmed, newline⟩ := line_shape name valid
  have read := ofLine_line name valid
  rw [String.ofList_toList, LabelSet.ofLabels_toLabels] at read
  rw [outcomes, toList_line, splitOn_whole newline,
    readLines_sample shape hash trimmed read]
  rfl

/-- A sample whose name and whose label names are valid. -/
structure Sample.Named (sample : Sample) : Prop where
  name : isMetricName sample.name.toList = true
  labels : ∀ name ∈ sample.labels, isLabelName name.toList = true

/-- Whatever text a sample comes from, its names are valid. -/
theorem named_of_mem_samples {text : String} {sample : Sample} (listed : sample ∈ samples text) :
    sample.Named where
  name := (samples_readable sample listed).name
  labels := LabelSet.forall_mem_iff_toLabels.mpr (samples_readable sample listed).labels

/--
A sample that was read from some text, or whose names are valid, is read again from its own line:
the line gives one record and nothing is left out. The record has the same name, labels and value;
its kind and its description are those of a metric about which nothing was announced.
-/
theorem line_readsBack {sample : Sample}
    (known : (∃ text, sample ∈ samples text) ∨ sample.Named) :
    samples sample.line = [⟨sample.name, .unknown, defaultHelp, sample.value, sample.labels⟩] ∧
      skips sample.line = [] := by
  have named : sample.Named := known.elim (fun ⟨_, listed⟩ => named_of_mem_samples listed) id
  have read := outcomes_line named.name (LabelSet.forall_mem_iff_toLabels.mp named.labels)
  rw [samples, skips, read]
  exact ⟨rfl, rfl⟩

/-- Line ends, quotes, braces and backslashes in a value, an empty value, and minus zero. -/
theorem line_readsBack_hostile :
    let sample : Sample := ⟨"upf:sessions", .counter, "Sessions", .zero true,
      LabelSet.ofLabels [⟨"dnn", "a\r\n\"\x7d 1\n#\\"⟩, ⟨"_", ""⟩]⟩
    sample.Named ∧
      samples sample.line =
        [⟨sample.name, .unknown, defaultHelp, sample.value, sample.labels⟩] ∧
      skips sample.line = [] := by
  intro sample
  have labels : sample.labels.toLabels.all (fun label => isLabelName label.name.toList) = true := by
    decide +kernel
  have named : sample.Named :=
    ⟨by decide, LabelSet.forall_mem_iff_toLabels.mpr (List.all_eq_true.mp labels)⟩
  exact ⟨named, line_readsBack (.inr named)⟩

end CoreWatch.Exposition
