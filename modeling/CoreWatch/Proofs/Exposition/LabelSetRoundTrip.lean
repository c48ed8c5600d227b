import CoreWatch.Proofs.Exposition.LabelRoundTrip
import CoreWatch.Proofs.Exposition.ReadSamples

set_option autoImplicit false

/-!
Which label sets are read again as they were written: those with valid names. No reader gives an
invalid name, whatever text it reads, so a set with one is never read.
-/

namespace CoreWatch.Exposition.LabelSet

/-- A set of valid names is a sequence of labels with valid names. -/
theorem forall_mem_iff_toLabels {labels : LabelSet} {P : String → Prop} :
    (∀ name ∈ labels, P name) ↔ ∀ label ∈ labels.toLabels, P label.name := by
  constructor
  · intro all label listed
    exact all label.name (Maps.mem_iff_exists.mpr ⟨label.value, mem_toLabels.mp listed⟩)
  · intro all name inside
    obtain ⟨value, found⟩ := Maps.mem_iff_exists.mp inside
    exact all ⟨name, value⟩ (mem_toLabels.mpr found)

/-- A label set is read again as it was written exactly if all its names are valid. -/
theorem read_render_iff (labels : LabelSet) :
    read labels.render.toList = .ok labels ↔
      ∀ name ∈ labels, isLabelName name.toList = true := by
  rw [forall_mem_iff_toLabels (P := fun name => isLabelName name.toList = true)]
  constructor
  · exact read_valid
  · intro valid
    rw [render, String.toList_ofList, read_render valid, ofLabels_toLabels]

/-- What looks like a second label in a name is read as one. -/
example :
    let labels : LabelSet := ofLabels [⟨"a=\"1\",b", "\\"⟩]
    (read labels.render.toList).toOption.map toLabels = some [⟨"a", "1"⟩, ⟨"b", "\\"⟩] := by
  decide +kernel

end CoreWatch.Exposition.LabelSet
