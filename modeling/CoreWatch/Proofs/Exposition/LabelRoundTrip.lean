import CoreWatch.Proofs.Exposition.ClosingBrace

set_option autoImplicit false

/-! Labels are read again as they were written, whatever their values are. -/

namespace CoreWatch.Exposition

open Text

/-! Values -/

/-- A character is written as itself, or as a backslash and a character that stands for it. -/
theorem escapeValueChar_cases (c : Char) :
    (escapeValueChar c = [c] ∧ c ≠ '\\' ∧ c ≠ '"' ∧ c ≠ '\n') ∨
      ∃ sign, escapeValueChar c = ['\\', sign] ∧ unescapeValue sign = [c] ∧ sign ≠ '\n' := by
  unfold escapeValueChar
  by_cases backslash : c = '\\'
  · subst backslash
    exact Or.inr ⟨'\\', rfl, rfl, by decide⟩
  by_cases quote : c = '"'
  · subst quote
    exact Or.inr ⟨'"', rfl, rfl, by decide⟩
  by_cases newline : c = '\n'
  · subst newline
    exact Or.inr ⟨'n', rfl, rfl, by decide⟩
  rw [if_neg backslash, if_neg quote, if_neg newline]
  exact Or.inl ⟨rfl, backslash, quote, newline⟩

theorem quotes_escaped (value : List Char) : Quotes (value.flatMap escapeValueChar) value := by
  induction value with
  | nil => exact .nil
  | cons c value ih =>
    rw [List.flatMap_cons]
    rcases escapeValueChar_cases c with ⟨same, backslash, quote, _⟩ | ⟨sign, same, meaning, _⟩
    · rw [same]
      exact .plain quote backslash ih
    · have pair := ih.escaped sign
      rw [meaning] at pair
      rw [same]
      exact pair

/-! Labels -/

theorem spellsLabel_render {label : Label} (valid : isLabelName label.name.toList = true) :
    SpellsLabel label.render label := by
  have spells := SpellsLabel.pair valid (List.forall_mem_nil _) (List.forall_mem_nil _)
    (quotes_escaped label.value.toList)
  rw [String.ofList_toList, String.ofList_toList] at spells
  simpa only [Label.render, List.nil_append, List.append_assoc, List.cons_append] using spells

theorem renderLabels_cons (label next : Label) (rest : List Label) :
    renderLabels (label :: next :: rest) = label.render ++ ',' :: renderLabels (next :: rest) :=
  rfl

theorem renderLabels_singleton (label : Label) : renderLabels [label] = label.render :=
  List.append_nil label.render

theorem spellsSet_render {labels : List Label}
    (valid : ∀ label ∈ labels, isLabelName label.name.toList = true) :
    SpellsSet (renderLabels labels) labels := by
  induction labels with
  | nil => exact .empty (List.forall_mem_nil _)
  | cons label rest ih =>
    obtain ⟨own, others⟩ := List.forall_mem_cons.mp valid
    cases rest with
    | nil =>
      have alone : SpellsSet ([] ++ (label.render ++ [])) [label] :=
        .labels (List.forall_mem_nil _) (.single (spellsLabel_render own))
          (.blank (List.forall_mem_nil _))
      rw [renderLabels_singleton]
      rwa [List.nil_append, List.append_nil] at alone
    | cons next rest =>
      rw [renderLabels_cons]
      exact .cons (List.forall_mem_nil _) (spellsLabel_render own) (List.forall_mem_nil _)
        (ih others)

theorem newline_render {label : Label} (valid : isLabelName label.name.toList = true) :
    '\n' ∉ label.render := by
  have name : '\n' ∉ label.name.toList := by
    intro listed
    exact ne_of_isNameChar (isNameChar_labelName valid _ listed) rfl rfl
  have value : '\n' ∉ label.value.toList.flatMap escapeValueChar := by
    intro listed
    obtain ⟨c, _, inside⟩ := List.mem_flatMap.mp listed
    rcases escapeValueChar_cases c with ⟨same, _, _, newline⟩ | ⟨sign, same, _, newline⟩
    · rw [same, List.mem_singleton] at inside
      exact newline inside.symm
    · rw [same, List.mem_cons, List.mem_singleton] at inside
      exact inside.elim (by decide) fun equal => newline equal.symm
  rw [Label.render]
  simp only [List.mem_append, List.mem_cons, List.not_mem_nil, name, value, or_false, false_or]
  decide

theorem newline_renderLabels {labels : List Label}
    (valid : ∀ label ∈ labels, isLabelName label.name.toList = true) :
    '\n' ∉ renderLabels labels := by
  induction labels with
  | nil => exact List.not_mem_nil
  | cons label rest ih =>
    obtain ⟨own, others⟩ := List.forall_mem_cons.mp valid
    cases rest with
    | nil =>
      rw [renderLabels_singleton]
      exact newline_render own
    | cons next rest =>
      rw [renderLabels_cons, List.mem_append, List.mem_cons, not_or, not_or]
      exact ⟨newline_render own, by decide, ih others⟩

/-- What is written for labels between braces is read as their set. -/
theorem read_render {labels : List Label}
    (valid : ∀ label ∈ labels, isLabelName label.name.toList = true) :
    LabelSet.read (renderLabels labels) = .ok (LabelSet.ofLabels labels) :=
  LabelSet.read_eq_ok_iff.mpr ⟨labels, spellsSet_render valid, rfl⟩

end CoreWatch.Exposition
