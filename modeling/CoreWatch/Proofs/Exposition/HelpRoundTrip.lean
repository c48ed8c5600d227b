import CoreWatch.Exposition.Family
import CoreWatch.Exposition.Payload
import CoreWatch.Proofs.Text.Blanks
import Mathlib.Data.List.Basic

set_option autoImplicit false

/-! Descriptions are read again as they were written. -/

namespace CoreWatch.Exposition

open Text

/-- A description whose outer characters are no blanks, unless they are written as an escape. -/
structure Settled (help : List Char) : Prop where
  some : help ≠ []
  head : ∀ c ∈ help.head?, isBlank c = false ∨ c = '\n'
  last : ∀ c ∈ help.getLast?, isBlank c = false ∨ c = '\n'

theorem settled_iff {help : List Char} :
    Settled help ↔ help ≠ [] ∧ help.head?.all (fun c => !isBlank c || c == '\n') = true ∧
      help.getLast?.all (fun c => !isBlank c || c == '\n') = true := by
  simp only [Option.all_eq_true, Bool.or_eq_true, Bool.not_eq_true', beq_iff_eq]
  exact ⟨fun settled => ⟨settled.some, settled.head, settled.last⟩,
    fun ⟨filled, head, last⟩ => ⟨filled, head, last⟩⟩

instance (help : List Char) : Decidable (Settled help) :=
  decidable_of_iff' _ settled_iff

theorem escapeHelpChar_cases (c : Char) :
    (escapeHelpChar c = [c] ∧ c ≠ '\\' ∧ c ≠ '\n') ∨
      (c = '\\' ∧ escapeHelpChar c = ['\\', '\\']) ∨
      (c = '\n' ∧ escapeHelpChar c = ['\\', 'n']) := by
  unfold escapeHelpChar
  by_cases backslash : c = '\\'
  · exact Or.inr (Or.inl ⟨backslash, if_pos backslash⟩)
  by_cases newline : c = '\n'
  · subst newline
    exact Or.inr (Or.inr ⟨rfl, rfl⟩)
  rw [if_neg backslash, if_neg newline]
  exact Or.inl ⟨rfl, backslash, newline⟩

theorem unescapeHelp_plain {c : Char} (backslash : c ≠ '\\') (rest : List Char) :
    unescapeHelp (c :: rest) = c :: unescapeHelp rest := by
  rw [unescapeHelp]
  intro _ _ same
  exact absurd same backslash

theorem unescapeHelp_escaped (help : List Char) :
    unescapeHelp (help.flatMap escapeHelpChar) = help := by
  induction help with
  | nil => rfl
  | cons c help ih =>
    rw [List.flatMap_cons]
    rcases escapeHelpChar_cases c with ⟨same, backslash, _⟩ | ⟨rfl, same⟩ | ⟨rfl, same⟩
    · rw [same, List.singleton_append, unescapeHelp_plain backslash, ih]
    · rw [same, List.cons_append, List.singleton_append, unescapeHelp, ih]
      rfl
    · rw [same, List.cons_append, List.singleton_append, unescapeHelp, ih]
      rfl

theorem newline_escapedHelp (help : List Char) : '\n' ∉ help.flatMap escapeHelpChar := by
  intro listed
  obtain ⟨c, _, inside⟩ := List.mem_flatMap.mp listed
  rcases escapeHelpChar_cases c with ⟨same, _, newline⟩ | ⟨_, same⟩ | ⟨_, same⟩
  · rw [same, List.mem_singleton] at inside
    exact newline inside.symm
  · rw [same] at inside
    exact absurd inside (by decide)
  · rw [same] at inside
    exact absurd inside (by decide)

/-- A settled description has no outer blanks once it is written. -/
theorem Settled.trimmed {help : List Char} (settled : Settled help) :
    Trimmed (help.flatMap escapeHelpChar) := by
  refine ⟨?_, ?_⟩
  · obtain ⟨first, rest, rfl⟩ := List.exists_cons_of_ne_nil settled.some
    intro c head
    rcases escapeHelpChar_cases first with ⟨same, _, newline⟩ | ⟨_, same⟩ | ⟨_, same⟩
    · rw [List.flatMap_cons, same, List.singleton_append] at head
      cases head
      exact (settled.head first rfl).resolve_right newline
    all_goals
      rw [List.flatMap_cons, same, List.cons_append] at head
      cases head
      rfl
  · obtain ⟨rest, final, rfl⟩ := (List.eq_nil_or_concat help).resolve_left settled.some
    rw [List.concat_eq_append, List.flatMap_append, List.flatMap_singleton]
    intro c last
    rcases escapeHelpChar_cases final with ⟨same, _, newline⟩ | ⟨_, same⟩ | ⟨_, same⟩
    · rw [same, List.getLast?_append] at last
      cases last
      refine (settled.last final ?_).resolve_right newline
      rw [List.concat_eq_append, List.getLast?_append]
      rfl
    all_goals
      rw [same, List.getLast?_append] at last
      cases last
      rfl

theorem unescapeHelp_ne_nil {text : List Char} (some : text ≠ []) : unescapeHelp text ≠ [] := by
  fun_cases unescapeHelp text with
  | case1 c rest =>
    apply List.append_ne_nil_of_left_ne_nil
    split
    · exact List.cons_ne_nil _ _
    · split <;> exact List.cons_ne_nil _ _
  | case2 c rest => exact List.cons_ne_nil _ _
  | case3 => exact some

theorem head_unescapeHelp {text : List Char} (head : ∀ c ∈ text.head?, isBlank c = false) :
    ∀ c ∈ (unescapeHelp text).head?, isBlank c = false ∨ c = '\n' := by
  fun_cases unescapeHelp text with
  | case1 c rest =>
    split
    · rintro _ ⟨⟩
      exact Or.inr rfl
    · split
      · rintro _ ⟨⟩
        exact Or.inl rfl
      · rintro _ ⟨⟩
        exact Or.inl rfl
  | case2 c rest =>
    rintro _ ⟨⟩
    exact Or.inl (head c rfl)
  | case3 => exact fun _ none => by cases none

theorem last_unescapeHelp {text : List Char} (last : ∀ c ∈ text.getLast?, isBlank c = false) :
    ∀ c ∈ (unescapeHelp text).getLast?, isBlank c = false ∨ c = '\n' := by
  fun_induction unescapeHelp text with
  | case1 c rest ih =>
    by_cases ends : rest = []
    · subst ends
      rw [unescapeHelp, List.append_nil]
      split
      · rintro _ ⟨⟩
        exact Or.inr rfl
      · split
        · rintro _ ⟨⟩
          exact Or.inl rfl
        · rintro _ ⟨⟩
          exact Or.inl (last c rfl)
    · rw [List.getLast?_append_of_ne_nil _ (unescapeHelp_ne_nil ends)]
      apply ih
      intro final there
      apply last
      rw [List.getLast?_cons_cons, List.getLast?_cons_of_ne_nil ends]
      exact there
  | case2 c rest _ ih =>
    by_cases ends : rest = []
    · subst ends
      rw [unescapeHelp]
      rintro _ ⟨⟩
      exact Or.inl (last c rfl)
    · rw [List.getLast?_cons_of_ne_nil (unescapeHelp_ne_nil ends)]
      apply ih
      intro final there
      apply last
      rw [List.getLast?_cons_of_ne_nil ends]
      exact there
  | case3 => exact fun _ none => by cases none

/-- What is read as a description is settled. -/
theorem settled_unescapeHelp {text : List Char} (trimmed : Trimmed text) (some : text ≠ []) :
    Settled (unescapeHelp text) :=
  ⟨unescapeHelp_ne_nil some, head_unescapeHelp trimmed.head, last_unescapeHelp trimmed.last⟩

end CoreWatch.Exposition
