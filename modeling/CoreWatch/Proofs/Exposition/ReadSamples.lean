import CoreWatch.Proofs.Exposition.HelpRoundTrip
import CoreWatch.Proofs.Exposition.SampleGrammar

set_option autoImplicit false

/-!
What holds of every sample that is read from some text: its names are valid, and its description is
one that can be written and read again.
-/

namespace CoreWatch.Exposition

open Text

/-- A sample whose names and description can be written. -/
structure Sample.Readable (sample : Sample) : Prop where
  name : isMetricName sample.name.toList = true
  help : Settled sample.help.toList
  labels : ∀ label ∈ sample.labels.toLabels, isLabelName label.name.toList = true

/-! Labels -/

theorem read_valid {text : List Char} {labels : LabelSet} (read : LabelSet.read text = .ok labels) :
    ∀ label ∈ labels.toLabels, isLabelName label.name.toList = true := by
  obtain ⟨written, spells, rfl⟩ := LabelSet.read_eq_ok_iff.mp read
  intro label listed
  obtain ⟨other, there, same⟩ := LabelSet.name_of_mem_ofLabels (LabelSet.mem_toLabels.mp listed)
  rw [← same]
  exact spells.valid other there

/-- A line that is read has a valid name. -/
theorem ofLine_name {line : List Char} {reading : Reading}
    (read : Reading.ofLine line = .ok reading) : isMetricName reading.name.toList = true := by
  obtain ⟨parts, _, means⟩ := exists_parts read
  rw [means.name, String.toList_ofList]
  exact means.valid

theorem ofLine_labels {line : List Char} {reading : Reading}
    (read : Reading.ofLine line = .ok reading) :
    ∀ label ∈ reading.labels.toLabels, isLabelName label.name.toList = true := by
  obtain ⟨parts, _, means⟩ := exists_parts read
  have found := means.labels
  cases bare : parts.body with
  | none =>
    rw [bare] at found
    intro label listed
    rw [← Except.ok.inj found] at listed
    cases listed
  | some body =>
    rw [bare] at found
    exact read_valid found

/-! Descriptions -/

theorem settled_defaultHelp : Settled defaultHelp.toList := by
  refine ⟨by decide, ?_, ?_⟩
  · intro c head
    cases head
    exact Or.inl rfl
  · intro c last
    cases last
    exact Or.inl rfl

theorem readHelp?_settled {body : List Char} {name help : String}
    (read : Comment.readHelp? body = some (.help name help)) : Settled help.toList := by
  unfold Comment.readHelp? at read
  simp only at read
  split at read
  · cases read
  · cases read
    by_cases none : trim ((trimLeft body).dropWhile (!isBlank ·)) = []
    · simp only [none, List.isEmpty_nil, ↓reduceIte]
      exact settled_defaultHelp
    · have some := List.isEmpty_eq_false_iff.mpr none
      simp only [some, Bool.false_eq_true, ↓reduceIte, String.toList_ofList]
      exact settled_unescapeHelp (trimmed_trim _) none

theorem readType?_help {body : List Char} {name help : String} :
    Comment.readType? body ≠ some (.help name help) := by
  unfold Comment.readType?
  simp only
  split
  · exact fun read => by cases read
  · exact fun read => by cases read

theorem read?_settled {text : List Char} {name help : String}
    (read : Comment.read? text = some (.help name help)) : Settled help.toList := by
  unfold Comment.read? at read
  simp only at read
  split at read
  · exact readHelp?_settled read
  · obtain ⟨body, _, typed⟩ := Option.bind_eq_some_iff.mp read
    exact absurd typed readType?_help

theorem apply_settled {comment : Comment} {announced : Option Announcement}
    (own : ∀ name help, comment = .help name help → Settled help.toList)
    (before : ∀ announcement ∈ announced, Settled announcement.help.toList) :
    Settled (comment.apply announced).help.toList := by
  cases comment with
  | help name help => exact own name help rfl
  | type name kind =>
    cases announced with
    | none => exact settled_defaultHelp
    | some announcement =>
      unfold Comment.apply
      simp only
      split
      · exact before announcement rfl
      · exact settled_defaultHelp

theorem announced_readable {reading : Reading} {announced : Option Announcement}
    (name : isMetricName reading.name.toList = true)
    (labels : ∀ label ∈ reading.labels.toLabels, isLabelName label.name.toList = true)
    (before : ∀ announcement ∈ announced, Settled announcement.help.toList) :
    (reading.announced announced).Readable := by
  cases announced with
  | none => exact ⟨name, settled_defaultHelp, labels⟩
  | some announcement =>
    unfold Reading.announced
    simp only
    split
    · exact ⟨name, before announcement rfl, labels⟩
    · exact ⟨name, settled_defaultHelp, labels⟩

/-! Texts -/

theorem readLines_readable {number : Nat} {announced : Option Announcement}
    {lines : List (List Char)}
    (before : ∀ announcement ∈ announced, Settled announcement.help.toList) (sample : Sample)
    (listed : .sample sample ∈ readLines number announced lines) : sample.Readable := by
  fun_induction readLines number announced lines with
  | case1 => cases listed
  | case2 number announced line lines blank ih => exact ih before listed
  | case3 number announced line lines text trimmed comment read ih =>
    apply ih
    · intro announcement there
      cases there
      refine apply_settled ?_ before
      intro name help same
      rw [same] at read
      exact read?_settled read
    · exact listed
  | case4 number announced line lines text trimmed read ih => exact ih before listed
  | case5 number announced line lines noBlank noComment outcome ih =>
    rcases List.mem_cons.mp listed with first | later
    · cases read : Reading.ofLine (trim line) with
      | error fault =>
        simp only [outcome, read, reduceCtorEq] at first
      | ok reading =>
        simp only [outcome, read, Outcome.sample.injEq] at first
        rw [first]
        exact announced_readable (ofLine_name read) (ofLine_labels read) before
    · exact ih before later

theorem samples_readable {text : String} : ∀ sample ∈ samples text, sample.Readable := by
  intro sample listed
  obtain ⟨outcome, there, same⟩ := List.mem_filterMap.mp listed
  cases outcome with
  | skip skip => cases same
  | sample found =>
    cases same
    exact readLines_readable (fun _ none => by cases none) sample there

end CoreWatch.Exposition
