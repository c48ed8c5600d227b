import CoreWatch.Proofs.Double.RoundTrip
import CoreWatch.Proofs.Exposition.HelpRoundTrip
import CoreWatch.Proofs.Exposition.LabelRoundTrip
import CoreWatch.Proofs.Exposition.SampleGrammar
import Mathlib.Data.List.Forall2

set_option autoImplicit false

/-!
The text of metric families is read again: every point gives one sample with what its family
announces, in the same order, and no line is left out.
-/

namespace CoreWatch.Exposition

open Text

/-! Sample lines -/

theorem blank_space : ∀ c ∈ [' '], isBlank c = true :=
  List.forall_mem_singleton.mpr rfl

theorem isWord_toChars (x : Double) : IsWord x.toChars :=
  ⟨x.toChars_ne_nil, x.toChars_visible⟩

/-- The pieces of the line of a point. -/
def Point.parts (name : List Char) (point : Point) : SampleParts where
  name
  body := if point.labels.isEmpty then none else some (renderLabels point.labels)
  gap := [' ']
  word := point.value.toChars
  ignored := []

theorem Point.text_parts (name : List Char) (point : Point) :
    (point.parts name).text = point.line name := by
  unfold SampleParts.text SampleParts.afterName Point.parts Point.line
  cases point.labels.isEmpty <;>
    simp only [Bool.false_eq_true, ↓reduceIte, List.append_nil, List.append_assoc,
      List.cons_append, List.nil_append]

theorem Point.means_parts {name : List Char} (valid : isMetricName name = true) {point : Point}
    (labels : ∀ label ∈ point.labels, isLabelName label.name.toList = true) :
    (point.parts name).Means
      ⟨String.ofList name, LabelSet.ofLabels point.labels, point.value⟩ where
  valid := valid
  apart _ := List.cons_ne_nil ' ' []
  blank := blank_space
  word := isWord_toChars point.value
  stop := nofun
  name := rfl
  labels := by
    unfold Point.parts
    cases bare : point.labels.isEmpty with
    | true =>
      rw [List.isEmpty_iff.mp bare]
      rfl
    | false => exact read_render labels
  value := point.value.read?_toChars

/-- A point is read as its own labels and value. -/
theorem ofLine_line {name : List Char} (valid : isMetricName name = true) {point : Point}
    (labels : ∀ label ∈ point.labels, isLabelName label.name.toList = true) :
    Reading.ofLine (point.line name) =
      .ok ⟨String.ofList name, LabelSet.ofLabels point.labels, point.value⟩ := by
  rw [← point.text_parts]
  exact ofLine_means (Point.means_parts valid labels)

theorem newline_of_visible {text : List Char} (visible : ∀ c ∈ text, isBlank c = false) :
    '\n' ∉ text := by
  intro listed
  have blank := visible '\n' listed
  cases blank

theorem newline_metricName {name : List Char} (valid : isMetricName name = true) : '\n' ∉ name :=
  newline_of_visible fun c listed => isBlank_nameChar (isNameChar_metricName valid c listed)

theorem last_line (name : List Char) (point : Point) :
    ∀ c ∈ (point.line name).getLast?, isBlank c = false := by
  intro c last
  have some : ' ' :: point.value.toChars ≠ [] := List.cons_ne_nil _ _
  rw [Point.line, List.getLast?_append_of_ne_nil _ some,
    List.getLast?_cons_of_ne_nil point.value.toChars_ne_nil] at last
  exact point.value.toChars_visible c (List.mem_of_getLast? last)

/-- The line of a point is one line without outer blanks, and no comment. -/
theorem line_shape {name : List Char} (valid : isMetricName name = true) {point : Point}
    (labels : ∀ label ∈ point.labels, isLabelName label.name.toList = true) :
    ∃ c rest, point.line name = c :: rest ∧ c ≠ '#' ∧ Trimmed (point.line name) ∧
      '\n' ∉ point.line name := by
  obtain ⟨c, rest, same, visible, hash⟩ := head_metricName valid
  refine ⟨c, _, by rw [Point.line, same]; rfl, hash, ⟨?_, last_line name point⟩, ?_⟩
  · rw [Point.line, same]
    intro d head
    cases head
    exact visible
  · have value : '\n' ∉ point.value.toChars := newline_of_visible point.value.toChars_visible
    have text := newline_renderLabels labels
    have own := newline_metricName valid
    unfold Point.line
    split <;> simp [own, text, value]

/-! Comment lines -/

theorem isWord_metricName {name : List Char} (valid : isMetricName name = true) : IsWord name := by
  obtain ⟨c, others, same, _⟩ := head_metricName valid
  refine ⟨?_, fun d listed => isBlank_nameChar (isNameChar_metricName valid d listed)⟩
  rw [same]
  exact List.cons_ne_nil c others

theorem isWord_kind (kind : Kind) : IsWord kind.announced.name.toList := by
  cases kind <;> exact ⟨by decide, visible_of_all (by decide)⟩

theorem ofWord_announced (kind : Kind) :
    Kind.ofWord kind.announced.name.toList = kind.announced := by
  cases kind <;> rfl

theorem read?_help {name : List Char} (valid : isMetricName name = true) {rest : List Char}
    (blank : ∀ c ∈ rest.head?, isBlank c = true) :
    Comment.read? (" HELP ".toList ++ name ++ rest) =
      some (.help (String.ofList name) (helpOf rest)) := by
  have form : Announces ('#' :: ([' '] ++ ("HELP ".toList ++ ([] ++ (name ++ rest))))) _ :=
    .help blank_space nofun (isWord_metricName valid) blank
  rw [List.append_assoc]
  exact read?_eq_some_iff.mpr form

theorem read?_type {name : List Char} (valid : isMetricName name = true) (kind : Kind) :
    Comment.read? (" TYPE ".toList ++ name ++ ' ' :: kind.announced.name.toList) =
      some (.type (String.ofList name) kind.announced) := by
  have form : Announces ('#' :: ([' '] ++ ("TYPE ".toList ++
      ([] ++ (name ++ ([' '] ++ (kind.announced.name.toList ++ []))))))) _ :=
    .type blank_space nofun (isWord_metricName valid) (List.cons_ne_nil ' ' []) blank_space
      (isWord_kind kind) nofun
  rw [ofWord_announced, List.append_nil] at form
  rw [List.append_assoc]
  exact read?_eq_some_iff.mpr form

/-- Whatever was announced before, a comment with a kind announces its metric and that kind. -/
theorem apply_type (announced : Option Announcement) (name : String) (kind : Kind) :
    ((Comment.type name kind).apply announced).name = name ∧
      ((Comment.type name kind).apply announced).kind = kind := by
  cases announced with
  | none => exact ⟨rfl, rfl⟩
  | some announcement =>
    unfold Comment.apply
    simp only
    split
    · rename_i same
      exact ⟨same, rfl⟩
    · exact ⟨rfl, rfl⟩

theorem readLines_comment {line text : List Char} {comment : Comment}
    (start : trim line = '#' :: text) (read : Comment.read? text = some comment) (number : Nat)
    (announced : Option Announcement) (lines : List (List Char)) :
    readLines number announced (line :: lines) =
      readLines (number + 1) (some (comment.apply announced)) lines := by
  rw [readLines, start]
  simp only [read]

theorem readLines_sample {line : List Char} {c : Char} {rest : List Char} {reading : Reading}
    (shape : line = c :: rest) (hash : c ≠ '#') (trimmed : Trimmed line)
    (read : Reading.ofLine line = .ok reading) (number : Nat) (announced : Option Announcement)
    (lines : List (List Char)) :
    readLines number announced (line :: lines) =
      .sample (reading.announced announced) :: readLines (number + 1) announced lines := by
  subst shape
  rw [readLines, trimmed.trim]
  split
  · contradiction
  · rename_i same
    exact absurd (List.cons.inj same).1 hash
  · simp only [read]

/-! Families -/

namespace Family

/-- A family whose own name and whose label names can be read again. -/
structure Named (family : Family) : Prop where
  name : isMetricName family.name.toList = true
  labels : ∀ point ∈ family.points, ∀ label ∈ point.labels, isLabelName label.name.toList = true

/-- A family whose names and description can be read again as they are. -/
structure Readable (family : Family) : Prop where
  name : isMetricName family.name.toList = true
  help : Settled family.help.toList
  labels : ∀ point ∈ family.points, ∀ label ∈ point.labels, isLabelName label.name.toList = true

theorem Readable.named {family : Family} (readable : family.Readable) : family.Named :=
  ⟨readable.name, readable.labels⟩

/-- The samples that the points of a family are. -/
def samples (family : Family) : List Sample :=
  family.points.map fun point =>
    ⟨family.name, family.kind.announced, family.help, point.value, LabelSet.ofLabels point.labels⟩

/-- What the comments of a family announce: a description that cannot be read again is another. -/
structure Announces (family : Family) (announcement : Announcement) : Prop where
  name : announcement.name = family.name
  kind : announcement.kind = family.kind.announced
  help : Settled family.help.toList → announcement.help = family.help

/-- The points of families, each with its family. -/
def shown (families : List Family) : List (Family × Point) :=
  families.flatMap fun family => family.points.map (family, ·)

/-- What is read for a point of a family. -/
structure Reads (entry : Family × Point) (sample : Sample) : Prop where
  name : sample.name = entry.1.name
  kind : sample.kind = entry.1.kind.announced
  help : Settled entry.1.help.toList → sample.help = entry.1.help
  value : sample.value = entry.2.value
  labels : sample.labels = LabelSet.ofLabels entry.2.labels

theorem Reads.eq_of_settled {entry : Family × Point} {sample : Sample}
    (reads : Reads entry sample) (settled : Settled entry.1.help.toList) :
    ⟨entry.1.name, entry.1.kind.announced, entry.1.help, entry.2.value,
      LabelSet.ofLabels entry.2.labels⟩ = sample := by
  obtain ⟨name, kind, help, value, labels⟩ := reads
  cases sample
  rw [Sample.mk.injEq]
  exact ⟨name.symm, kind.symm, (help settled).symm, value.symm, labels.symm⟩

end Family

/-- What is left of a description that stands behind a space begins with that space. -/
theorem head_trimRight_space (text : List Char) :
    ∀ c ∈ (trimRight (' ' :: text)).head?, isBlank c = true := by
  intro c head
  obtain ⟨after, same⟩ := trimRight_prefix (' ' :: text)
  have first := congrArg List.head? same
  rw [List.head?_append, Option.mem_def.mp head] at first
  cases first
  rfl

theorem helpOf_settled {help : List Char} (settled : Settled help) :
    helpOf (trimRight (' ' :: help.flatMap escapeHelpChar)) = String.ofList help := by
  have some : help.flatMap escapeHelpChar ≠ [] := by
    intro none
    apply settled.some
    rw [← unescapeHelp_escaped help, none]
    rfl
  have whole : trimRight (' ' :: help.flatMap escapeHelpChar) =
      ' ' :: help.flatMap escapeHelpChar := by
    apply trimRight_of_last
    rw [List.getLast?_cons_of_ne_nil some]
    exact settled.trimmed.last
  have text : trim (' ' :: help.flatMap escapeHelpChar) = help.flatMap escapeHelpChar :=
    settled.trimmed.trim
  unfold helpOf
  simp only [whole, text, List.isEmpty_eq_false_iff.mpr some, Bool.false_eq_true, ↓reduceIte,
    unescapeHelp_escaped]

/-- The comment with the description of a family, whatever stands in the description. -/
theorem helpLine_shape {family : Family} (valid : isMetricName family.name.toList = true) :
    ∃ text help, trim family.helpLine = '#' :: text ∧
      Comment.read? text = some (.help family.name help) ∧
      (Settled family.help.toList → help = family.help) := by
  have shape : family.helpLine = ("# HELP ".toList ++ family.name.toList) ++
      ' ' :: family.help.toList.flatMap escapeHelpChar := rfl
  have last : ∀ c ∈ ("# HELP ".toList ++ family.name.toList).getLast?, isBlank c = false := by
    obtain ⟨c, others, same, _⟩ := head_metricName valid
    intro d final
    rw [List.getLast?_append_of_ne_nil _ (by rw [same]; exact List.cons_ne_nil c others)] at final
    exact isBlank_nameChar (isNameChar_metricName valid d (List.mem_of_getLast? final))
  have read := read?_help valid (head_trimRight_space (family.help.toList.flatMap escapeHelpChar))
  rw [String.ofList_toList] at read
  refine ⟨_, _, ?_, read, fun settled => ?_⟩
  · rw [trim, trimLeft_of_head (by rintro c ⟨⟩; rfl), shape, trimRight_append_of_last last]
    rfl
  · rw [helpOf_settled settled, String.ofList_toList]

theorem trimmed_comment (front : List Char) {back : List Char} (some : back ≠ [])
    (last : ∀ c ∈ back.getLast?, isBlank c = false) : Trimmed ('#' :: (front ++ ' ' :: back)) := by
  refine ⟨?_, ?_⟩
  · intro c head
    cases head
    rfl
  · intro c there
    rw [← List.cons_append, List.getLast?_append_of_ne_nil _ (List.cons_ne_nil ' ' back),
      List.getLast?_cons_of_ne_nil some] at there
    exact last c there

/-- The comment with the kind of a family. -/
theorem typeLine_shape {family : Family} (valid : isMetricName family.name.toList = true) :
    ∃ text, trim family.typeLine = '#' :: text ∧
      Comment.read? text = some (.type family.name family.kind.announced) := by
  have read := read?_type valid family.kind
  rw [String.ofList_toList] at read
  have word := isWord_kind family.kind
  have trimmed : Trimmed family.typeLine :=
    trimmed_comment _ word.some fun c last => word.visible c (List.mem_of_getLast? last)
  exact ⟨_, trimmed.trim, read⟩

/-- The comments of a family announce it, whatever was announced before. -/
theorem readLines_comments {family : Family} (valid : isMetricName family.name.toList = true)
    (number : Nat) (announced : Option Announcement) :
    ∃ announcement next, family.Announces announcement ∧ ∀ lines,
      readLines number announced ((if family.help.isEmpty then [] else [family.helpLine]) ++
        family.typeLine :: lines) = readLines next (some announcement) lines := by
  obtain ⟨typeText, typeStart, typeRead⟩ := typeLine_shape valid
  by_cases undescribed : family.help.isEmpty = true
  · obtain ⟨name, kind⟩ := apply_type announced family.name family.kind.announced
    refine ⟨_, number + 1, ⟨name, kind, fun settled => ?_⟩, fun lines => ?_⟩
    · rw [String.isEmpty_iff] at undescribed
      rw [undescribed] at settled
      exact absurd rfl settled.some
    · rw [if_pos undescribed, List.nil_append, readLines_comment typeStart typeRead]
  · obtain ⟨helpText, help, helpStart, helpRead, own⟩ := helpLine_shape valid
    refine ⟨⟨family.name, help, family.kind.announced⟩, number + 1 + 1, ⟨rfl, rfl, own⟩,
      fun lines => ?_⟩
    rw [if_neg undescribed, List.singleton_append, readLines_comment helpStart helpRead,
      readLines_comment typeStart typeRead]
    simp only [Comment.apply, ↓reduceIte]

/-- The points of an announced family are read one after another. -/
theorem readLines_points {family : Family} (valid : isMetricName family.name.toList = true)
    {announcement : Announcement} (announces : family.Announces announcement)
    {points : List Point}
    (labels : ∀ point ∈ points, ∀ label ∈ point.labels, isLabelName label.name.toList = true)
    (number : Nat) (rest : List (List Char)) :
    ∃ records, List.Forall₂ Family.Reads (points.map (family, ·)) records ∧
      readLines number (some announcement) (points.map (Point.line family.name.toList) ++ rest) =
        records.map Outcome.sample ++
          readLines (number + points.length) (some announcement) rest := by
  induction points generalizing number with
  | nil => exact ⟨[], .nil, rfl⟩
  | cons point points ih =>
    obtain ⟨own, others⟩ := List.forall_mem_cons.mp labels
    obtain ⟨c, tail, shape, hash, trimmed, _⟩ := line_shape valid own
    have told : Reading.announced (some announcement)
        ⟨family.name, LabelSet.ofLabels point.labels, point.value⟩ =
          ⟨family.name, announcement.kind, announcement.help, point.value,
            LabelSet.ofLabels point.labels⟩ := by
      simp only [Reading.announced, announces.name, ↓reduceIte]
    have count : number + (point :: points).length = number + 1 + points.length := by
      rw [List.length_cons]
      omega
    obtain ⟨records, reads, read⟩ := ih others (number + 1)
    have first : Family.Reads (family, point) ⟨family.name, announcement.kind, announcement.help,
        point.value, LabelSet.ofLabels point.labels⟩ :=
      ⟨rfl, announces.kind, announces.help, rfl, rfl⟩
    refine ⟨_ :: records, .cons first reads, ?_⟩
    rw [List.map_cons, List.cons_append,
      readLines_sample shape hash trimmed (ofLine_line valid own), String.ofList_toList, told, read,
      count]
    rfl

theorem isEmpty_eq_false {text : String} (some : text.toList ≠ []) : text.isEmpty = false := by
  rw [Bool.eq_false_iff, ne_eq, String.isEmpty_iff, ← String.toList_eq_nil_iff]
  exact some

theorem readLines_families {families : List Family} (named : ∀ family ∈ families, family.Named)
    (number : Nat) (announced : Option Announcement) :
    ∃ records, List.Forall₂ Family.Reads (Family.shown families) records ∧
      readLines number announced (families.flatMap Family.lines ++ [[]]) =
        records.map Outcome.sample := by
  induction families generalizing number announced with
  | nil => exact ⟨[], .nil, rfl⟩
  | cons family families ih =>
    obtain ⟨own, others⟩ := List.forall_mem_cons.mp named
    obtain ⟨announcement, next, announces, comments⟩ :=
      readLines_comments own.name number announced
    obtain ⟨records, reads, points⟩ := readLines_points own.name announces own.labels next
      (families.flatMap Family.lines ++ [[]])
    obtain ⟨later, readLater, rest⟩ := ih others (next + family.points.length) (some announcement)
    refine ⟨records ++ later, List.rel_append reads readLater, ?_⟩
    rw [List.flatMap_cons, Family.lines, List.append_assoc, List.append_assoc, List.cons_append,
      comments, points, rest, List.map_append]

theorem newline_lines {family : Family} (named : family.Named) :
    ∀ line ∈ family.lines, '\n' ∉ line := by
  have name := newline_metricName named.name
  have help := newline_escapedHelp family.help.toList
  have kind : '\n' ∉ family.kind.announced.name.toList := by
    cases family.kind <;> decide
  have helpLine : '\n' ∉ family.helpLine :=
    List.not_mem_append (List.not_mem_append (by decide) name)
      (List.not_mem_cons_of_ne_of_not_mem (by decide) help)
  have typeLine : '\n' ∉ family.typeLine :=
    List.not_mem_append (List.not_mem_append (by decide) name)
      (List.not_mem_cons_of_ne_of_not_mem (by decide) kind)
  have described : ∀ line ∈ if family.help.isEmpty then [] else [family.helpLine],
      '\n' ∉ line := by
    split
    · exact List.forall_mem_nil _
    · exact List.forall_mem_singleton.mpr helpLine
  have points : ∀ line ∈ family.points.map (Point.line family.name.toList), '\n' ∉ line := by
    intro line listed
    obtain ⟨point, there, rfl⟩ := List.mem_map.mp listed
    obtain ⟨_, _, _, _, _, newline⟩ := line_shape named.name (named.labels point there)
    exact newline
  exact List.forall_mem_append.mpr ⟨described, List.forall_mem_cons.mpr ⟨typeLine, points⟩⟩

theorem encode_text {families : List Family} (named : ∀ family ∈ families, family.Named)
    (shown : ∀ family ∈ families, family.points ≠ []) :
    ∃ text : String, encode families = .ok text ∧
      splitOn '\n' text.toList = families.flatMap Family.lines ++ [[]] := by
  have kept : families.filter (fun family => !family.points.isEmpty) = families := by
    rw [List.filter_eq_self]
    intro family listed
    rw [List.isEmpty_eq_false_iff.mpr (shown family listed)]
    rfl
  have full : families.any (fun family => family.name.isEmpty) = false := by
    rw [List.any_eq_false]
    intro family listed
    obtain ⟨c, rest, same, _⟩ := head_metricName (named family listed).name
    rw [isEmpty_eq_false (by rw [same]; exact List.cons_ne_nil c rest)]
    decide
  have whole : ∀ line ∈ families.flatMap Family.lines, '\n' ∉ line := by
    intro line listed
    obtain ⟨family, there, inside⟩ := List.mem_flatMap.mp listed
    exact newline_lines (named family there) line inside
  refine ⟨String.ofList ((families.flatMap Family.lines).flatMap (· ++ ['\n'])), ?_, ?_⟩
  · unfold encode
    simp only [kept, full, Bool.false_eq_true, ↓reduceIte]
  · rw [String.toList_ofList, splitOn_lines whole]

/-- The metric whose kind a line announces. -/
def typedName? (line : List Char) : Option String :=
  match trim line with
  | '#' :: comment =>
    match Comment.read? comment with
    | some (.type name _) => some name
    | _ => none
  | _ => none

/-- The metrics whose kinds the lines of a text announce, in the order of the lines. -/
def typedNames (text : String) : List String :=
  (splitOn '\n' text.toList).filterMap typedName?

theorem typedName?_line {name : List Char} (valid : isMetricName name = true) {point : Point}
    (labels : ∀ label ∈ point.labels, isLabelName label.name.toList = true) :
    typedName? (point.line name) = none := by
  obtain ⟨c, rest, shape, hash, trimmed, _⟩ := line_shape valid labels
  unfold typedName?
  rw [trimmed.trim, shape]
  split
  · rename_i same
    exact absurd (List.cons.inj same).1 hash
  · rfl

theorem typedName?_lines {family : Family} (named : family.Named) :
    family.lines.filterMap typedName? = [family.name] := by
  obtain ⟨helpText, help, helpStart, helpRead, _⟩ := helpLine_shape named.name
  obtain ⟨typeText, typeStart, typeRead⟩ := typeLine_shape named.name
  have untyped : (if family.help.isEmpty then [] else [family.helpLine]).filterMap typedName? =
      [] := by
    split
    · rfl
    · rw [List.filterMap_cons_none, List.filterMap_nil]
      unfold typedName?
      simp only [helpStart, helpRead]
  have typed : typedName? family.typeLine = some family.name := by
    unfold typedName?
    simp only [typeStart, typeRead]
  have points : (family.points.map (Point.line family.name.toList)).filterMap typedName? = [] := by
    rw [List.filterMap_map, List.filterMap_eq_nil_iff]
    exact fun point listed => typedName?_line named.name (named.labels point listed)
  rw [Family.lines, List.filterMap_append, untyped, List.nil_append,
    List.filterMap_cons_some typed, points]

theorem typedNames_lines {families : List Family} (named : ∀ family ∈ families, family.Named) :
    (families.flatMap Family.lines).filterMap typedName? = families.map (·.name) := by
  induction families with
  | nil => rfl
  | cons family families ih =>
    obtain ⟨own, others⟩ := List.forall_mem_cons.mp named
    rw [List.flatMap_cons, List.filterMap_append, typedName?_lines own, ih others]
    rfl

/--
Families with valid names are written, and read again point by point without a line left out. Every
family announces its kind in one line.
-/
theorem encode_named {families : List Family} (named : ∀ family ∈ families, family.Named)
    (shown : ∀ family ∈ families, family.points ≠ []) :
    ∃ text, encode families = .ok text ∧ skips text = [] ∧
      List.Forall₂ Family.Reads (Family.shown families) (samples text) ∧
      typedNames text = families.map (·.name) := by
  obtain ⟨text, written, lines⟩ := encode_text named shown
  obtain ⟨records, reads, read⟩ := readLines_families named 1 none
  rw [← lines] at read
  have whole : outcomes text = records.map Outcome.sample := read
  refine ⟨text, written, ?_, ?_, ?_⟩
  · rw [skips, whole, List.filterMap_map]
    exact List.filterMap_eq_nil_iff.mpr fun _ _ => rfl
  · have same : samples text = records := by
      rw [samples, whole, List.filterMap_map]
      exact List.filterMap_some
    rw [same]
    exact reads
  · have last : [[]].filterMap typedName? = [] := rfl
    rw [typedNames, lines, List.filterMap_append, last, List.append_nil, typedNames_lines named]

/-- Readable families are read again as their samples. -/
theorem encode_readable {families : List Family}
    (readable : ∀ family ∈ families, family.Readable)
    (shown : ∀ family ∈ families, family.points ≠ []) :
    ∃ text, encode families = .ok text ∧ skips text = [] ∧
      samples text = families.flatMap Family.samples ∧ typedNames text = families.map (·.name) := by
  obtain ⟨text, written, skipped, reads, typed⟩ :=
    encode_named (fun family listed => (readable family listed).named) shown
  refine ⟨text, written, skipped, ?_, typed⟩
  have settled : ∀ entry ∈ Family.shown families, Settled entry.1.help.toList := by
    intro entry listed
    obtain ⟨family, there, inside⟩ := List.mem_flatMap.mp listed
    obtain ⟨point, _, rfl⟩ := List.mem_map.mp inside
    exact (readable family there).help
  have exact := ((List.forall₂_and_left _ _).mpr ⟨settled, reads⟩).imp
    fun _ _ facts => facts.2.eq_of_settled facts.1
  rw [← List.forall₂_map_left_iff, List.forall₂_eq_eq_eq] at exact
  rw [← exact, Family.shown, List.map_flatMap]
  simp only [List.map_map]
  rfl

end CoreWatch.Exposition
