import CoreWatch.Proofs.Exposition.Comments
import Mathlib.Data.List.DropRight
import Mathlib.Data.List.Induction

set_option autoImplicit false

/-!
Reading a text without a memory. What a line gives depends on the lines before it only through the
comments at their end that are all about its metric.
-/

namespace CoreWatch.Exposition

open Text

/-! Looking back at comments -/

namespace Comment

/-- The metric that a comment is about. -/
def metric : Comment → String
  | help name _ => name
  | type name _ => name

def text? : Comment → Option String
  | help _ text => some text
  | type _ _ => none

def kind? : Comment → Option Kind
  | help _ _ => none
  | type _ kind => some kind

end Comment

/-- The comments at the end that are all about one metric. -/
def latestAbout (metric : String) (comments : List Comment) : List Comment :=
  comments.rtakeWhile (·.metric = metric)

/-- The latest description. -/
def latestHelp (comments : List Comment) : String :=
  (comments.filterMap Comment.text?).getLast?.getD defaultHelp

/-- The latest kind that no description follows. -/
def latestKind (comments : List Comment) : Kind :=
  ((comments.rtakeWhile (·.text?.isNone)).filterMap Comment.kind?).getLast?.getD .unknown

theorem latestAbout_concat (metric : String) (comments : List Comment) (comment : Comment) :
    latestAbout metric (comments ++ [comment]) =
      if comment.metric = metric then latestAbout metric comments ++ [comment] else [] := by
  rw [latestAbout, List.rtakeWhile_concat]
  simp only [decide_eq_true_eq]
  rfl

theorem latestHelp_concat (comments : List Comment) (comment : Comment) :
    latestHelp (comments ++ [comment]) = comment.text?.getD (latestHelp comments) := by
  rw [latestHelp, List.filterMap_append, List.getLast?_append]
  cases comment <;> rfl

theorem latestKind_concat (comments : List Comment) (comment : Comment) :
    latestKind (comments ++ [comment]) = comment.kind?.getD .unknown := by
  rw [latestKind, List.rtakeWhile_concat]
  cases comment with
  | help name text => rfl
  | type name kind =>
    rw [if_pos (show (Comment.type name kind).text?.isNone = true from rfl),
      List.filterMap_append, List.getLast?_append]
    rfl

/-- What is announced after some comments. -/
def announcementAfter (comments : List Comment) : Option Announcement :=
  comments.foldl (fun before comment => some (comment.apply before)) none

theorem announcementAfter_concat (comments : List Comment) (comment : Comment) :
    announcementAfter (comments ++ [comment]) =
      some (comment.apply (announcementAfter comments)) :=
  List.foldl_concat ..

/-- What an announcement says of a metric: its kind and its description. -/
def Announcement.tells (announced : Option Announcement) (metric : String) : Kind × String :=
  match announced with
  | some announcement =>
    if announcement.name = metric then (announcement.kind, announcement.help)
    else (.unknown, defaultHelp)
  | none => (.unknown, defaultHelp)

theorem tells_apply (announced : Option Announcement) (comment : Comment) (metric : String) :
    Announcement.tells (some (comment.apply announced)) metric =
      if comment.metric = metric then
        (comment.kind?.getD .unknown, comment.text?.getD (Announcement.tells announced metric).2)
      else (.unknown, defaultHelp) := by
  cases comment with
  | help name text => rfl
  | type name kind =>
    cases announced with
    | none => rfl
    | some announcement =>
      simp only [Comment.apply, Announcement.tells, Comment.metric, Comment.kind?, Comment.text?,
        Option.getD_some, Option.getD_none]
      by_cases here : name = metric
      · subst here
        by_cases same : announcement.name = name <;> simp only [same, ↓reduceIte]
      · by_cases same : announcement.name = name
        · subst same
          simp only [here, ↓reduceIte]
        · simp only [same, here, ↓reduceIte]

/-- What is announced of a metric is what looking back finds. -/
theorem tells_announcementAfter (comments : List Comment) (metric : String) :
    Announcement.tells (announcementAfter comments) metric =
      (latestKind (latestAbout metric comments), latestHelp (latestAbout metric comments)) := by
  induction comments using List.reverseRecOn with
  | nil => rfl
  | append_singleton comments comment ih =>
    rw [announcementAfter_concat, tells_apply, latestAbout_concat, ih]
    split
    · rw [latestKind_concat, latestHelp_concat]
    · rfl

theorem announced_eq (reading : Reading) (announced : Option Announcement) :
    reading.announced announced =
      ⟨reading.name, (Announcement.tells announced reading.name).1,
        (Announcement.tells announced reading.name).2, reading.value, reading.labels⟩ := by
  cases announced with
  | none => rfl
  | some announcement =>
    simp only [Reading.announced, Announcement.tells]
    split <;> rfl

/-- A reading with what the comments before it say of its metric. -/
def Reading.after (comments : List Comment) (reading : Reading) : Sample :=
  let latest := latestAbout reading.name comments
  ⟨reading.name, latestKind latest, latestHelp latest, reading.value, reading.labels⟩

theorem announced_announcementAfter (reading : Reading) (comments : List Comment) :
    reading.announced (announcementAfter comments) = reading.after comments := by
  rw [announced_eq, tells_announcementAfter, Reading.after]

/-! Lines -/

/-- What a line is by its first character that is no blank. -/
inductive LineForm
  | blank
  | comment (text : List Char)
  | sample (text : List Char)

def LineForm.of (line : List Char) : LineForm :=
  match trim line with
  | [] => .blank
  | '#' :: text => .comment text
  | text => .sample text

/-- What a line says about a metric, if it is a comment that does. -/
def comment? (line : List Char) : Option Comment :=
  match LineForm.of line with
  | .comment text => Comment.read? text
  | _ => none

/-- What is read from a line that is neither blank nor a comment. -/
def readLine? (line : List Char) : Option (Except SampleFault Reading) :=
  match LineForm.of line with
  | .sample text => some (Reading.ofLine text)
  | _ => none

/-- What a line gives in the place that it has, after what was announced before it. -/
def outcomeAt (number : Nat) (announced : Option Announcement) (line : List Char) :
    Option Outcome :=
  (readLine? line).map fun
    | .ok reading => .sample (reading.announced announced)
    | .error fault => .skip ⟨number, fault⟩

/-- What is announced after a line. -/
def announcedBy (announced : Option Announcement) (line : List Char) : Option Announcement :=
  ((comment? line).map fun comment => comment.apply announced).or announced

theorem LineForm.of_blank {line : List Char} (trimmed : trim line = []) :
    LineForm.of line = .blank := by
  rw [LineForm.of, trimmed]

theorem LineForm.of_comment {line text : List Char} (trimmed : trim line = '#' :: text) :
    LineForm.of line = .comment text := by
  rw [LineForm.of, trimmed]
  rfl

theorem LineForm.of_sample {line text : List Char} (trimmed : trim line = text)
    (noBlank : text ≠ []) (noComment : ∀ after, text ≠ '#' :: after) :
    LineForm.of line = .sample text := by
  rw [LineForm.of, trimmed]
  split
  · exact (noBlank rfl).elim
  · exact (noComment _ rfl).elim
  · rfl

theorem comment?_eq_some_iff {line : List Char} {comment : Comment} :
    comment? line = some comment ↔ Announces (trim line) comment := by
  rw [comment?, LineForm.of]
  split
  · rename_i text form
    split at form
    · cases form
    · rename_i trimmed
      cases form
      rw [trimmed]
      exact read?_eq_some_iff
    · cases form
  · rename_i other
    refine iff_of_false nofun fun form => ?_
    generalize trim line = text at other form
    cases form <;> exact other _ rfl

/-- Lines are read one by one. -/
theorem readLines_cons (number : Nat) (announced : Option Announcement) (line : List Char)
    (rest : List (List Char)) :
    readLines number announced (line :: rest) =
      (outcomeAt number announced line).toList ++
        readLines (number + 1) (announcedBy announced line) rest := by
  rw [readLines.eq_def, outcomeAt, announcedBy, readLine?, comment?]
  simp only
  split
  · rename_i trimmed
    rw [LineForm.of_blank trimmed]
    rfl
  · rename_i text trimmed
    rw [LineForm.of_comment trimmed]
    cases said : Comment.read? text <;> simp only [said] <;> rfl
  · rename_i noBlank noComment
    rw [LineForm.of_sample rfl noBlank noComment]
    simp only
    cases Reading.ofLine (trim line) <;> rfl

/-- The comments of some lines, in their order. -/
def comments (lines : List (List Char)) : List Comment :=
  lines.filterMap comment?

theorem announcedBy_comments (before : List (List Char)) (line : List Char) :
    announcedBy (announcementAfter (comments before)) line =
      announcementAfter (comments (before ++ [line])) := by
  rw [announcedBy, comments, comments, List.filterMap_append, List.filterMap_cons]
  cases comment? line with
  | none =>
    rw [List.filterMap_nil, List.append_nil]
    rfl
  | some comment => exact (announcementAfter_concat ..).symm

/-- What a line gives when the lines before it are known. -/
def outcomeAfter (before : List (List Char)) (line : List Char) : Option Outcome :=
  (readLine? line).map fun
    | .ok reading => .sample (reading.after (comments before))
    | .error fault => .skip ⟨before.length + 1, fault⟩

theorem outcomeAt_comments (before : List (List Char)) (line : List Char) :
    outcomeAt (before.length + 1) (announcementAfter (comments before)) line =
      outcomeAfter before line := by
  simp only [outcomeAt, outcomeAfter, announced_announcementAfter]

/-- Reading on after some lines is looking back at them from each further line. -/
theorem readLines_eq (before lines : List (List Char)) :
    readLines (before.length + 1) (announcementAfter (comments before)) lines =
      (lines.zipIdx before.length).filterMap fun (line, place) =>
        outcomeAfter ((before ++ lines).take place) line := by
  induction lines generalizing before with
  | nil => rfl
  | cons line rest ih =>
    have later := ih (before ++ [line])
    rw [List.length_append, List.length_singleton, List.append_assoc, List.singleton_append]
      at later
    rw [readLines_cons, outcomeAt_comments, announcedBy_comments, later, List.zipIdx_cons,
      List.filterMap_cons]
    simp only [List.take_left]
    cases outcomeAfter before line <;> rfl

theorem outcomes_eq (text : String) :
    let lines := splitOn '\n' text.toList
    outcomes text = lines.zipIdx.filterMap fun (line, place) =>
      outcomeAfter (lines.take place) line :=
  readLines_eq [] _

/-! Lines that change nothing -/

def Outcome.sample? : Outcome → Option Sample
  | .sample found => some found
  | .skip _ => none

theorem samples_eq (text : String) : samples text = (outcomes text).filterMap Outcome.sample? :=
  rfl

/-- A line that is blank, a comment that says nothing about a metric, or a malformed sample. -/
def isIdle (line : List Char) : Bool :=
  (comment? line).isNone && (readLine? line).all (!·.isOk)

/-- An idle line neither announces anything nor gives a sample. -/
theorem idle_cases {line : List Char} (idle : isIdle line = true) (number : Nat)
    (announced : Option Announcement) :
    announcedBy announced line = announced ∧
      (outcomeAt number announced line).toList.filterMap Outcome.sample? = [] := by
  obtain ⟨silent, unread⟩ := Bool.and_eq_true_iff.mp idle
  rw [Option.isNone_iff_eq_none] at silent
  refine ⟨by rw [announcedBy, silent]; rfl, ?_⟩
  rw [outcomeAt]
  cases read : readLine? line with
  | none => rfl
  | some result =>
    cases result with
    | error fault => rfl
    | ok reading =>
      rw [read] at unread
      cases unread

/-- Which sample a line gives does not depend on its number. -/
theorem sample?_outcomeAt (number number' : Nat) (announced : Option Announcement)
    (line : List Char) :
    (outcomeAt number announced line).toList.filterMap Outcome.sample? =
      (outcomeAt number' announced line).toList.filterMap Outcome.sample? := by
  rw [outcomeAt, outcomeAt]
  cases readLine? line with
  | none => rfl
  | some result => cases result <;> rfl

/-- Idle lines may be left out: only numbers of lines change. -/
theorem readLines_filter (number number' : Nat) (announced : Option Announcement)
    (lines : List (List Char)) :
    (readLines number announced lines).filterMap Outcome.sample? =
      (readLines number' announced (lines.filter (!isIdle ·))).filterMap Outcome.sample? := by
  induction lines generalizing number number' announced with
  | nil => rfl
  | cons line rest ih =>
    rw [readLines_cons, List.filterMap_append]
    cases idle : isIdle line with
    | true =>
      obtain ⟨silent, sampleless⟩ := idle_cases idle number announced
      rw [List.filter_cons_of_neg (by rw [idle]; decide), silent, sampleless, List.nil_append]
      exact ih ..
    | false =>
      rw [List.filter_cons_of_pos (by rw [idle]; rfl), readLines_cons, List.filterMap_append,
        sample?_outcomeAt number number', ih (number + 1) (number' + 1)]

theorem samples_filter (text : String) :
    samples text =
      (readLines 1 none ((splitOn '\n' text.toList).filter (!isIdle ·))).filterMap
        Outcome.sample? :=
  readLines_filter 1 1 none _

/--
A text is read without a memory: each line that is neither blank nor a comment gives, in its place,
one sample or one line that is left out, and nothing else is given. The kind and the description of
a sample are those of the latest comments, as far back as they are about its metric. So blank lines,
other comments and malformed samples may be put in anywhere.
-/
theorem outcomes_stateless (text : String) :
    let lines := splitOn '\n' text.toList
    outcomes text = lines.zipIdx.filterMap (fun (line, place) =>
        outcomeAfter (lines.take place) line) ∧
      (∀ (line : List Char) (comment : Comment),
        comment? line = some comment ↔ Announces (trim line) comment) ∧
      ∀ other : String,
        lines.filter (!isIdle ·) = (splitOn '\n' other.toList).filter (!isIdle ·) →
          samples text = samples other := by
  intro lines
  refine ⟨outcomes_eq text, fun _ _ => comment?_eq_some_iff, fun other same => ?_⟩
  rw [samples_filter text, samples_filter other, ← same]

/-- Blank lines, remarks and a sample without a number make no difference. -/
theorem outcomes_stateless_interspersed :
    let text := "# HELP x Requests\n# TYPE x counter\nx 1"
    let other := "# HELP x Requests\n\n# TYPE x\n# TYPE x counter\ny one\n# note\nx 1\n"
    (splitOn '\n' text.toList).filter (!isIdle ·) =
        (splitOn '\n' other.toList).filter (!isIdle ·) ∧
      samples text = samples other ∧
      (samples other).map (fun sample => (sample.name, sample.kind, sample.help)) =
        [("x", .counter, "Requests")] := by
  intro text other
  have same : (splitOn '\n' text.toList).filter (!isIdle ·) =
      (splitOn '\n' other.toList).filter (!isIdle ·) := by decide +kernel
  exact ⟨same, (outcomes_stateless text).2.2 other same, by decide +kernel⟩

end CoreWatch.Exposition
