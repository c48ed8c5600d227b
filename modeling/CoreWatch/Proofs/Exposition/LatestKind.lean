import CoreWatch.Proofs.Exposition.Lookback
import Mathlib.Data.List.Forall2

set_option autoImplicit false

/-!
The kind of a sample is the one that the latest comment gives to its metric. Only one metric is
announced at a time, so a comment about another one has the kind forgotten.
-/

namespace CoreWatch.Exposition

open Text

/-- The kind that a comment gives to a metric. -/
def Comment.kindFor? (metric : String) (comment : Comment) : Option Kind :=
  if comment.metric = metric then comment.kind? else none

/-- The kind that comments give to a metric last, whatever else they say afterwards. -/
def kindGiven (metric : String) (comments : List Comment) : Kind :=
  (comments.filterMap (Comment.kindFor? metric)).getLast?.getD .unknown

/-- How the kind of a metric follows from comments about this one and about others. -/
structure KindFollows (metric : String) (comments : List Comment) (kind : Kind) : Prop where
  /-- The latest comment gives the kind. -/
  given : ∀ told, comments.getLast? = some (.type metric told) → kind = told
  /-- The latest comment is about another metric. -/
  forgotten : ∀ comment ∈ comments.getLast?, comment.metric ≠ metric → kind = .unknown
  /-- No comment gives a kind to the metric. -/
  untold : (∀ told, .type metric told ∉ comments) → kind = .unknown

theorem kindFor?_type (metric : String) (kind : Kind) :
    (Comment.type metric kind).kindFor? metric = some kind :=
  if_pos rfl

theorem eq_type_of_kindFor? {metric : String} {comment : Comment} {kind : Kind}
    (found : comment.kindFor? metric = some kind) : comment = .type metric kind := by
  unfold Comment.kindFor? at found
  split at found
  · rename_i same
    cases comment with
    | help name text => cases found
    | type name told =>
      cases found
      exact congrArg (Comment.type · kind) same
  · cases found

theorem latestKind_latestAbout_concat (metric : String) (comments : List Comment)
    (comment : Comment) :
    latestKind (latestAbout metric (comments ++ [comment])) =
      (comment.kindFor? metric).getD .unknown := by
  rw [latestAbout_concat, Comment.kindFor?]
  split
  · exact latestKind_concat ..
  · rfl

theorem latestKind_follows (metric : String) (comments : List Comment) :
    KindFollows metric comments (latestKind (latestAbout metric comments)) := by
  rcases List.eq_nil_or_concat' comments with rfl | ⟨before, comment, rfl⟩
  · exact ⟨nofun, nofun, fun _ => rfl⟩
  rw [latestKind_latestAbout_concat]
  constructor
  · intro told latest
    rw [List.getLast?_concat] at latest
    rw [Option.some.inj latest, kindFor?_type, Option.getD_some]
  · intro other latest apart
    rw [List.getLast?_concat] at latest
    cases latest
    rw [Comment.kindFor?, if_neg apart, Option.getD_none]
  · intro untold
    cases found : comment.kindFor? metric with
    | none => rfl
    | some kind =>
      rw [eq_type_of_kindFor? found] at untold
      exact absurd (List.mem_append_right _ List.mem_cons_self) (untold kind)

/-! Samples in their places -/

/-- What is read from the lines that hold samples, each with the comments before it. -/
def readings (text : String) : List (List Comment × Reading) :=
  let lines := splitOn '\n' text.toList
  lines.zipIdx.filterMap fun (line, place) =>
    ((readLine? line).bind (·.toOption)).map fun reading => (comments (lines.take place), reading)

theorem sample?_outcomeAfter (before : List (List Char)) (line : List Char) :
    (outcomeAfter before line).bind Outcome.sample? =
      ((readLine? line).bind (·.toOption)).map (Reading.after (comments before)) := by
  rw [outcomeAfter]
  cases readLine? line with
  | none => rfl
  | some result => cases result <;> rfl

theorem samples_eq_readings (text : String) :
    samples text = (readings text).map fun (before, reading) => reading.after before := by
  rw [samples_eq, outcomes_eq, readings, List.filterMap_filterMap, List.map_filterMap]
  refine List.filterMap_congr fun (line, place) _ => ?_
  simp only [sample?_outcomeAfter, Option.map_map]
  rfl

/--
Each sample has the kind that the latest comment before its line gives to its metric. Its kind is
unknown if that comment is about another metric, or if none gives a kind to its own.
-/
theorem kinds_follow_comments (text : String) :
    List.Forall₂
      (fun (before, reading) sample =>
        sample.name = reading.name ∧ KindFollows sample.name before sample.kind)
      (readings text) (samples text) := by
  rw [samples_eq_readings, List.forall₂_map_right_iff, List.forall₂_same]
  intro (before, reading) _
  exact ⟨rfl, latestKind_follows reading.name before⟩

/-- The kind of one metric is forgotten when that of another is given. -/
theorem kind_forgotten :
    ¬ ∀ text : String,
      (samples text).map (fun sample => (sample.name, sample.kind)) =
        (readings text).map fun (before, reading) =>
          (reading.name, kindGiven reading.name before) := by
  intro remembered
  have here := remembered "# TYPE x counter\n# TYPE y gauge\nx 1\ny 2\n"
  revert here
  decide +kernel

end CoreWatch.Exposition
