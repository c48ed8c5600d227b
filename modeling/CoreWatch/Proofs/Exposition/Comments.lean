import CoreWatch.Exposition.Payload
import CoreWatch.Proofs.Text.Blanks

set_option autoImplicit false

/-! The forms of the comment lines that say something about a metric. -/

namespace CoreWatch.Exposition

open Text

/-- A word: some characters, none of them a blank. -/
structure IsWord (word : List Char) : Prop where
  some : word ≠ []
  visible : ∀ c ∈ word, isBlank c = false

/-- The description that is read from what follows a name. -/
def helpOf (text : List Char) : String :=
  let text := trim text
  if text.isEmpty then defaultHelp else String.ofList (unescapeHelp text)

/--
Lines that say something about a metric: a hash, a keyword with one space, and then the name of the
metric with its description, or with its kind, which further words may follow.
-/
inductive Announces : List Char → Comment → Prop
  | help {front gap name rest : List Char} (before : ∀ c ∈ front, isBlank c = true)
      (between : ∀ c ∈ gap, isBlank c = true) (word : IsWord name)
      (stop : ∀ c ∈ rest.head?, isBlank c = true) :
      Announces ('#' :: (front ++ ("HELP ".toList ++ (gap ++ (name ++ rest)))))
        (.help (String.ofList name) (helpOf rest))
  | type {front gap name gap' kind rest : List Char} (before : ∀ c ∈ front, isBlank c = true)
      (between : ∀ c ∈ gap, isBlank c = true) (word : IsWord name)
      (apart : gap' ≠ []) (between' : ∀ c ∈ gap', isBlank c = true) (word' : IsWord kind)
      (stop : ∀ c ∈ rest.head?, isBlank c = true) :
      Announces ('#' :: (front ++ ("TYPE ".toList ++ (gap ++ (name ++ (gap' ++ (kind ++ rest)))))))
        (.type (String.ofList name) (Kind.ofWord kind))

theorem afterKeyword?_eq_some_iff {keyword : String} {text body : List Char} :
    Comment.afterKeyword? keyword text = some body ↔ text = keyword.toList ++ ' ' :: body := by
  have shape (rest : List Char) :
      keyword.toList ++ ' ' :: rest = (keyword.toList ++ [' ']) ++ rest := by
    rw [List.append_assoc, List.singleton_append]
  have length : keyword.length + 1 = (keyword.toList ++ [' ']).length := by
    rw [List.length_append, String.length_toList, List.length_singleton]
  rw [Comment.afterKeyword?, length, shape body]
  constructor
  · intro found
    split at found
    · rename_i start
      obtain ⟨rest, rfl⟩ := List.isPrefixOf_iff_prefix.mp start
      rw [List.drop_left] at found
      rw [Option.some.inj found]
    · cases found
  · rintro rfl
    rw [if_pos (List.isPrefixOf_iff_prefix.mpr (List.prefix_append _ _)), List.drop_left]

theorem readHelp?_eq_some_iff {body : List Char} {comment : Comment} :
    Comment.readHelp? body = some comment ↔
      ∃ gap name rest, (∀ c ∈ gap, isBlank c = true) ∧ body = gap ++ (name ++ rest) ∧
        IsWord name ∧ (∀ c ∈ rest.head?, isBlank c = true) ∧
          comment = .help (String.ofList name) (helpOf rest) := by
  have words : Comment.readHelp? body =
      if (nextWord body).1 = [] then none
      else some (.help (String.ofList (nextWord body).1) (helpOf (nextWord body).2)) := by
    simp only [Comment.readHelp?, List.isEmpty_iff (l := List.takeWhile _ _)]
    rfl
  rw [words]
  constructor
  · intro read
    cases found : nextWord body with
    | mk name rest =>
      rw [found] at read
      split at read
      · cases read
      · rename_i named
        obtain ⟨gap, blank, shape, visible, stop⟩ := (nextWord_eq_iff named).mp found
        exact ⟨gap, name, rest, blank, shape, ⟨named, visible⟩, stop, (Option.some.inj read).symm⟩
  · rintro ⟨gap, name, rest, blank, shape, word, stop, rfl⟩
    have found := (nextWord_eq_iff word.some).mpr ⟨gap, blank, shape, word.visible, stop⟩
    rw [found, if_neg word.some]

theorem readType?_eq_some_iff {body : List Char} {comment : Comment} :
    Comment.readType? body = some comment ↔
      ∃ gap name gap' kind rest, (∀ c ∈ gap, isBlank c = true) ∧
        body = gap ++ (name ++ (gap' ++ (kind ++ rest))) ∧ IsWord name ∧ gap' ≠ [] ∧
          (∀ c ∈ gap', isBlank c = true) ∧ IsWord kind ∧ (∀ c ∈ rest.head?, isBlank c = true) ∧
            comment = .type (String.ofList name) (Kind.ofWord kind) := by
  simp only [Comment.readType?, Bool.or_eq_true, List.isEmpty_iff]
  constructor
  · intro read
    cases first : nextWord body with
    | mk name tail =>
      cases second : nextWord tail with
      | mk kind rest =>
        simp only [first, second] at read
        split at read
        · cases read
        · rename_i both
          obtain ⟨named, kinded⟩ := not_or.mp both
          obtain ⟨gap, blank, shape, visible, stop⟩ := (nextWord_eq_iff named).mp first
          obtain ⟨gap', blank', rfl, visible', stop'⟩ := (nextWord_eq_iff kinded).mp second
          refine ⟨gap, name, gap', kind, rest, blank, shape, ⟨named, visible⟩, ?_, blank',
            ⟨kinded, visible'⟩, stop', (Option.some.inj read).symm⟩
          -- Without blanks between them the two words were one.
          rintro rfl
          obtain ⟨c, others, rfl⟩ := List.exists_cons_of_ne_nil kinded
          exact absurd (stop c rfl) (Bool.eq_false_iff.mp (visible' c List.mem_cons_self))
  · rintro ⟨gap, name, gap', kind, rest, blank, shape, word, apart, blank', word', stop, rfl⟩
    have stop' : ∀ c ∈ (gap' ++ (kind ++ rest)).head?, isBlank c = true := by
      obtain ⟨c, others, rfl⟩ := List.exists_cons_of_ne_nil apart
      rintro _ ⟨⟩
      exact blank' c List.mem_cons_self
    have first := (nextWord_eq_iff word.some).mpr ⟨gap, blank, shape, word.visible, stop'⟩
    have second := (nextWord_eq_iff word'.some).mpr ⟨gap', blank', rfl, word'.visible, stop⟩
    rw [first]
    simp only [second]
    rw [if_neg (not_or.mpr ⟨word.some, word'.some⟩)]

theorem read?_afterHelp {front : List Char} (before : ∀ c ∈ front, isBlank c = true)
    (body : List Char) :
    Comment.read? (front ++ ("HELP ".toList ++ body)) = Comment.readHelp? body := by
  have start : trimLeft (front ++ ("HELP ".toList ++ body)) = "HELP ".toList ++ body :=
    List.dropWhile_append_of_pos before
  have helped : Comment.afterKeyword? "HELP" ("HELP ".toList ++ body) = some body :=
    afterKeyword?_eq_some_iff.mpr rfl
  rw [Comment.read?]
  simp only [start, helped]

theorem read?_afterType {front : List Char} (before : ∀ c ∈ front, isBlank c = true)
    (body : List Char) :
    Comment.read? (front ++ ("TYPE ".toList ++ body)) = Comment.readType? body := by
  have start : trimLeft (front ++ ("TYPE ".toList ++ body)) = "TYPE ".toList ++ body :=
    List.dropWhile_append_of_pos before
  have unhelped : Comment.afterKeyword? "HELP" ("TYPE ".toList ++ body) = none := rfl
  have typed : Comment.afterKeyword? "TYPE" ("TYPE ".toList ++ body) = some body :=
    afterKeyword?_eq_some_iff.mpr rfl
  rw [Comment.read?]
  simp only [start, unhelped, typed, Option.bind_some]

/-- What follows the hash of a comment line is read exactly if it has one of the two forms. -/
theorem read?_eq_some_iff {text : List Char} {comment : Comment} :
    Comment.read? text = some comment ↔ Announces ('#' :: text) comment := by
  constructor
  · intro read
    have front : text = text.takeWhile isBlank ++ trimLeft text :=
      List.takeWhile_append_dropWhile.symm
    have before : ∀ c ∈ text.takeWhile isBlank, isBlank c = true :=
      fun c listed => List.mem_takeWhile_imp listed
    rw [Comment.read?] at read
    cases helped : Comment.afterKeyword? "HELP" (trimLeft text) with
    | some body =>
      simp only [helped] at read
      obtain ⟨gap, name, rest, between, rfl, word, stop, rfl⟩ := readHelp?_eq_some_iff.mp read
      rw [front, afterKeyword?_eq_some_iff.mp helped]
      exact .help before between word stop
    | none =>
      simp only [helped] at read
      obtain ⟨body, typed, read⟩ := Option.bind_eq_some_iff.mp read
      obtain ⟨gap, name, gap', kind, rest, between, rfl, word, apart, between', word', stop, rfl⟩ :=
        readType?_eq_some_iff.mp read
      rw [front, afterKeyword?_eq_some_iff.mp typed]
      exact .type before between word apart between' word' stop
  · intro form
    cases form with
    | help before between word stop =>
      rw [read?_afterHelp before]
      exact readHelp?_eq_some_iff.mpr ⟨_, _, _, between, rfl, word, stop, rfl⟩
    | type before between word apart between' word' stop =>
      rw [read?_afterType before]
      exact readType?_eq_some_iff.mpr
        ⟨_, _, _, _, _, between, rfl, word, apart, between', word', stop, rfl⟩

end CoreWatch.Exposition
