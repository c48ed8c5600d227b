import CoreWatch.Proofs.Files.Paths

set_option autoImplicit false

/-!
Replacing a file while calls fail or are stopped halfway, and what others can see of it meanwhile.
Every call but the last one spares the file, and the last one does all of its work in one step; so
the file is the old one until it is the new one. Only a path that is its own temporary path is
written in its place.
-/

namespace CoreWatch.FileTree

/-- The text of the file at a place. -/
def textAt? (tree : FileTree) (place : List String) : Option String :=
  match tree.node? place with
  | some (.file text) => some text
  | _ => none

theorem textAt?_put (tree : FileTree) {place other : List String} (inside : place ≠ [])
    (apart : place ≠ other) (node : FileNode) :
    (tree.put place node).textAt? other = tree.textAt? other := by
  rw [textAt?, node?_put tree inside, if_neg apart, textAt?]

/-- What is read of a file is what its place holds. -/
theorem contents?_of_placeOf {tree : FileTree} {names place : List String}
    (found : tree.placeOf names = .ok place) :
    tree.contents? names = tree.textAt? (leadsTo [] names) := by
  rw [← eq_leadsTo_of_placeOf found]
  unfold contents? textAt?
  rw [found]
  rfl

theorem textAt?_of_contents? {tree : FileTree} {names : List String} {text : String}
    (read : tree.contents? names = some text) : tree.textAt? (leadsTo [] names) = some text := by
  obtain ⟨place, found, _⟩ := contents?_eq_some.mp read
  rw [← contents?_of_placeOf found, read]

theorem makeDirectory_eq_ok {tree after : FileTree} {names : List String} :
    tree.makeDirectory names = .ok after ↔
      ∃ place, tree.placeOf names = .ok place ∧ tree.node? place = none ∧
        after = tree.put place .directory := by
  unfold makeDirectory
  cases found : tree.placeOf names with
  | error failure => simp [bind, Except.bind]
  | ok place => cases there : tree.node? place <;> simp [bind, Except.bind, there, eq_comm]

/-- A directory comes where nothing is, so all files stay. -/
theorem textAt?_makeDirectory {tree after : FileTree} {names : List String}
    (made : tree.makeDirectory names = .ok after) (place : List String) :
    after.textAt? place = tree.textAt? place := by
  obtain ⟨made', found, free, rfl⟩ := makeDirectory_eq_ok.mp made
  by_cases same : made' = place
  · rw [← same, textAt?, node?_put tree (placeOf_ne_nil found), if_pos rfl, textAt?, free]
  · exact textAt?_put tree (placeOf_ne_nil found) same .directory

theorem keeps_makeDirectory {tree after : FileTree} {names : List String}
    (made : tree.makeDirectory names = .ok after) : tree.Keeps after := by
  obtain ⟨place, found, free, rfl⟩ := makeDirectory_eq_ok.mp made
  refine put_keeps (placeOf_ne_nil found) ?_ .directory
  rw [free]
  exact nofun

/-! What comes of a call that does not succeed -/

/-- Some of the directories on a path have been made. -/
inductive Grows (path : List String) : FileTree → FileTree → Prop
  | same (tree : FileTree) : Grows path tree tree
  | more {tree middle after : FileTree} {front : List String} (above : front <+: path)
      (made : tree.makeDirectory front = .ok middle) (later : Grows path middle after) :
      Grows path tree after

theorem Grows.trans {path : List String} {tree middle after : FileTree}
    (early : Grows path tree middle) (late : Grows path middle after) : Grows path tree after := by
  induction early with
  | same tree => exact late
  | more above made _ ih => exact .more above made (ih late)

theorem Grows.once {path : List String} {tree after : FileTree}
    (made : tree.makeDirectory path = .ok after) : Grows path tree after :=
  .more (List.prefix_rfl) made (.same after)

theorem Grows.above {front path : List String} {tree after : FileTree} (above : front <+: path)
    (grown : Grows front tree after) : Grows path tree after := by
  induction grown with
  | same tree => exact .same tree
  | more above' made _ ih => exact .more (above'.trans above) made ih

theorem textAt?_grows {path : List String} {tree after : FileTree} (grown : Grows path tree after)
    (place : List String) : after.textAt? place = tree.textAt? place := by
  induction grown with
  | same tree => rfl
  | more _ made _ ih => rw [ih, textAt?_makeDirectory made]

theorem keeps_grows {path : List String} {tree after : FileTree} (grown : Grows path tree after) :
    tree.Keeps after := by
  induction grown with
  | same tree => exact fun _ there => there
  | more _ made _ ih => exact (keeps_makeDirectory made).trans ih

theorem grows_makeDirectories (tree : FileTree) (path : List String) :
    Grows path tree (tree.makeDirectories path).1 := by
  fun_induction makeDirectories tree path with
  | case1 path none => exact .same tree
  | case2 path some after made => exact .once made
  | case3 path some missing after failed ih =>
    rw [failed] at ih
    exact ih.above (List.dropLast_prefix path)
  | case4 path some missing middle made after made' ih =>
    rw [made] at ih
    exact (ih.above (List.dropLast_prefix path)).trans (.once made')
  | case5 path some missing middle made failure failed ih =>
    rw [made] at ih
    exact ih.above (List.dropLast_prefix path)
  | case6 path some failure failed other => exact .same tree

theorem grows_run {path : List String} {tree after : FileTree} {success : Bool}
    (ran : (Step.makeDirectories path).run tree = (after, success)) : Grows path tree after := by
  have grown := grows_makeDirectories tree path
  rw [Step.run] at ran
  rw [ran] at grown
  exact grown

/-- A text of which only the front was written; a character that was cut reads as U+FFFD. -/
def IsFront (contents part : String) : Prop :=
  ∃ front, front <+: contents.toList ∧
    (part.toList = front ∨ part.toList = front ++ ['\uFFFD'])

/--
What a call that fails or is stopped can leave behind: some of the directories, or the front of a
text. A file is moved in one step, or not at all.
-/
inductive Step.Leaves : Step → FileTree → FileTree → Prop
  | nothing (step : Step) (tree : FileTree) : Leaves step tree tree
  | directories {path : List String} {tree after : FileTree} (grown : Grows path tree after) :
      Leaves (.makeDirectories path) tree after
  | torn {path : List String} {contents part : String} {tree after : FileTree}
      (front : IsFront contents part) (written : tree.write path part = .ok after) :
      Leaves (.write path contents) tree after

/-- A call that fails by itself leaves one of these trees, too. -/
theorem leaves_of_run {step : Step} {tree after : FileTree}
    (failed : step.run tree = (after, false)) : step.Leaves tree after := by
  cases step with
  | makeDirectories path => exact .directories (grows_run failed)
  | write path contents =>
    rw [Step.run] at failed
    split at failed
    · cases failed
    · cases failed
      exact .nothing _ tree
  | move source target =>
    rw [Step.run] at failed
    split at failed
    · cases failed
    · cases failed
      exact .nothing _ tree

theorem keeps_leaves {step : Step} {tree after : FileTree} (leaves : step.Leaves tree after) :
    tree.Keeps after := by
  cases leaves with
  | nothing => exact fun _ there => there
  | directories grown => exact keeps_grows grown
  | torn _ written => exact keeps_write written

theorem keeps_run {step : Step} {tree after : FileTree} (ran : step.run tree = (after, true)) :
    tree.Keeps after := by
  cases step with
  | makeDirectories path => exact keeps_grows (grows_run ran)
  | write path contents => exact keeps_write (run_write.mp ran)
  | move source target => exact keeps_move (run_move.mp ran)

theorem Runs.keeps {tree now : FileTree} {steps left : List (Step × ReplaceFault)}
    (runs : Runs tree steps now left) : tree.Keeps now := by
  induction runs with
  | start tree steps => exact fun _ there => there
  | next ran _ ih => exact (keeps_run ran).trans ih

/-- A tree that others can see while calls are made, each of which can fail or be stopped. -/
inductive Seen (tree : FileTree) (steps : List (Step × ReplaceFault)) : FileTree → Prop
  | between {now : FileTree} {left : List (Step × ReplaceFault)} (runs : Runs tree steps now left) :
      Seen tree steps now
  | during {now moment : FileTree} {step : Step} {fault : ReplaceFault}
      {left : List (Step × ReplaceFault)} (runs : Runs tree steps now ((step, fault) :: left))
      (leaves : step.Leaves now moment) : Seen tree steps moment

/-- No call takes a directory away, so every path leads where it did. -/
theorem Seen.keeps {tree moment : FileTree} {steps : List (Step × ReplaceFault)}
    (seen : Seen tree steps moment) : tree.Keeps moment := by
  cases seen with
  | between runs => exact runs.keeps
  | during runs leaves => exact runs.keeps.trans (keeps_leaves leaves)

/-- A tree that calls leave at their end, with the fault of the one that failed. -/
inductive Ends (tree : FileTree) (steps : List (Step × ReplaceFault)) :
    FileTree → Option ReplaceFault → Prop
  | failed {now after : FileTree} {step : Step} {fault : ReplaceFault}
      {left : List (Step × ReplaceFault)} (runs : Runs tree steps now ((step, fault) :: left))
      (leaves : step.Leaves now after) : Ends tree steps after (some fault)
  | done {after : FileTree} (runs : Runs tree steps after []) : Ends tree steps after none

theorem Ends.later {tree middle after : FileTree} {step : Step} {fault : ReplaceFault}
    {steps : List (Step × ReplaceFault)} {found : Option ReplaceFault}
    (ran : step.run tree = (middle, true)) (ends : Ends middle steps after found) :
    Ends tree ((step, fault) :: steps) after found := by
  cases ends with
  | failed runs leaves => exact .failed (.next ran runs) leaves
  | done runs => exact .done (.next ran runs)

/-- Calls that nothing disturbs end in one of these ways. -/
theorem ends_runSteps (tree : FileTree) (steps : List (Step × ReplaceFault)) :
    Ends tree steps (tree.runSteps steps).1 (tree.runSteps steps).2 := by
  fun_induction runSteps tree steps with
  | case1 tree => exact .done (.start tree [])
  | case2 tree step fault steps after ran ih => exact ih.later ran
  | case3 tree step fault steps after failed =>
    exact .failed (.start tree _) (leaves_of_run failed)

/-! The file at a place while calls are made -/

/-- A call that succeeds leaves the file at a place as it was. -/
def Step.Spares (place : List String) (step : Step) : Prop :=
  ∀ tree after, step.run tree = (after, true) → after.textAt? place = tree.textAt? place

/-- A call that does not succeed leaves the file at a place as it was. -/
def Step.FailsClean (place : List String) (step : Step) : Prop :=
  ∀ tree after, step.Leaves tree after → after.textAt? place = tree.textAt? place

theorem spares_makeDirectories (place path : List String) :
    (Step.makeDirectories path).Spares place :=
  fun _ _ ran => textAt?_grows (grows_run ran) place

theorem failsClean_makeDirectories (place path : List String) :
    (Step.makeDirectories path).FailsClean place := by
  intro tree after leaves
  cases leaves with
  | nothing => rfl
  | directories grown => exact textAt?_grows grown place

/-- A file that is written nowhere at a place spares it, however much of it is written. -/
theorem textAt?_write {tree after : FileTree} {place names : List String} {part : String}
    (apart : ∀ tree : FileTree, tree.placeOf names ≠ .ok place)
    (written : tree.write names part = .ok after) : after.textAt? place = tree.textAt? place := by
  obtain ⟨beside, found, _, rfl⟩ := write_eq_ok.mp written
  refine textAt?_put tree (placeOf_ne_nil found) ?_ (.file part)
  rintro rfl
  exact apart tree found

theorem spares_write {place names : List String}
    (apart : ∀ tree : FileTree, tree.placeOf names ≠ .ok place) (contents : String) :
    (Step.write names contents).Spares place :=
  fun _ _ ran => textAt?_write apart (run_write.mp ran)

theorem failsClean_write {place names : List String}
    (apart : ∀ tree : FileTree, tree.placeOf names ≠ .ok place) (contents : String) :
    (Step.write names contents).FailsClean place := by
  intro tree after leaves
  cases leaves with
  | nothing => rfl
  | torn _ written => exact textAt?_write apart written

theorem failsClean_move (place source target : List String) :
    (Step.move source target).FailsClean place := by
  intro tree after leaves
  cases leaves
  rfl

theorem Runs.suffix {tree now : FileTree} {steps left : List (Step × ReplaceFault)}
    (runs : Runs tree steps now left) : left <:+ steps := by
  induction runs with
  | start tree steps => exact List.suffix_rfl
  | next _ _ ih => exact ih.trans (List.suffix_cons _ _)

/-- As long as the last call is still to be made a place that the others spare is as it was. -/
theorem textAt?_runs {place : List String} {tree now : FileTree}
    {steps left : List (Step × ReplaceFault)} (runs : Runs tree steps now left)
    (spared : ∀ entry ∈ steps.dropLast, entry.1.Spares place) (more : left ≠ []) :
    now.textAt? place = tree.textAt? place := by
  induction runs with
  | start tree steps => rfl
  | @next tree after now step fault steps left ran later ih =>
    have some : steps ≠ [] := by
      rintro rfl
      exact more (List.suffix_nil.mp later.suffix)
    rw [List.dropLast_cons_of_ne_nil some] at spared
    rw [ih (fun entry listed => spared entry (List.mem_cons_of_mem _ listed)) more]
    exact spared (step, fault) List.mem_cons_self tree after ran

/-- Only the success of the last call decides about a place that the others spare. -/
theorem textAt?_seen {place : List String} {tree moment : FileTree}
    {steps : List (Step × ReplaceFault)} (seen : Seen tree steps moment)
    (spared : ∀ entry ∈ steps.dropLast, entry.1.Spares place)
    (clean : ∀ entry ∈ steps, entry.1.FailsClean place) :
    moment.textAt? place = tree.textAt? place ∨ Runs tree steps moment [] := by
  cases seen with
  | @between now left runs =>
    by_cases last : left = []
    · rw [last] at runs
      exact Or.inr runs
    · exact Or.inl (textAt?_runs runs spared last)
  | during runs leaves =>
    have old := textAt?_runs runs spared (List.cons_ne_nil _ _)
    have same := clean _ (runs.suffix.subset List.mem_cons_self) _ _ leaves
    exact Or.inl (same.trans old)

theorem textAt?_failed {place : List String} {tree after : FileTree} {fault : ReplaceFault}
    {steps : List (Step × ReplaceFault)} (ends : Ends tree steps after (some fault))
    (spared : ∀ entry ∈ steps.dropLast, entry.1.Spares place)
    (clean : ∀ entry ∈ steps, entry.1.FailsClean place) :
    after.textAt? place = tree.textAt? place := by
  cases ends with
  | failed runs leaves =>
    have old := textAt?_runs runs spared (List.cons_ne_nil _ _)
    have same := clean _ (runs.suffix.subset List.mem_cons_self) _ _ leaves
    exact same.trans old

/-! Replacing a file -/

/-- A file can only take a name that is not that of a directory by its slash. -/
theorem fileNames_of_placeOf {tree : FileTree} {path : String} {place : List String}
    (found : tree.placeOf (fileNames path) = .ok place) : fileNames path = namesOf path := by
  unfold fileNames at found ⊢
  split at found
  · rename_i whole
    rw [if_pos whole]
  · obtain ⟨last, directory, atEnd, _, _, allowed, _⟩ := placeOf_eq_ok.mp found
    rw [List.getLast?_concat, Option.some.injEq] at atEnd
    rw [← atEnd] at allowed
    cases allowed

theorem textAt?_replaced {tree after : FileTree} {path contents : String}
    (runs : Runs tree (replaceSteps path contents) after []) :
    after.textAt? (home path) = some contents := by
  have read := contents?_runs runs
  obtain ⟨place, found, _⟩ := contents?_eq_some.mp read
  rw [fileNames_of_placeOf found] at read
  exact textAt?_of_contents? read

/-- A path that is its own temporary path shows any front of the text, also after a failure. -/
theorem torn_of_ownTemporary {path : String} (own : isOwnTemporary path = true)
    {tree made torn : FileTree} {contents part : String} (front : IsFront contents part)
    (ready : tree.makeDirectories (namesOf (parentPath path)) = (made, true))
    (written : made.write (namesOf path) part = .ok torn) :
    torn.textAt? (home path) = some part ∧ Seen tree (replaceSteps path contents) torn ∧
      Ends tree (replaceSteps path contents) torn
        (some ⟨.writeTemporary, temporaryPath path⟩) := by
  have leaves : (Step.write (namesOf (temporaryPath path)) contents).Leaves made torn := by
    rw [namesOf_ownTemporary own]
    exact .torn front written
  have runs : Runs tree (replaceSteps path contents) made (replaceSteps path contents).tail :=
    .next ready (.start made _)
  exact ⟨textAt?_of_contents? (contents?_write written), .during runs leaves,
    .failed runs leaves⟩

theorem spares_replaceSteps {path : String} (other : isOwnTemporary path = false)
    (contents : String) :
    ∀ entry ∈ (replaceSteps path contents).dropLast, entry.1.Spares (home path) := by
  intro entry listed
  simp only [replaceSteps, List.dropLast_cons_cons, List.dropLast_singleton, List.mem_cons,
    List.not_mem_nil, or_false] at listed
  rcases listed with rfl | rfl
  · exact spares_makeDirectories _ _
  · exact spares_write (fun _ found => temporary_apart other found rfl) contents

theorem failsClean_replaceSteps {path : String} (other : isOwnTemporary path = false)
    (contents : String) :
    ∀ entry ∈ replaceSteps path contents, entry.1.FailsClean (home path) := by
  intro entry listed
  simp only [replaceSteps, List.mem_cons, List.not_mem_nil, or_false] at listed
  rcases listed with rfl | rfl | rfl
  · exact failsClean_makeDirectories _ _
  · exact failsClean_write (fun _ found => temporary_apart other found rfl) contents
  · exact failsClean_move _ _ _

theorem textAt?_seen_replace {path : String} (other : isOwnTemporary path = false)
    {tree moment : FileTree} {contents : String}
    (seen : Seen tree (replaceSteps path contents) moment) :
    moment.textAt? (home path) = tree.textAt? (home path) ∨
      moment.textAt? (home path) = some contents :=
  (textAt?_seen seen (spares_replaceSteps other contents)
    (failsClean_replaceSteps other contents)).imp_right textAt?_replaced

/-- A file that can be read at first can be read at every moment, with its old text or the new. -/
theorem contents?_seen_replace {path : String} (other : isOwnTemporary path = false)
    {tree moment : FileTree} {old contents : String}
    (read : tree.contents? (namesOf path) = some old)
    (seen : Seen tree (replaceSteps path contents) moment) :
    moment.contents? (namesOf path) = some old ∨
      moment.contents? (namesOf path) = some contents := by
  obtain ⟨place, found, _⟩ := contents?_eq_some.mp read
  rw [contents?_of_placeOf (placeOf_of_keeps seen.keeps found), ← textAt?_of_contents? read]
  exact textAt?_seen_replace other seen

/--
The file of a path that is not its own temporary path holds all of its old text or all of the new
one at every moment, whatever call fails or is stopped: the old one after a failure, and the new one
after success. Whoever can read the file at first can read it at every moment.
-/
theorem replace_whole {path : String} (other : isOwnTemporary path = false) (tree : FileTree)
    (contents : String) :
    (∀ moment, Seen tree (replaceSteps path contents) moment →
      moment.textAt? (home path) = tree.textAt? (home path) ∨
        moment.textAt? (home path) = some contents) ∧
    (∀ moment old, Seen tree (replaceSteps path contents) moment →
      tree.contents? (namesOf path) = some old →
        moment.contents? (namesOf path) = some old ∨
          moment.contents? (namesOf path) = some contents) ∧
    (∀ after fault, Ends tree (replaceSteps path contents) after (some fault) →
      after.textAt? (home path) = tree.textAt? (home path)) ∧
    (∀ after, Ends tree (replaceSteps path contents) after none →
      after.textAt? (home path) = some contents) ∧
    Ends tree (replaceSteps path contents) (tree.replace path contents).1
      (tree.replace path contents).2 := by
  refine ⟨fun moment seen => textAt?_seen_replace other seen,
    fun moment old seen read => contents?_seen_replace other read seen, fun after fault ends => ?_,
    fun after ends => ?_, ends_runSteps tree _⟩
  · exact textAt?_failed ends (spares_replaceSteps other contents)
      (failsClean_replaceSteps other contents)
  · cases ends with
    | done runs => exact textAt?_replaced runs

theorem replace_whole_scrape :
    ∃ tree : FileTree, isOwnTemporary "etc/scrape.yml" = false ∧
      (∀ moment, Seen tree (replaceSteps "etc/scrape.yml" "new") moment →
        moment.textAt? ["etc", "scrape.yml"] = some "old" ∨
          moment.textAt? ["etc", "scrape.yml"] = some "new") ∧
      (tree.replace "etc/scrape.yml" "new").2 = none ∧
      (tree.replace "etc/scrape.yml" "new").1.textAt? ["etc", "scrape.yml"] = some "new" := by
  have other : isOwnTemporary "etc/scrape.yml" = false := by decide
  have place : home "etc/scrape.yml" = ["etc", "scrape.yml"] := by decide
  have old : (empty.create "etc/scrape.yml" "old").textAt? ["etc", "scrape.yml"] = some "old" := by
    decide +kernel
  have finished : ((empty.create "etc/scrape.yml" "old").replace "etc/scrape.yml" "new").2 =
      none := by
    decide +kernel
  obtain ⟨whole, _, _, done, ends⟩ :=
    replace_whole other (empty.create "etc/scrape.yml" "old") "new"
  rw [place, old] at whole
  rw [place] at done
  rw [finished] at ends
  exact ⟨_, other, whole, finished, done _ ends⟩

/--
The file `scrape.tmp` is written in its place: others can see the first two letters of the new text,
which stay after a failure. With a slash behind it, it is not moved, but holds the new text.
-/
theorem temporary_torn :
    ∃ tree : FileTree, tree.textAt? (home "scrape.tmp") = some "old" ∧
      (∃ moment, Seen tree (replaceSteps "scrape.tmp" "new") moment ∧
        moment.textAt? (home "scrape.tmp") = some "ne") ∧
      (∃ after fault, Ends tree (replaceSteps "scrape.tmp" "new") after (some fault) ∧
        after.textAt? (home "scrape.tmp") = some "ne") ∧
      (tree.replace "scrape.tmp/" "new").2 = some ⟨.takeName, "scrape.tmp/"⟩ ∧
      (tree.replace "scrape.tmp/" "new").1.textAt? (home "scrape.tmp/") = some "new" := by
  have own : isOwnTemporary "scrape.tmp" = true := by decide
  have ready : (empty.create "scrape.tmp" "old").makeDirectories
      (namesOf (parentPath "scrape.tmp")) = (empty.create "scrape.tmp" "old", true) := by
    have here : namesOf (parentPath "scrape.tmp") = [] := by decide
    rw [here, makeDirectories, dif_pos List.length_nil]
  have written : (empty.create "scrape.tmp" "old").write (namesOf "scrape.tmp") "ne" =
      .ok ((empty.create "scrape.tmp" "old").put ["scrape.tmp"] (.file "ne")) :=
    write_eq_ok.mpr ⟨["scrape.tmp"], by decide, by decide +kernel, rfl⟩
  have front : IsFront "new" "ne" := ⟨['n', 'e'], by decide, Or.inl rfl⟩
  obtain ⟨text, seen, ends⟩ := torn_of_ownTemporary own front ready written
  exact ⟨_, by decide +kernel, ⟨_, seen, text⟩, ⟨_, _, ends, text⟩, by decide +kernel,
    by decide +kernel⟩

end CoreWatch.FileTree
