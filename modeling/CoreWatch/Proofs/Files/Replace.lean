import CoreWatch.Files.Replace
import CoreWatch.Proofs.Maps

set_option autoImplicit false

/-!
Replacing a file: once all calls have succeeded the file holds the new contents. A call that only
changes files leaves every path leading where it did.
-/

namespace CoreWatch.FileTree

/-- All directories are still there. -/
def Keeps (tree after : FileTree) : Prop :=
  ∀ place, tree.node? place = some .directory → after.node? place = some .directory

theorem Keeps.trans {tree middle after : FileTree} (early : tree.Keeps middle)
    (late : middle.Keeps after) : tree.Keeps after :=
  fun place there => late place (early place there)

@[simp] theorem node?_nil (tree : FileTree) : tree.node? [] = some .directory := rfl

theorem node?_of_ne_nil (tree : FileTree) {place : List String} (inside : place ≠ []) :
    tree.node? place = tree.nodes[place]? := by
  rw [node?, if_neg (mt List.isEmpty_iff.mp inside)]

theorem node?_put (tree : FileTree) {place : List String} (inside : place ≠ []) (node : FileNode)
    (other : List String) :
    (tree.put place node).node? other = if place = other then some node else tree.node? other := by
  by_cases root : other = []
  · rw [root, node?_nil, node?_nil, if_neg inside]
  · rw [node?_of_ne_nil _ root, node?_of_ne_nil _ root, put, Maps.getElem?_insert]

theorem node?_erase (tree : FileTree) (place : List String) {other : List String}
    (inside : other ≠ []) :
    (FileTree.mk (tree.nodes.erase place)).node? other =
      if place = other then none else tree.node? other := by
  rw [node?_of_ne_nil _ inside, node?_of_ne_nil _ inside, Maps.getElem?_erase]

/-- A file that comes where no directory is hides none. -/
theorem put_keeps {tree : FileTree} {place : List String} (inside : place ≠ [])
    (free : tree.node? place ≠ some .directory) (node : FileNode) :
    tree.Keeps (tree.put place node) := by
  intro other there
  have apart : place ≠ other := by
    rintro rfl
    exact free there
  rw [node?_put tree inside, if_neg apart, there]

theorem enter_of_keeps {tree after : FileTree} (keeps : tree.Keeps after)
    {place names goal : List String} (entered : tree.enter place names = .ok goal) :
    after.enter place names = .ok goal := by
  induction names generalizing place with
  | nil => exact entered
  | cons name names ih =>
    rw [enter] at entered ⊢
    split at entered
    · rename_i up
      rw [if_pos up]
      exact ih entered
    · rename_i down
      rw [if_neg down]
      cases there : tree.node? (place ++ [name]) with
      | none => simp [there] at entered
      | some node =>
        cases node with
        | directory =>
          rw [keeps _ there]
          rw [there] at entered
          exact ih entered
        | file contents => simp [there] at entered

/-- The place of a last name is in the directory that the other names lead to. -/
theorem placeOf_eq_ok {tree : FileTree} {names place : List String} :
    tree.placeOf names = .ok place ↔
      ∃ last directory, names.getLast? = some last ∧
        tree.enter [] names.dropLast = .ok directory ∧ (last == "..") = false ∧
          isAllowed last = true ∧ place = directory ++ [last] := by
  unfold placeOf
  cases names.getLast? with
  | none => simp
  | some last =>
    cases entered : tree.enter [] names.dropLast with
    | error failure => simp [bind, Except.bind]
    | ok directory =>
      have same (goal : List String) :
          Except.ok (ε := FileFailure) goal = .ok place ↔ place = goal := by
        rw [Except.ok.injEq, eq_comm]
      cases back : last == ".." <;> cases allowed : isAllowed last <;>
        simp only [bind, Except.bind, back, allowed, same, Bool.false_eq_true, ↓reduceIte,
          reduceCtorEq, Option.some.injEq, Except.ok.injEq, exists_and_left, exists_eq_left',
          false_and, and_false, true_and]

theorem placeOf_of_keeps {tree after : FileTree} (keeps : tree.Keeps after)
    {names place : List String} (found : tree.placeOf names = .ok place) :
    after.placeOf names = .ok place := by
  obtain ⟨last, directory, atEnd, entered, rest⟩ := placeOf_eq_ok.mp found
  exact placeOf_eq_ok.mpr ⟨last, directory, atEnd, enter_of_keeps keeps entered, rest⟩

theorem placeOf_ne_nil {tree : FileTree} {names place : List String}
    (found : tree.placeOf names = .ok place) : place ≠ [] := by
  obtain ⟨last, directory, _, _, _, _, rfl⟩ := placeOf_eq_ok.mp found
  exact List.append_ne_nil_of_right_ne_nil _ (List.cons_ne_nil _ _)

/-- A file that was written is where its names lead. -/
theorem write_eq_ok {tree after : FileTree} {names : List String} {contents : String} :
    tree.write names contents = .ok after ↔
      ∃ place, tree.placeOf names = .ok place ∧ tree.node? place ≠ some .directory ∧
        after = tree.put place (.file contents) := by
  unfold write
  cases found : tree.placeOf names with
  | error failure => simp [bind, Except.bind]
  | ok place =>
    rcases there : tree.node? place with _ | (_ | old) <;>
      simp [bind, Except.bind, there, eq_comm]

/-- A file that was moved stands in the place of what had its name. -/
theorem move_eq_ok {tree after : FileTree} {source target : List String} :
    tree.move source target = .ok after ↔
      ∃ start goal contents, tree.placeOf source = .ok start ∧ tree.placeOf target = .ok goal ∧
        tree.node? start = some (.file contents) ∧ tree.node? goal ≠ some .directory ∧
          after = ⟨(tree.nodes.erase start).insert goal (.file contents)⟩ := by
  unfold move
  cases found : tree.placeOf source with
  | error failure => simp [bind, Except.bind]
  | ok start =>
    cases found' : tree.placeOf target with
    | error failure => simp [bind, Except.bind]
    | ok goal =>
      rcases there : tree.node? start with _ | (_ | contents) <;>
        rcases beneath : tree.node? goal with _ | (_ | old) <;>
          simp [bind, Except.bind, there, beneath, eq_comm]

theorem contents?_eq_some {tree : FileTree} {names : List String} {contents : String} :
    tree.contents? names = some contents ↔
      ∃ place, tree.placeOf names = .ok place ∧ tree.node? place = some (.file contents) := by
  unfold contents?
  cases found : tree.placeOf names with
  | error failure => simp [Except.toOption]
  | ok place =>
    rcases there : tree.node? place with _ | (_ | held) <;> simp [Except.toOption, there]

theorem keeps_write {tree after : FileTree} {names : List String} {contents : String}
    (written : tree.write names contents = .ok after) : tree.Keeps after := by
  obtain ⟨place, found, free, rfl⟩ := write_eq_ok.mp written
  exact put_keeps (placeOf_ne_nil found) free _

/-- Neither what goes nor what is replaced is a directory. -/
theorem keeps_move {tree after : FileTree} {source target : List String}
    (moved : tree.move source target = .ok after) : tree.Keeps after := by
  obtain ⟨start, goal, text, _, atGoal, there, free, rfl⟩ := move_eq_ok.mp moved
  have away : tree.Keeps ⟨tree.nodes.erase start⟩ := by
    intro other known
    by_cases root : other = []
    · rw [root, node?_nil]
    · have apart : start ≠ other := by
        rintro rfl
        rw [there] at known
        cases known
      rw [node?_erase tree start root, if_neg apart, known]
  have still : (FileTree.mk (tree.nodes.erase start)).node? goal ≠ some .directory := by
    rw [node?_erase tree start (placeOf_ne_nil atGoal)]
    split
    · exact nofun
    · exact free
  exact away.trans (put_keeps (placeOf_ne_nil atGoal) still (.file text))

theorem contents?_write {tree after : FileTree} {names : List String} {contents : String}
    (written : tree.write names contents = .ok after) : after.contents? names = some contents := by
  have keeps := keeps_write written
  obtain ⟨place, found, free, rfl⟩ := write_eq_ok.mp written
  refine contents?_eq_some.mpr ⟨place, placeOf_of_keeps keeps found, ?_⟩
  rw [node?_put tree (placeOf_ne_nil found), if_pos rfl]

theorem contents?_move {tree after : FileTree} {source target : List String} {contents : String}
    (moved : tree.move source target = .ok after) (held : tree.contents? source = some contents) :
    after.contents? target = some contents := by
  have keeps := keeps_move moved
  obtain ⟨start, goal, text, atStart, atGoal, there, free, rfl⟩ := move_eq_ok.mp moved
  obtain ⟨place, same, there'⟩ := contents?_eq_some.mp held
  obtain rfl := Except.ok.inj (atStart.symm.trans same)
  obtain rfl := FileNode.file.inj (Option.some.inj (there.symm.trans there'))
  refine contents?_eq_some.mpr ⟨goal, placeOf_of_keeps keeps atGoal, ?_⟩
  exact (node?_put _ (placeOf_ne_nil atGoal) _ goal).trans (if_pos rfl)

theorem run_write {tree after : FileTree} {names : List String} {contents : String} :
    (Step.write names contents).run tree = (after, true) ↔
      tree.write names contents = .ok after := by
  rw [Step.run]
  cases tree.write names contents <;> simp

theorem run_move {tree after : FileTree} {source target : List String} :
    (Step.move source target).run tree = (after, true) ↔ tree.move source target = .ok after := by
  rw [Step.run]
  cases tree.move source target <;> simp

/-- Some of the calls have been made, with success: the tree is this one, and these are left. -/
inductive Runs :
    FileTree → List (Step × ReplaceFault) → FileTree → List (Step × ReplaceFault) → Prop
  | start (tree : FileTree) (steps : List (Step × ReplaceFault)) : Runs tree steps tree steps
  | next {tree after now : FileTree} {step : Step} {fault : ReplaceFault}
      {steps left : List (Step × ReplaceFault)} (ran : step.run tree = (after, true))
      (later : Runs after steps now left) : Runs tree ((step, fault) :: steps) now left

/-- Once all calls have been made the file holds the new contents. -/
theorem contents?_runs {tree after : FileTree} {path contents : String}
    (runs : Runs tree (replaceSteps path contents) after []) :
    after.contents? (fileNames path) = some contents := by
  cases runs with
  | next _ runs =>
    cases runs with
    | next ran runs =>
      cases runs with
      | next ran' runs =>
        cases runs
        exact contents?_move (run_move.mp ran') (contents?_write (run_write.mp ran))

end CoreWatch.FileTree
