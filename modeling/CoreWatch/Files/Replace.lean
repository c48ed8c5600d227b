import CoreWatch.Files.Tree

set_option autoImplicit false

namespace CoreWatch.FileTree

inductive Step
  | makeDirectories (path : List String)
  | write (path : List String) (contents : String)
  | move (source target : List String)
deriving DecidableEq, Repr

/-- The tree after a call, and whether it succeeded. -/
def Step.run (tree : FileTree) : Step → FileTree × Bool
  | makeDirectories path => tree.makeDirectories path
  | write path contents =>
    match tree.write path contents with
    | .ok tree => (tree, true)
    | .error _ => (tree, false)
  | move source target =>
    match tree.move source target with
    | .ok tree => (tree, true)
    | .error _ => (tree, false)

inductive Purpose
  | makeDirectory
  | writeTemporary
  | takeName
deriving DecidableEq, Repr

structure ReplaceFault where
  purpose : Purpose
  path : String
deriving DecidableEq, Repr

def ReplaceFault.message (fault : ReplaceFault) : String :=
  match fault.purpose with
  | .makeDirectory => "Failed to create " ++ fault.path
  | .writeTemporary => "Failed to write " ++ fault.path
  | .takeName => "Failed to move scrape config into " ++ fault.path

/-- A name without its extension; a dot in front does not start one. -/
def stem (name : List Char) : List Char :=
  let before := (name.reverse.dropWhile (· != '.')).drop 1
  if before.isEmpty then name else before.reverse

/-- A path read from its end, from its last name on. -/
private def fromLastName : List Char → List Char
  | '/' :: rest => fromLastName rest
  | '.' :: '/' :: rest => fromLastName rest
  | path => path

private def trimEnd (path : List Char) : List Char :=
  (fromLastName path.reverse).reverse

def splitName (path : List Char) : List Char × List Char :=
  let path := trimEnd path
  let name := (path.reverse.takeWhile (· != '/')).reverse
  (path.take (path.length - name.length), name)

theorem namesOf_slash (front back : List Char) :
    namesOf (String.ofList (front ++ '/' :: back)) =
      namesOf (String.ofList front) ++ namesOf (String.ofList back) := by
  simp only [namesOf, String.toList_ofList, Text.splitOn_append, List.map_append,
    List.filter_append]

private theorem namesOf_fromLastName (path : List Char) :
    namesOf (String.ofList (fromLastName path).reverse) = namesOf (String.ofList path.reverse) := by
  fun_induction fromLastName path with
  | case1 rest ih => rw [ih, List.reverse_cons, namesOf_slash]; exact (List.append_nil _).symm
  | case2 rest ih =>
    rw [ih, List.reverse_cons, List.reverse_cons, List.append_assoc, List.singleton_append,
      namesOf_slash]
    exact (List.append_nil _).symm
  | case3 => rfl

private theorem splitName_eq (path : List Char) :
    splitName path = (((trimEnd path).reverse.dropWhile (· != '/')).reverse,
      ((trimEnd path).reverse.takeWhile (· != '/')).reverse) := by
  have whole := List.takeWhile_append_dropWhile (p := (· != '/')) (l := (trimEnd path).reverse)
  rw [← List.reverse_inj, List.reverse_reverse, List.reverse_append] at whole
  have length := congrArg List.length whole
  have front := (congrArg (List.take _) whole).symm.trans List.take_left
  rw [List.length_append] at length
  unfold splitName
  simp only [Prod.mk.injEq, and_true]
  rw [← length, Nat.add_sub_cancel, front]

/-- What leads to the last name is nothing or ends in a slash, and the name has none. -/
theorem splitName_slash (path : List Char) :
    ((splitName path).1 = [] ∨ ∃ front, (splitName path).1 = front ++ ['/']) ∧
      '/' ∉ (splitName path).2 := by
  rw [splitName_eq]
  constructor
  · have stop := List.head?_dropWhile_not (· != '/') (trimEnd path).reverse
    cases behind : (trimEnd path).reverse.dropWhile (· != '/') with
    | nil => exact Or.inl rfl
    | cons c front =>
      rw [behind] at stop
      have slash : c = '/' := by simpa using stop
      rw [slash, List.reverse_cons]
      exact Or.inr ⟨front.reverse, rfl⟩
  · intro listed
    have other := List.all_eq_true.mp List.all_takeWhile '/' (List.mem_reverse.mp listed)
    exact absurd rfl (bne_iff_ne.mp other)

private theorem fromLastName_start (path : List Char) :
    (∀ rest, fromLastName path ≠ '/' :: rest) ∧ ∀ rest, fromLastName path ≠ '.' :: '/' :: rest := by
  fun_induction fromLastName path with
  | case1 rest ih => exact ih
  | case2 rest ih => exact ih
  | case3 path slash dot => exact ⟨slash, dot⟩

theorem splitName_blank {path : List Char}
    (blank : (splitName path).2 = [] ∨ (splitName path).2 = ['.']) : (splitName path).1 = [] := by
  have start := fromLastName_start path.reverse
  have whole := List.takeWhile_append_dropWhile (p := (· != '/')) (l := fromLastName path.reverse)
  have stop := List.head?_dropWhile_not (· != '/') (fromLastName path.reverse)
  rw [splitName_eq, trimEnd, List.reverse_reverse] at blank ⊢
  simp only [List.reverse_eq_iff, List.reverse_cons, List.reverse_nil,
    List.nil_append] at blank ⊢
  cases behind : (fromLastName path.reverse).dropWhile (· != '/') with
  | nil => rfl
  | cons c front =>
    rw [behind] at stop whole
    obtain rfl : c = '/' := by simpa using stop
    rcases blank with none | dot
    · rw [none, List.nil_append] at whole
      exact absurd whole.symm (start.1 front)
    · rw [dot, List.singleton_append] at whole
      exact absurd whole.symm (start.2 front)

theorem namesOf_append {start : List Char} (slash : start = [] ∨ ∃ front, start = front ++ ['/'])
    (name : List Char) :
    namesOf (String.ofList (start ++ name)) =
      namesOf (String.ofList start) ++ namesOf (String.ofList name) := by
  rcases slash with rfl | ⟨front, rfl⟩
  · rfl
  · have alone := namesOf_slash front []
    have none : namesOf (String.ofList []) = [] := rfl
    rw [List.append_assoc, List.singleton_append, namesOf_slash, alone, none, List.append_nil]

theorem namesOf_splitName (path : String) :
    namesOf path = namesOf (String.ofList (splitName path.toList).1) ++
      namesOf (String.ofList (splitName path.toList).2) := by
  have trimmed : namesOf (String.ofList (trimEnd path.toList)) = namesOf path := by
    rw [trimEnd, namesOf_fromLastName, List.reverse_reverse, String.ofList_toList]
  rw [← namesOf_append (splitName_slash path.toList).1, ← trimmed, splitName_eq,
    ← List.reverse_append, List.takeWhile_append_dropWhile, List.reverse_reverse]

def parentPath (path : String) : String :=
  String.ofList (trimEnd (splitName path.toList).1)

/-- The names of the path of a file. A path that ends as one of a directory gets an empty name. -/
def fileNames (path : String) : List String :=
  if trimEnd path.toList = path.toList then namesOf path else namesOf path ++ [""]

/-- Whether a last name stands for a directory that is known otherwise. -/
def isDotted (name : List Char) : Bool :=
  name = [] || name = ['.'] || name = ['.', '.']

def temporaryPath (path : String) : String :=
  let (start, name) := splitName path.toList
  if isDotted name then path else String.ofList (start ++ stem name ++ ".tmp".toList)

/-- The calls that replace a file, each with the fault of its failure. -/
def replaceSteps (path contents : String) : List (Step × ReplaceFault) :=
  let temporary := temporaryPath path
  [(.makeDirectories (namesOf (parentPath path)), ⟨.makeDirectory, parentPath path⟩),
    (.write (namesOf temporary) contents, ⟨.writeTemporary, temporary⟩),
    (.move (namesOf temporary) (fileNames path), ⟨.takeName, path⟩)]

def runSteps (tree : FileTree) : List (Step × ReplaceFault) → FileTree × Option ReplaceFault
  | [] => (tree, none)
  | (step, fault) :: steps =>
    match step.run tree with
    | (tree, true) => tree.runSteps steps
    | (tree, false) => (tree, some fault)

def replace (tree : FileTree) (path contents : String) : FileTree × Option ReplaceFault :=
  tree.runSteps (replaceSteps path contents)

end CoreWatch.FileTree
