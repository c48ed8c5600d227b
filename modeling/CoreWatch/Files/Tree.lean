import CoreWatch.Text.Blank
import CoreWatch.Text.Bytes
import Std.Data.ExtTreeMap

set_option autoImplicit false

namespace CoreWatch

inductive FileNode
  | directory
  | file (contents : String)
deriving DecidableEq, Repr

/-- What is below the root directory, by the names that lead to it. -/
structure FileTree where
  nodes : Std.ExtTreeMap (List String) FileNode

inductive FileFailure
  /-- A directory on the way does not exist. -/
  | missing
  /-- Something on the way, or at its end, is not of the kind that is needed. -/
  | wrongKind
  | alreadyThere
  | badName
deriving DecidableEq, Repr

namespace FileTree

def empty : FileTree :=
  ⟨∅⟩

/-- The names of a path. A single dot names the directory where it stands and is left out. -/
def namesOf (path : String) : List String :=
  ((Text.splitOn '/' path.toList).map String.ofList).filter fun name => name != "" && name != "."

def node? (tree : FileTree) (place : List String) : Option FileNode :=
  if place.isEmpty then some .directory else tree.nodes[place]?

/-- The place that names lead to, each of them through a directory; two dots lead back. -/
def enter (tree : FileTree) : List String → List String → Except FileFailure (List String)
  | place, [] => .ok place
  | place, name :: names =>
    if name == ".." then tree.enter place.dropLast names
    else
      match tree.node? (place ++ [name]) with
      | some .directory => tree.enter (place ++ [name]) names
      | some (.file _) => .error .wrongKind
      | none => .error .missing

def isDirectory (tree : FileTree) (names : List String) : Bool :=
  (tree.enter [] names).toBool

def isAllowed (name : String) : Bool :=
  name != "" && !name.toList.contains '\x00' && Text.byteLength name.toList ≤ 255

/-- The place of the last name, in a directory that must be there. -/
def placeOf (tree : FileTree) (names : List String) : Except FileFailure (List String) := do
  match names.getLast? with
  | none => .error .wrongKind
  | some last =>
    let directory ← tree.enter [] names.dropLast
    if last == ".." then .error .wrongKind
    else if isAllowed last then .ok (directory ++ [last])
    else .error .badName

def put (tree : FileTree) (place : List String) (node : FileNode) : FileTree :=
  ⟨tree.nodes.insert place node⟩

def makeDirectory (tree : FileTree) (names : List String) : Except FileFailure FileTree := do
  let place ← tree.placeOf names
  match tree.node? place with
  | some _ => .error .alreadyThere
  | none => .ok (tree.put place .directory)

/-- Makes a directory and those above it; whether the directory is there afterwards. -/
def makeDirectories (tree : FileTree) (names : List String) : FileTree × Bool :=
  if _h : names.length = 0 then (tree, true)
  else
    match tree.makeDirectory names with
    | .ok tree => (tree, true)
    | .error .missing =>
      match tree.makeDirectories names.dropLast with
      | (tree, false) => (tree, false)
      | (tree, true) =>
        match tree.makeDirectory names with
        | .ok tree => (tree, true)
        | .error _ => (tree, tree.isDirectory names)
    | .error _ => (tree, tree.isDirectory names)
termination_by names.length
decreasing_by
  simp only [List.length_dropLast]
  omega

def write (tree : FileTree) (names : List String) (contents : String) :
    Except FileFailure FileTree := do
  let place ← tree.placeOf names
  match tree.node? place with
  | some .directory => .error .wrongKind
  | _ => .ok (tree.put place (.file contents))

/-- Puts a file at a path, and makes the directories above it; nothing where this fails. -/
def create (tree : FileTree) (path contents : String) : FileTree :=
  let names := namesOf path
  ((tree.makeDirectories names.dropLast).1.write names contents).toOption.getD tree

/-- Gives a file another name, in the place of a file that had it. -/
def move (tree : FileTree) (source target : List String) : Except FileFailure FileTree := do
  let start ← tree.placeOf source
  let goal ← tree.placeOf target
  match tree.node? start, tree.node? goal with
  | some (.file _), some .directory => .error .wrongKind
  | some (.file contents), _ => .ok ⟨(tree.nodes.erase start).insert goal (.file contents)⟩
  | some .directory, _ => .error .wrongKind
  | none, _ => .error .missing

def contents? (tree : FileTree) (names : List String) : Option String :=
  match (tree.placeOf names).toOption.bind tree.node? with
  | some (.file contents) => some contents
  | _ => none

def remove (tree : FileTree) (names : List String) : FileTree :=
  match tree.placeOf names with
  | .ok place =>
    match tree.node? place with
    | some (.file _) => ⟨tree.nodes.erase place⟩
    | _ => tree
  | .error _ => tree

/-- All paths with the text of each file, and nothing for a directory. -/
def toList (tree : FileTree) : List (String × Option String) :=
  tree.nodes.toList.map fun (place, node) =>
    (String.intercalate "/" place, match node with
      | .directory => none
      | .file contents => some contents)

end FileTree
end CoreWatch
