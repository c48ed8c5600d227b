import CoreWatch.Text.Bytes
import CoreWatch.Topology.Basic

set_option autoImplicit false

namespace CoreWatch.Topology

inductive FileFault
  | unreadable
  | invalid (problem : DocumentProblem)
deriving DecidableEq, Repr

def FileFault.message (path : String) : FileFault → String
  | .unreadable => "Failed to read topology file " ++ path
  | .invalid _ => "Invalid topology file " ++ path

private def readComponents : Draft → Except DocumentProblem (List Component) :=
  Draft.asList Component.ofDraft

/-- Takes in one member of the file; only `components` counts, and only once. -/
private def readMember (known : Option (List Component)) (key : Option String) (value : Draft) :
    Except DocumentProblem (Option (List Component)) :=
  match key with
  | none => .error .malformed
  | some "components" =>
    if known.isSome then .error .mismatch else (readComponents value).map some
  | some _ => value.skipped.map fun _ => known

/-- The components of a file; in the place of the record its only value may stand in a list. -/
def componentsOfDraft (draft : Draft) : Except DocumentProblem (List Component) :=
  match draft with
  | .record members closed => do
    let known ← members.foldlM (fun known member => readMember known member.1 member.2) none
    if !closed then .error .malformed
    else
      match known with
      | some components => .ok components
      | none => .error .mismatch
  | .list items closed =>
    match items with
    | [] => .error (if closed then .mismatch else .malformed)
    | item :: more => do
      let components ← readComponents item
      if closed && more.isEmpty then .ok components else .error .malformed
  | _ => .error draft.rejection

def componentsOfText (text : List Char) : Except DocumentProblem (List Component) := do
  let (draft, atEnd) := Draft.ofText text
  let components ← componentsOfDraft draft
  if atEnd then .ok components else .error .malformed

def ofFile (content : Option (List UInt8)) : Except FileFault Topology :=
  match content.bind Text.decode? with
  | none => .error .unreadable
  | some text =>
    match componentsOfText text with
    | .ok components => .ok (ofComponents components)
    | .error problem => .error (.invalid problem)

end CoreWatch.Topology
