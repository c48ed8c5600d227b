import CoreWatch.Proofs.Files.Interruptions
import CoreWatch.Proofs.Fleet.Writing
import Mathlib.Data.List.Induction

set_option autoImplicit false

/-!
A fleet among the files where its scrape document is kept: passes one after another, each of which
may be unable to write. A clean fleet whose collectors have changed has its document in the file;
the labels that the document takes from the topology are those of the latest pass that wrote.
-/

namespace CoreWatch.Fleet

/-- What a pass meets apart from its topology. -/
structure Scene where
  launcher : Launcher
  now : Moment
  /-- The files once a document was to be written, and whether it was. -/
  put : FileTree → Scrape.Document → FileTree × Bool

/-- Documents take the place of the file at a path, where any of the calls can fail. -/
def Scene.Places (scene : Scene) (path : String) : Prop :=
  ∀ files document, ∃ fault,
    FileTree.Ends files (FileTree.replaceSteps path document.render) (scene.put files document).1
        fault ∧
      (scene.put files document).2 = fault.isNone

/-- Where nothing disturbs the calls a document is put in its place by the calls themselves. -/
def Scene.undisturbed (launcher : Launcher) (now : Moment) (path : String) : Scene where
  launcher := launcher
  now := now
  put files document :=
    let (files, fault) := files.replace path document.render
    (files, fault.isNone)

theorem undisturbed_places (launcher : Launcher) (now : Moment) (path : String) :
    (Scene.undisturbed launcher now path).Places path :=
  fun files _ => ⟨_, FileTree.ends_runSteps files _, rfl⟩

/-- Where the first call fails at once, nothing is written. -/
def Scene.barred (launcher : Launcher) (now : Moment) : Scene :=
  ⟨launcher, now, fun files _ => (files, false)⟩

theorem barred_places (launcher : Launcher) (now : Moment) (path : String) :
    (Scene.barred launcher now).Places path :=
  fun files _ => ⟨some _, .failed (.start files _) (.nothing _ files), rfl⟩

structure Visit extends Scene where
  topology : Topology

/-- A fleet with the files among which its scrape document is kept. -/
structure Publisher where
  fleet : Fleet
  files : FileTree

namespace Publisher

/-- A publisher that has not begun. -/
def begin (settings : Settings) (files : FileTree) : Publisher :=
  ⟨empty settings, files⟩

def canWrite (publisher : Publisher) (scene : Scene) (document : Scrape.Document) : Bool :=
  (scene.put publisher.files document).2

def reconcile (publisher : Publisher) (visit : Visit) : Reconciliation :=
  publisher.fleet.reconcile visit.launcher (publisher.canWrite visit.toScene) visit.now
    visit.topology

/-- A pass that puts a document that is due in its place. -/
def pass (publisher : Publisher) (visit : Visit) : Publisher :=
  let done := publisher.reconcile visit
  { fleet := done.fleet
    files :=
      match done.attempt with
      | none => publisher.files
      | some document => (visit.put publisher.files document).1 }

def run (publisher : Publisher) (visits : List Visit) : Publisher :=
  visits.foldl pass publisher

/-- What is in the file of the scrape document. -/
def text? (publisher : Publisher) : Option String :=
  publisher.files.contents?
    (FileTree.fileNames (publisher.fleet.settings.scrape.path.getD ""))

theorem run_concat (publisher : Publisher) (visits : List Visit) (visit : Visit) :
    publisher.run (visits ++ [visit]) = (publisher.run visits).pass visit := by
  rw [run, run, List.foldl_concat]

@[simp] theorem settings_pass (publisher : Publisher) (visit : Visit) :
    (publisher.pass visit).fleet.settings = publisher.fleet.settings :=
  settings_reconcile ..

@[simp] theorem topology_pass (publisher : Publisher) (visit : Visit) :
    (publisher.pass visit).fleet.topology = visit.topology :=
  topology_reconcile ..

end Publisher

/-! Passes -/

/-- A document that was written, and the topology of the pass that wrote it. -/
structure Publication where
  topology : Topology
  text : String

/-- A pass of a run, with the publisher that it finds. -/
structure Turn where
  before : Publisher
  visit : Visit

namespace Turn

def done (turn : Turn) : Reconciliation :=
  turn.before.reconcile turn.visit

def after (turn : Turn) : Publisher :=
  turn.before.pass turn.visit

/-- The pass as it is done to the fleet. -/
def command (turn : Turn) : Command :=
  .reconcile turn.visit.launcher (turn.before.canWrite turn.visit.toScene) turn.visit.now
    turn.visit.topology

/-- The topology of a pass that changes the set of collectors. -/
def change? (turn : Turn) : Option Topology :=
  if turn.done.outcome.isChange then some turn.visit.topology else none

/-- Whether a pass is to write the document and cannot. -/
def fails (turn : Turn) : Bool :=
  turn.done.attempt.any fun document => !turn.before.canWrite turn.visit.toScene document

/-- The document that a pass has written. -/
def publication? (turn : Turn) : Option Publication :=
  (turn.done.attempt.filter (turn.before.canWrite turn.visit.toScene)).map fun document =>
    ⟨turn.visit.topology, document.render⟩

/-- What a pass comes to: no document is due, or one is, which is written or not. -/
inductive Effect (turn : Turn) : Prop
  | rests (unchanged : turn.change? = none) (idle : turn.done.attempt = none)
      (unwritten : turn.publication? = none) (clean : turn.before.fleet.dirty = false)
      (still : turn.after.fleet.dirty = false) (files : turn.after.files = turn.before.files)
      (members : turn.after.fleet.members = turn.before.fleet.members)
  | writes (due : (turn.done.outcome.isChange || turn.before.fleet.dirty) = true)
      (attempt : turn.done.attempt = some turn.after.fleet.document)
      (written : turn.publication? =
        some ⟨turn.visit.topology, turn.after.fleet.document.render⟩)
      (clean : turn.after.fleet.dirty = false)
      (text : turn.after.text? = some turn.after.fleet.document.render)
  | fails (due : (turn.done.outcome.isChange || turn.before.fleet.dirty) = true)
      (attempt : turn.done.attempt = some turn.after.fleet.document)
      (failed : turn.fails = true) (unwritten : turn.publication? = none)
      (dirty : turn.after.fleet.dirty = true)

section

variable {turn : Turn} {path : String}
  (configured : turn.before.fleet.settings.scrape.path = some path)

include configured

theorem attempt_eq :
    turn.done.attempt =
      if turn.done.outcome.isChange || turn.before.fleet.dirty then
        some turn.after.fleet.document
      else none := by
  have attempt : turn.done.attempt = _ := attempt_reconcile ..
  rw [attempt, configured, Option.isSome_some, Bool.true_and]
  rfl

/-- After a pass a fleet is dirty exactly if the pass could not write. -/
theorem dirty_after : turn.after.fleet.dirty = turn.fails := by
  have dirty : turn.after.fleet.dirty = (turn.done.attempt.map fun document =>
      !turn.before.canWrite turn.visit.toScene document).getD turn.before.fleet.dirty :=
    dirty_reconcile ..
  rw [dirty, fails, attempt_eq configured]
  cases turn.done.outcome.isChange <;> cases turn.before.fleet.dirty <;> rfl

/-- A document that could be written is in its place. -/
theorem text_of_written (placed : turn.visit.Places path) {document : Scrape.Document}
    (attempt : turn.done.attempt = some document)
    (written : turn.before.canWrite turn.visit.toScene document = true) :
    turn.after.text? = some document.render := by
  obtain ⟨fault, ends, told⟩ := placed turn.before.files document
  rw [Publisher.canWrite, told, Option.isNone_iff_eq_none] at written
  subst written
  have files : turn.after.files = (turn.visit.put turn.before.files document).1 := by
    change (match turn.done.attempt with
      | none => turn.before.files
      | some document => (turn.visit.put turn.before.files document).1) = _
    rw [attempt]
  rw [Publisher.text?, files, after, Publisher.settings_pass, configured, Option.getD_some]
  cases ends with
  | done runs => exact FileTree.contents?_runs runs

theorem effect (placed : turn.visit.Places path) : turn.Effect := by
  have attempt := attempt_eq configured
  have dirty := dirty_after configured
  by_cases due : (turn.done.outcome.isChange || turn.before.fleet.dirty) = true
  · rw [if_pos due] at attempt
    cases written : turn.before.canWrite turn.visit.toScene turn.after.fleet.document with
    | true =>
      refine .writes due attempt ?_ ?_ (text_of_written configured placed attempt written)
      · simp only [publication?, attempt, Option.filter_some, written, ↓reduceIte, Option.map_some]
      · rw [dirty, fails, attempt, Option.any_some, written]
        rfl
    | false =>
      have failed : turn.fails = true := by
        rw [fails, attempt, Option.any_some, written]
        rfl
      refine .fails due attempt failed ?_ (dirty.trans failed)
      simp only [publication?, attempt, Option.filter_some, written, Bool.false_eq_true,
        ↓reduceIte, Option.map_none]
  · rw [if_neg due] at attempt
    obtain ⟨unchanged, clean⟩ : turn.done.outcome.isChange = false ∧
        turn.before.fleet.dirty = false := by
      simpa using due
    refine .rests ?_ attempt ?_ clean ?_ ?_ (members_of_unchanged unchanged)
    · rw [change?, unchanged, if_neg Bool.false_ne_true]
    · rw [publication?, attempt, Option.filter_none, Option.map_none]
    · rw [dirty, fails, attempt, Option.any_none]
    · change (match turn.done.attempt with
        | none => turn.before.files
        | some document => (turn.visit.put turn.before.files document).1) = _
      rw [attempt]

end

/-- The latest of what some passes tell. -/
def latest? {α : Type} (tell : Turn → Option α) (turns : List Turn) : Option α :=
  (turns.filterMap tell).getLast?

theorem latest?_concat {α : Type} (tell : Turn → Option α) (turns : List Turn) (turn : Turn) :
    latest? tell (turns ++ [turn]) = (tell turn).or (latest? tell turns) := by
  rw [latest?, List.filterMap_append, List.getLast?_append]
  cases told : tell turn <;> simp [told, latest?]

/-- As long as no pass reports a change, every pass leaves the collectors as they are. -/
theorem members_of_latest?_eq_none {turns : List Turn} (none : latest? change? turns = none) :
    ∀ turn ∈ turns, turn.after.fleet.members = turn.before.fleet.members := by
  rw [latest?, List.getLast?_eq_none_iff, List.filterMap_eq_nil_iff] at none
  intro turn listed
  refine members_of_unchanged (Bool.eq_false_iff.mpr fun change => ?_)
  have silent := none turn listed
  rw [change?, done, Publisher.reconcile, if_pos change] at silent
  cases silent

end Turn

/-! Runs -/

namespace Publisher

/-- The passes of a run. -/
def turns (publisher : Publisher) : List Visit → List Turn
  | [] => []
  | visit :: rest => ⟨publisher, visit⟩ :: (publisher.pass visit).turns rest

theorem turns_concat (publisher : Publisher) (visits : List Visit) (visit : Visit) :
    publisher.turns (visits ++ [visit]) =
      publisher.turns visits ++ [⟨publisher.run visits, visit⟩] := by
  induction visits generalizing publisher with
  | nil => rfl
  | cons first rest ih => exact congrArg (_ :: ·) (ih (publisher.pass first))

/-- The fleet of a publisher goes through the passes as through any other commands. -/
theorem fleet_run (publisher : Publisher) (visits : List Visit) :
    (publisher.run visits).fleet =
      publisher.fleet.run ((publisher.turns visits).map (·.command)) := by
  induction visits generalizing publisher with
  | nil => rfl
  | cons visit rest ih => exact ih (publisher.pass visit)

theorem reachable_run (settings : Settings) (files : FileTree) (visits : List Visit) :
    ((begin settings files).run visits).fleet.Reachable :=
  ⟨settings, _, fleet_run ..⟩

/-- How a publisher stands that has begun with some files and gone through some passes. -/
structure Standing (path : String) (files : FileTree) (turns : List Turn) (publisher : Publisher) :
    Prop where
  configured : publisher.fleet.settings.scrape.path = some path
  untouched : Turn.latest? Turn.change? turns = none →
    publisher.fleet.dirty = false ∧ publisher.files = files ∧
      Turn.latest? Turn.publication? turns = none
  /-- A clean fleet has nothing to make good. -/
  current : publisher.fleet.dirty = false → Turn.latest? Turn.change? turns ≠ none →
    Turn.latest? Turn.publication? turns ≠ none
  /-- What was written last is in the file, and lists the collectors as they are. -/
  shown : publisher.fleet.dirty = false → ∀ publication,
    Turn.latest? Turn.publication? turns = some publication →
      publisher.text? = some publication.text ∧
        publication.text = { publisher.fleet with topology := publication.topology }.document.render

theorem begin_standing {settings : Settings} {path : String}
    (configured : settings.scrape.path = some path) (files : FileTree) :
    Standing path files [] (begin settings files) where
  configured := configured
  untouched _ := ⟨rfl, rfl, rfl⟩
  current _ change := absurd rfl change
  shown _ _ written := by cases written

/-- Apart from its labels the document of a fleet hangs on its collectors and its settings. -/
theorem document_congr {fleet other : Fleet} (settings : other.settings = fleet.settings)
    (members : other.members = fleet.members) (topology : Topology) :
    { other with topology }.document = { fleet with topology }.document := by
  simp only [document, targets, specs, settings, members]

theorem Standing.turn {path : String} {files : FileTree} {turns : List Turn} {turn : Turn}
    (standing : Standing path files turns turn.before) (placed : turn.visit.Places path) :
    Standing path files (turns ++ [turn]) turn.after := by
  have settings : turn.after.fleet.settings = turn.before.fleet.settings := settings_pass ..
  have configured : turn.after.fleet.settings.scrape.path = some path :=
    settings ▸ standing.configured
  -- As long as nothing has changed the fleet is clean, and nothing is due.
  have idle (due : (turn.done.outcome.isChange || turn.before.fleet.dirty) = true)
      (none : Turn.latest? Turn.change? (turns ++ [turn]) = none) : False := by
    rw [Turn.latest?_concat, Option.or_eq_none_iff] at none
    rw [(standing.untouched none.2).1, Bool.or_false] at due
    rw [Turn.change?, if_pos due] at none
    cases none.1
  cases Turn.effect standing.configured placed with
  | rests unchanged _ unwritten clean still same members =>
    have changes : Turn.latest? Turn.change? (turns ++ [turn]) =
        Turn.latest? Turn.change? turns := by
      rw [Turn.latest?_concat, unchanged, Option.none_or]
    have publications : Turn.latest? Turn.publication? (turns ++ [turn]) =
        Turn.latest? Turn.publication? turns := by
      rw [Turn.latest?_concat, unwritten, Option.none_or]
    refine ⟨configured, ?_, ?_, ?_⟩
    · rw [changes, publications, same]
      exact fun none => ⟨still, (standing.untouched none).2⟩
    · rw [changes, publications]
      exact fun _ => standing.current clean
    · rw [publications]
      intro _ publication latest
      obtain ⟨text, document⟩ := standing.shown clean publication latest
      rw [text?] at text ⊢
      rw [same, settings]
      exact ⟨text, document.trans (by rw [document_congr settings members])⟩
  | writes due _ written clean text =>
    have latest : Turn.latest? Turn.publication? (turns ++ [turn]) =
        some ⟨turn.visit.topology, turn.after.fleet.document.render⟩ := by
      rw [Turn.latest?_concat, written, Option.some_or]
    refine ⟨configured, fun none => (idle due none).elim, fun _ _ => ?_, fun _ publication => ?_⟩
    · rw [latest]
      exact nofun
    · rw [latest]
      rintro ⟨rfl⟩
      have known : turn.after.fleet.topology = turn.visit.topology := topology_pass ..
      exact ⟨text, by simp only [← known]⟩
  | fails due _ _ _ dirty =>
    have unclean (clean : turn.after.fleet.dirty = false) : False :=
      Bool.false_ne_true (clean.symm.trans dirty)
    exact ⟨configured, fun none => (idle due none).elim, fun clean => (unclean clean).elim,
      fun clean => (unclean clean).elim⟩

theorem run_standing {settings : Settings} {path : String}
    (configured : settings.scrape.path = some path) (files : FileTree) {visits : List Visit}
    (placed : ∀ visit ∈ visits, visit.Places path) :
    Standing path files ((begin settings files).turns visits)
      ((begin settings files).run visits) := by
  induction visits using List.reverseRecOn with
  | nil => exact begin_standing configured files
  | append_singleton visits visit ih =>
    rw [List.forall_mem_append, List.forall_mem_singleton] at placed
    rw [turns_concat, run_concat]
    exact (ih placed.1).turn placed.2

end Publisher

end CoreWatch.Fleet
