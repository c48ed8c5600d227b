import CoreWatch.Proofs.Fleet.Publisher
import CoreWatch.Proofs.Scrape.Jobs
import Mathlib.Data.List.Forall2

set_option autoImplicit false

/-!
The scrape document when it cannot always be written. A pass that cannot write it leaves the fleet
dirty, and a dirty fleet has its document written by the next pass that can. So once its collectors
have changed, the file of a clean fleet lists the collectors as they are.
-/

namespace CoreWatch.Fleet

/--
A text in which a reader finds one job for each collector, in ascending order of components, and
then those of the sampler and the prober; no two jobs have one name.
-/
structure ListedBy (fleet : Fleet) (text : String) : Prop where
  jobs : ∃ watched own : List Scrape.Target, Scrape.jobs? text = some (watched ++ own) ∧
    List.Forall₂ (fun spec job => job.Watches fleet.settings.scrape spec) fleet.specs watched ∧
      own.map (·.job) = ["container-metrics", "health-checks"] ∧
        ((watched ++ own).map (·.job)).Nodup
  components : fleet.specs.map (·.component) = fleet.members.keys
  ascending : (fleet.specs.map (·.component)).Pairwise (· < ·)

theorem jobs_targets (fleet : Fleet) :
    fleet.targets.map (·.job) =
      (fleet.specs.map (·.component)).map (· ++ "-real") ++
        ["container-metrics", "health-checks"] := by
  rw [targets, List.map_append, Scrape.jobs_ownTargets, List.map_map, List.map_map]
  rfl

/-- The job of a collector has a name of another form than those of the sampler and the prober. -/
theorem append_real_ne (component : String) :
    component ++ "-real" ≠ "container-metrics" ∧ component ++ "-real" ≠ "health-checks" := by
  have last : (component ++ "-real").toList.getLast? = some 'l' := by
    rw [String.toList_append, List.getLast?_append]
    rfl
  constructor <;> intro same <;> rw [same] at last <;> cases last

theorem Numbered.nodup_jobs {fleet : Fleet} (numbered : fleet.Numbered) :
    (fleet.targets.map (·.job)).Nodup := by
  rw [jobs_targets, numbered.components]
  refine List.Nodup.append ?_ (by decide) ?_
  · refine List.Nodup.map_on ?_ Std.ExtTreeMap.nodup_keys
    intro left _ right _ same
    have letters := congrArg String.toList same
    rw [String.toList_append, String.toList_append] at letters
    exact String.toList_inj.mp (List.append_cancel_right letters)
  · intro job watched own
    obtain ⟨component, _, rfl⟩ := List.mem_map.mp watched
    rw [List.mem_cons, List.mem_singleton] at own
    exact own.elim (append_real_ne component).1 (append_real_ne component).2

theorem haveKeys_targets (fleet : Fleet) :
    ∀ target ∈ fleet.targets, Scrape.HaveKeys target.labels := by
  rw [targets, List.forall_mem_append, List.forall_mem_map]
  exact ⟨fun _ _ => (Scrape.haveKeys_collectorLabels _ _ _).sorted,
    Scrape.haveKeys_ownTargets _ _⟩

/-- The document of a fleet lists its collectors, whatever topology the labels are taken from. -/
theorem Numbered.listedBy {fleet : Fleet} (numbered : fleet.Numbered) (topology : Topology) :
    fleet.ListedBy { fleet with topology }.document.render where
  jobs := by
    have labelled : ({ fleet with topology } : Fleet).Numbered := numbered.congr rfl rfl rfl
    refine ⟨_, _, Scrape.jobs?_render (haveKeys_targets { fleet with topology }), ?_,
      Scrape.jobs_ownTargets _ _, labelled.nodup_jobs⟩
    rw [List.forall₂_map_right_iff]
    change List.Forall₂ _ fleet.specs fleet.specs
    rw [List.forall₂_same]
    exact fun spec _ => Scrape.collectorTarget_watches _ spec _ _
  components := numbered.components
  ascending := numbered.components ▸ Maps.keys_ascending fleet.members

/--
However writing goes, after each pass one of three holds: the pass could not write and the fleet is
dirty; or no pass has changed the collectors yet; or the fleet is clean and the document that was
written last, which is in the file, lists the collectors as they are. A dirty fleet is written by
every pass, and one that is clean by none that leaves the collectors as they are.
-/
theorem written_lists_collectors {settings : Settings} {path : String}
    (configured : settings.scrape.path = some path) (files : FileTree) (visits : List Visit)
    (visit : Visit) (placed : ∀ one ∈ visits ++ [visit], one.Places path) :
    let start := Publisher.begin settings files
    let turns := start.turns (visits ++ [visit])
    let turn : Turn := ⟨start.run visits, visit⟩
    (turn.fails = true ∧ turn.after.fleet.dirty = true ∨
        (∀ turn ∈ turns, turn.after.fleet.members = turn.before.fleet.members) ∨
        turn.after.fleet.dirty = false ∧
          ∃ publication, Turn.latest? Turn.publication? turns = some publication ∧
            turn.after.text? = some publication.text ∧
            turn.after.fleet.ListedBy publication.text) ∧
      (turn.after.fleet.dirty = true ↔ turn.fails = true) ∧
      (turn.before.fleet.dirty = true → turn.done.attempt = some turn.after.fleet.document) ∧
      (turn.before.fleet.dirty = false → turn.after.fleet.members = turn.before.fleet.members →
        turn.done.attempt = none) := by
  intro start turns turn
  have before := Publisher.run_standing configured files (List.forall_mem_append.mp placed).1
  have after : Publisher.Standing path files turns turn.after := by
    have standing := Publisher.run_standing configured files placed
    rw [Publisher.run_concat] at standing
    exact standing
  have dirty : turn.after.fleet.dirty = turn.fails := Turn.dirty_after before.configured
  have attempt : turn.done.attempt = _ := Turn.attempt_eq before.configured
  refine ⟨?_, by rw [dirty], fun waiting => ?_, fun clean same => ?_⟩
  · cases failed : turn.fails with
    | true => exact .inl ⟨rfl, dirty.trans failed⟩
    | false =>
      have clean : turn.after.fleet.dirty = false := dirty.trans failed
      cases change : Turn.latest? Turn.change? turns with
      | none => exact .inr (.inl (Turn.members_of_latest?_eq_none change))
      | some topology =>
        have published := after.current clean (change ▸ nofun)
        obtain ⟨publication, latest⟩ := Option.ne_none_iff_exists'.mp published
        obtain ⟨text, document⟩ := after.shown clean publication latest
        have numbered : turn.after.fleet.Numbered := by
          have reachable := Publisher.reachable_run settings files (visits ++ [visit])
          rw [Publisher.run_concat] at reachable
          exact reachable.numbered
        refine .inr (.inr ⟨clean, publication, latest, text, ?_⟩)
        rw [document]
        exact numbered.listedBy publication.topology
  · rw [attempt, waiting, Bool.or_true, if_pos rfl]
  · have unchanged : turn.done.outcome.isChange = false := isChange_eq_false_iff.mpr same
    rw [attempt, unchanged, clean, Bool.or_self, if_neg Bool.false_ne_true]

/-- A document that cannot be written is made good by a pass that changes nothing. -/
theorem written_lists_collectors_retried :
    let launcher : Launcher := fun spec => .ok { port := spec.port, settings := {} }
    let topology := .ofComponents
      [⟨"amf", "", "10.0.0.1", true, []⟩, ⟨"smf", "", "10.0.0.2", true, []⟩]
    let failing : Visit := ⟨.barred launcher ⟨0⟩, topology⟩
    let retrying : Visit := ⟨.undisturbed launcher ⟨1⟩ "scrape.yml", topology⟩
    let settings : Settings := { scrape := { path := some "scrape.yml" } }
    let start := Publisher.begin settings .empty
    let turn : Turn := ⟨start.run [failing], retrying⟩
    (∀ one ∈ [failing, retrying], one.Places "scrape.yml") ∧
      turn.before.fleet.dirty = true ∧ turn.before.text? = none ∧
      turn.after.fleet.members = turn.before.fleet.members ∧
      ∃ text, turn.after.text? = some text ∧ turn.after.fleet.ListedBy text := by
  intro launcher topology failing retrying settings start turn
  have placed : ∀ one ∈ [failing, retrying], one.Places "scrape.yml" := by
    rw [List.forall_mem_cons, List.forall_mem_singleton]
    exact ⟨barred_places launcher ⟨0⟩ _, undisturbed_places launcher ⟨1⟩ _⟩
  have waiting : turn.before.fleet.dirty = true := by decide +kernel
  have absent : turn.before.text? = none := by decide +kernel
  have change : ((Turn.mk start failing).done.outcome.isChange) = true := by decide +kernel
  have success : turn.fails = false := by decide +kernel
  have quiet : turn.done.outcome.isChange = false := by decide +kernel
  have configured : settings.scrape.path = some "scrape.yml" := rfl
  obtain ⟨cases, -⟩ := written_lists_collectors configured .empty [failing] retrying placed
  refine ⟨placed, waiting, absent, isChange_eq_false_iff.mp quiet, ?_⟩
  rcases cases with ⟨failed, _⟩ | steady | ⟨_, publication, _, text, listed⟩
  · cases success.symm.trans failed
  · have same := steady ⟨start, failing⟩ (List.mem_cons_self ..)
    cases change.symm.trans (isChange_eq_false_iff.mpr same)
  · exact ⟨publication.text, text, listed⟩

end CoreWatch.Fleet
