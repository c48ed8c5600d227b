import CoreWatch.Proofs.Fleet.Ports

set_option autoImplicit false

/-!
All the moments of a run, between commands and within passes, and what changes from each to the
next: collectors go, or stay as they are, or come with a fresh number and the first free port.
-/

namespace CoreWatch.Fleet

/-- The fleet before each launch of a pass, and after the last one. -/
def Pass.moments (launcher : Launcher) (now : Moment) (pass : Pass) :
    List (String × Requirement) → List Fleet
  | [] => [pass.fleet]
  | first :: rest => pass.fleet :: (pass.launch launcher now first).moments launcher now rest

/--
The fleets while a command is under way. A pass first knows its topology, then all is stopped that
is not wanted, and then one collector is launched after another.
-/
def during (fleet : Fleet) : Command → List Fleet
  | .reconcile launcher _ now topology =>
    let stopped := (fleet.begin topology).stopStale (required topology)
    fleet.begin topology ::
      stopped.moments launcher now (stopped.fleet.missing (required topology))
  | _ => []

/-- The fleet at every moment of a run. -/
def moments (fleet : Fleet) : List Command → List Fleet
  | [] => [fleet]
  | command :: rest => fleet :: (fleet.during command ++ (fleet.perform command).moments rest)

/-- A collector with a number that was not given before, and the least port that is free for it. -/
def Admitted (before : Fleet) (member : Member) : Prop :=
  before.launches ≤ member.serial ∧
    IsLeast {port | member.spec.function.basePort ≤ port ∧ port ∉ before.ports} member.spec.port

/-- From one moment to the next each collector that is there is an old one or a new one. -/
def Advances (before after : Fleet) : Prop :=
  before.launches ≤ after.launches ∧
    ∀ (name : String) (member : Member), after.members[name]? = some member →
      Carried before name member ∨ Admitted before member

/-- Whatever lies between two moments, a collector with an old number has not changed. -/
def Continues (before after : Fleet) : Prop :=
  before.launches ≤ after.launches ∧
    ∀ (name : String) (member : Member), after.members[name]? = some member →
      member.serial < before.launches → Carried before name member

theorem Advances.continues {before after : Fleet} (advances : Advances before after) :
    Continues before after := by
  refine ⟨advances.1, fun name member there old => ?_⟩
  rcases advances.2 name member there with carried | ⟨fresh, _⟩
  · exact carried
  · omega

theorem Continues.trans {first second third : Fleet} (early : Continues first second)
    (late : Continues second third) : Continues first third := by
  refine ⟨early.1.trans late.1, fun name member there old => ?_⟩
  obtain ⟨middle, found, serial, spec⟩ := late.2 name member there (old.trans_le early.1)
  obtain ⟨same, found', serial', spec'⟩ := early.2 name middle found (serial ▸ old)
  exact ⟨same, found', serial'.trans serial, spec'.trans spec⟩

instance : Trans Continues Continues Continues :=
  ⟨Continues.trans⟩

/-- Nothing new, and nothing changed. -/
theorem advances_of_subset {before after : Fleet} (launches : before.launches = after.launches)
    (subset : ∀ (name : String) (member : Member), after.members[name]? = some member →
      before.members[name]? = some member) : Advances before after :=
  ⟨launches.le, fun name member there => Or.inl ⟨member, subset name member there, rfl, rfl⟩⟩

/-- Numbers and ports both tell collectors apart. -/
structure Apart (fleet : Fleet) : Prop where
  numbered : fleet.Numbered
  ports : fleet.ports.Nodup

/--
A pass that can go on to launch what it still lacks: the ports that are used are those that
collectors hold, all collectors are required, and no component is launched twice.
-/
structure Pass.Ready (required : Std.ExtTreeMap String Requirement) (pass : Pass)
    (wanted : List (String × Requirement)) : Prop where
  apart : pass.fleet.Apart
  used : ∀ port, port ∈ pass.used ↔ port ∈ pass.fleet.ports
  within : ∀ name ∈ pass.fleet.members, name ∈ required
  lacking : ∀ entry ∈ wanted, entry.1 ∈ required ∧ entry.1 ∉ pass.fleet.members
  distinct : (wanted.map Prod.fst).Nodup

/-- A launcher whose collectors come up on the ports that they were asked for. -/
def Launcher.Faithful (launcher : Launcher) : Prop :=
  ∀ spec launch, launcher spec = .ok launch → launch.port = spec.port

theorem Pass.Ready.few {required : Std.ExtTreeMap String Requirement} {pass : Pass}
    {first : String × Requirement} {rest : List (String × Requirement)}
    (ready : pass.Ready required (first :: rest)) (fits : required.size ≤ 56440) :
    pass.used.toFinset.card < 56440 := by
  have same : pass.used.toFinset = pass.fleet.ports.toFinset := by
    ext port
    rw [List.mem_toFinset, List.mem_toFinset, ready.used]
  have held : pass.used.toFinset.card ≤ pass.fleet.members.keys.length := by
    rw [same, ← length_ports]
    exact List.toFinset_card_le _
  obtain ⟨wanted, lacking⟩ := ready.lacking first List.mem_cons_self
  have distinct : (first.1 :: pass.fleet.members.keys).Nodup :=
    List.nodup_cons.mpr ⟨mt Std.ExtTreeMap.mem_keys.mp lacking, Std.ExtTreeMap.nodup_keys⟩
  have inside : first.1 :: pass.fleet.members.keys ⊆ required.keys := by
    intro name listed
    rw [Std.ExtTreeMap.mem_keys]
    rcases List.mem_cons.mp listed with rfl | there
    · exact wanted
    · exact ready.within name (Std.ExtTreeMap.mem_keys.mp there)
  have counted := distinct.length_le_of_subset inside
  rw [List.length_cons, Std.ExtTreeMap.length_keys (t := required)] at counted
  omega

theorem mem_ports_accept {pass : Pass} {spec : Collector.Spec} {launch : Launch} {now : Moment}
    (lacking : spec.component ∉ pass.fleet.members) (port : Nat) :
    port ∈ (pass.accept spec launch now).fleet.ports ↔
      port = launch.port ∨ port ∈ pass.fleet.ports := by
  simp only [mem_ports]
  constructor
  · rintro ⟨name, member, there, same⟩
    rcases members_accept there with ⟨_, _, new⟩ | old
    · rw [new] at same
      exact Or.inl same.symm
    · exact Or.inr ⟨name, member, old, same⟩
  · rintro (rfl | ⟨name, member, there, same⟩)
    · refine ⟨spec.component, ⟨pass.fleet.launches,
        Collector.start { spec with port := launch.port } launch.settings now, launch.drains⟩,
        ?_, rfl⟩
      change (pass.fleet.takeIn spec launch now).members[spec.component]? = _
      rw [members_takeIn, if_pos rfl]
    · refine ⟨name, member, ?_, same⟩
      have elsewhere : spec.component ≠ name := by
        rintro rfl
        exact lacking (Maps.mem_iff_exists.mpr ⟨member, there⟩)
      change (pass.fleet.takeIn spec launch now).members[name]? = _
      rw [members_takeIn, if_neg elsewhere]
      exact there

theorem accept_apart {pass : Pass} (apart : pass.fleet.Apart) {spec : Collector.Spec}
    {launch : Launch} (now : Moment) (unheld : launch.port ∉ pass.fleet.ports) :
    (pass.accept spec launch now).fleet.Apart := by
  refine ⟨takeIn_numbered apart.numbered spec launch now, nodup_ports.mpr ?_⟩
  intro left right first second atLeft atRight same
  rcases members_accept atLeft with ⟨here, _, new⟩ | old <;>
    rcases members_accept atRight with ⟨here', _, new'⟩ | old'
  · rw [here, here']
  · rw [new] at same
    exact (unheld (mem_ports.mpr ⟨right, second, old', same.symm⟩)).elim
  · rw [new'] at same
    exact (unheld (mem_ports.mpr ⟨left, first, old, same⟩)).elim
  · exact nodup_ports.mp apart.ports old old' same

/-- One launch of a pass: it can go on, and what is new has the first free port. -/
theorem launch_ready {launcher : Launcher} (faithful : launcher.Faithful) (now : Moment)
    {required : Std.ExtTreeMap String Requirement} (fits : required.size ≤ 56440) {pass : Pass}
    {first : String × Requirement} {rest : List (String × Requirement)}
    (ready : pass.Ready required (first :: rest)) :
    (pass.launch launcher now first).Ready required rest ∧
      Advances pass.fleet (pass.launch launcher now first).fleet := by
  obtain ⟨wanted, lacking⟩ := ready.lacking first List.mem_cons_self
  obtain ⟨fresh, distinct⟩ := List.nodup_cons.mp ready.distinct
  have later : ∀ entry ∈ rest, entry.1 ∈ required ∧ entry.1 ∉ pass.fleet.members :=
    fun entry listed => ready.lacking entry (List.mem_cons_of_mem _ listed)
  rcases launch_cases launcher now pass first with ⟨launch, accepted, same⟩ | ⟨error, _, same⟩
  · rw [same]
    have least : IsLeast {port | first.2.function.basePort ≤ port ∧ port ∉ pass.used}
        (pass.request first).port :=
      freePort_least (exists_free (ready.few fits) first.2.function)
    simp only [ready.used, ← faithful _ _ accepted] at least
    have unheld := least.1.2
    refine ⟨⟨accept_apart ready.apart now unheld, ?_, ?_, ?_, distinct⟩, ?_, ?_⟩
    · intro port
      rw [mem_ports_accept lacking]
      change port ∈ (pass.request first).port :: pass.used ↔ _
      rw [List.mem_cons, ready.used, faithful _ _ accepted]
    · intro name there
      rcases mem_members_accept.mp there with rfl | old
      · exact wanted
      · exact ready.within name old
    · intro entry listed
      refine ⟨(later entry listed).1, fun there => ?_⟩
      rcases mem_members_accept.mp there with here | old
      · exact fresh (List.mem_map.mpr ⟨entry, listed, here⟩)
      · exact (later entry listed).2 old
    · exact Nat.le_succ _
    · intro name member there
      rcases members_accept there with ⟨_, serial, spec⟩ | old
      · refine Or.inr ⟨serial.ge, ?_⟩
        rw [spec]
        exact least
      · exact Or.inl ⟨member, old, rfl, rfl⟩
  · rw [same]
    refine ⟨⟨⟨ready.apart.numbered.congr rfl rfl rfl, ready.apart.ports⟩, ready.used,
      ready.within, later, distinct⟩, ?_⟩
    exact advances_of_subset rfl fun _ _ there => there

/-- The moments of a pass begin where it stands and end where its launches lead. -/
theorem passMoments_ends (launcher : Launcher) (now : Moment) (pass : Pass)
    (wanted : List (String × Requirement)) :
    (pass.moments launcher now wanted).head? = some pass.fleet ∧
      (pass.moments launcher now wanted).getLast? =
        some (pass.launchAll launcher now wanted).fleet := by
  induction wanted generalizing pass with
  | nil => exact ⟨rfl, rfl⟩
  | cons first rest ih =>
    refine ⟨rfl, ?_⟩
    rw [Pass.moments, List.getLast?_cons, (ih _).2]
    rfl

theorem passMoments_advance {launcher : Launcher} (faithful : launcher.Faithful) (now : Moment)
    {required : Std.ExtTreeMap String Requirement} (fits : required.size ≤ 56440) {pass : Pass}
    {wanted : List (String × Requirement)} (ready : pass.Ready required wanted) :
    (pass.moments launcher now wanted).IsChain Advances ∧
      ∀ fleet ∈ pass.moments launcher now wanted, fleet.Apart := by
  induction wanted generalizing pass with
  | nil =>
    refine ⟨.singleton _, fun fleet listed => ?_⟩
    rw [List.mem_singleton.mp listed]
    exact ready.apart
  | cons first rest ih =>
    obtain ⟨next, advances⟩ := launch_ready faithful now fits ready
    obtain ⟨chain, apart⟩ := ih next
    refine ⟨List.isChain_cons.mpr ⟨?_, chain⟩, List.forall_mem_cons.mpr ⟨ready.apart, apart⟩⟩
    intro fleet first
    rw [(passMoments_ends launcher now _ rest).1] at first
    exact Option.some.inj first ▸ advances

/-- When all is stopped that is not wanted, the pass can launch what is missing. -/
theorem stopStale_ready {fleet : Fleet} (apart : fleet.Apart)
    (required : Std.ExtTreeMap String Requirement) :
    (fleet.stopStale required).Ready required
      ((fleet.stopStale required).fleet.missing required) where
  apart := by
    refine ⟨stopStale_numbered apart.numbered required, nodup_ports.mpr ?_⟩
    exact fun atLeft atRight same => nodup_ports.mp apart.ports (members_stopStale.mp atLeft).1
      (members_stopStale.mp atRight).1 same
  used _ := Iff.rfl
  within name there := by
    obtain ⟨member, found⟩ := Maps.mem_iff_exists.mp there
    obtain ⟨requirement, wanted, _⟩ := (members_stopStale.mp found).2
    exact Maps.mem_iff_exists.mpr ⟨requirement, wanted⟩
  lacking entry listed := by
    obtain ⟨wanted, lacking⟩ := mem_missing.mp listed
    exact ⟨Maps.mem_iff_exists.mpr ⟨_, wanted⟩, lacking⟩
  distinct := nodup_missing _ required

/--
What a command may bring: a launcher that gives the ports it is asked for, and a topology that
requires no more collectors than there are ports from 9096 to 65535.
-/
def Command.Fits : Command → Prop
  | .reconcile launcher _ _ topology => launcher.Faithful ∧ (required topology).size ≤ 56440
  | _ => True

/-- A pass leads to its end through moments that each follow from the one before. -/
theorem reconcile_advances {fleet : Fleet} (apart : fleet.Apart) {launcher : Launcher}
    (faithful : launcher.Faithful) (write : Scrape.Document → Bool) (now : Moment)
    {topology : Topology} (fits : (required topology).size ≤ 56440) :
    let command := Command.reconcile launcher write now topology
    (fleet :: fleet.during command ++ [fleet.perform command]).IsChain Advances ∧
      (∀ moment ∈ fleet.during command, moment.Apart) ∧ (fleet.perform command).Apart := by
  intro command
  have begun : (fleet.begin topology).Apart := ⟨apart.numbered.congr rfl rfl rfl, apart.ports⟩
  have ready := stopStale_ready begun (required topology)
  have ends := passMoments_ends launcher now ((fleet.begin topology).stopStale (required topology))
    (((fleet.begin topology).stopStale (required topology)).fleet.missing (required topology))
  obtain ⟨chain, passing⟩ := passMoments_advance faithful now fits ready
  have last : Fleet.Apart (fleet.turnOver launcher now topology).fleet :=
    passing _ (List.mem_of_getLast? ends.2)
  have same : (fleet.perform command).members =
      (fleet.turnOver launcher now topology).fleet.members :=
    members_reconcile fleet launcher write now topology
  refine ⟨List.isChain_append.mpr ⟨?_, .singleton _, ?_⟩, ?_, ?_⟩
  · refine List.isChain_cons_cons.mpr ⟨advances_of_subset rfl fun _ _ there => there,
      List.isChain_cons.mpr ⟨?_, chain⟩⟩
    intro stopped first
    rw [ends.1] at first
    obtain rfl := Option.some.inj first
    exact advances_of_subset (launches_stopAll _ _).symm
      fun _ _ there => (members_stopStale.mp there).1
  · intro before final after first
    obtain rfl := Option.some.inj first
    rw [during, List.getLast?_cons, List.getLast?_cons, ends.2] at final
    obtain rfl := Option.some.inj final
    refine advances_of_subset (launches_reconcile fleet launcher write now topology).symm ?_
    intro name member there
    exact same ▸ there
  · exact List.forall_mem_cons.mpr ⟨begun, passing⟩
  · refine ⟨perform_numbered apart.numbered command, ?_⟩
    have ports : (fleet.perform command).ports =
        (fleet.turnOver launcher now topology).fleet.ports := by
      simp only [Fleet.ports, specs, same]
    exact ports ▸ last.ports

/-- What changes no number and nothing that is watched keeps all collectors apart. -/
theorem apart_of_carried {fleet later : Fleet} (apart : fleet.Apart) (numbered : later.Numbered)
    (carried : ∀ {name : String} {member : Member}, later.members[name]? = some member →
      Carried fleet name member) : later.Apart := by
  refine ⟨numbered, nodup_ports.mpr ?_⟩
  intro left right first second atLeft atRight same
  obtain ⟨before, there, _, spec⟩ := carried atLeft
  obtain ⟨before', there', _, spec'⟩ := carried atRight
  exact nodup_ports.mp apart.ports there there' (by rw [spec, spec', same])

/-- A command leads to its end through moments that each follow from the one before. -/
theorem perform_advances {fleet : Fleet} (apart : fleet.Apart) {command : Command}
    (fits : command.Fits) :
    (fleet :: fleet.during command ++ [fleet.perform command]).IsChain Advances ∧
      (∀ moment ∈ fleet.during command, moment.Apart) ∧ (fleet.perform command).Apart := by
  cases command with
  | reconcile launcher write now topology =>
    exact reconcile_advances apart fits.1 write now fits.2
  | shutdown =>
    have emptied {name : String} {member : Member} :
        (fleet.perform .shutdown).members[name]? = some member → Carried fleet name member := by
      intro there
      simp [perform, shutdown] at there
    refine ⟨List.isChain_pair.mpr ⟨Nat.le_refl _, fun _ _ there => Or.inl (emptied there)⟩,
      List.forall_mem_nil _, ?_⟩
    exact apart_of_carried apart (perform_numbered apart.numbered _) emptied
  | fetch component now exchange =>
    refine ⟨List.isChain_pair.mpr ⟨?_, fun _ _ there => Or.inl (fetch_carries there)⟩,
      List.forall_mem_nil _, ?_⟩
    · exact (launches_fetch fleet component now exchange).ge
    · exact apart_of_carried apart (perform_numbered apart.numbered _) fetch_carries
  | cancel =>
    exact ⟨List.isChain_pair.mpr (advances_of_subset rfl fun _ _ there => there),
      List.forall_mem_nil _, apart.numbered.congr rfl rfl rfl, apart.ports⟩

theorem moments_eq_cons (fleet : Fleet) (commands : List Command) :
    ∃ later, fleet.moments commands = fleet :: later := by
  cases commands with
  | nil => exact ⟨[], rfl⟩
  | cons command rest => exact ⟨_, rfl⟩

theorem moments_advance {fleet : Fleet} (apart : fleet.Apart) {commands : List Command}
    (fits : ∀ command ∈ commands, command.Fits) :
    (fleet.moments commands).IsChain Advances ∧
      ∀ moment ∈ fleet.moments commands, moment.Apart := by
  induction commands generalizing fleet with
  | nil =>
    refine ⟨.singleton _, fun moment listed => ?_⟩
    rw [List.mem_singleton.mp listed]
    exact apart
  | cons command rest ih =>
    obtain ⟨first, others⟩ := List.forall_mem_cons.mp fits
    obtain ⟨reaches, passing, arrived⟩ := perform_advances apart first
    obtain ⟨goesOn, after⟩ := ih arrived others
    refine ⟨?_, List.forall_mem_cons.mpr ⟨apart, List.forall_mem_append.mpr ⟨passing, after⟩⟩⟩
    obtain ⟨later, same⟩ := moments_eq_cons (fleet.perform command) rest
    rw [same] at goesOn
    rw [← List.singleton_append] at goesOn
    have joined := reaches.append_overlap goesOn (List.cons_ne_nil _ _)
    rw [List.append_assoc, List.singleton_append, ← same] at joined
    exact joined

/-- Collectors with one number are one collector, on one port. -/
def SamePorts (left right : Fleet) : Prop :=
  ∀ (name name' : String) (member member' : Member), left.members[name]? = some member →
    right.members[name']? = some member' → member.serial = member'.serial →
      member.spec.port = member'.spec.port

instance : Std.Symm SamePorts :=
  ⟨fun _ _ same name name' member member' there there' serial =>
    (same name' name member' member there' there serial.symm).symm⟩

theorem Continues.samePorts {before after : Fleet} (continues : Continues before after)
    (numbered : before.Numbered) : SamePorts before after := by
  intro name name' member member' there there' serial
  obtain ⟨same, found, number, spec⟩ :=
    continues.2 name' member' there' (serial ▸ numbered.below there)
  obtain rfl := numbered.apart there found (serial.trans number.symm)
  rw [there] at found
  obtain rfl := Option.some.inj found
  rw [spec]

theorem Numbered.samePorts {fleet : Fleet} (numbered : fleet.Numbered) :
    SamePorts fleet fleet :=
  Continues.samePorts ⟨Nat.le_refl _, fun _ member there _ => ⟨member, there, rfl, rfl⟩⟩ numbered

/--
At every moment of a run all collectors hold different ports, so that no conflict of ports is ever
reported. From each moment to the next a new collector gets the least port from the base port of
its function on that no collector holds, and at any two moments a collector holds the same port.
-/
theorem ports_apart (settings : Settings) {commands : List Command}
    (fits : ∀ command ∈ commands, command.Fits) :
    let moments := (empty settings).moments commands
    (∀ fleet ∈ moments, fleet.ports.Nodup ∧
        ∀ port components, Issue.portConflict port components ∉ fleet.issues) ∧
      moments.IsChain Advances ∧
      ∀ earlier ∈ moments, ∀ later ∈ moments, SamePorts earlier later := by
  intro moments
  have apart : (empty settings).Apart := ⟨empty_numbered settings, List.nodup_nil⟩
  obtain ⟨chain, always⟩ := moments_advance apart fits
  refine ⟨fun fleet listed => ?_, chain, ?_⟩
  · have distinct := (always fleet listed).ports
    exact ⟨distinct, portConflict_not_mem_issues distinct⟩
  · have continues : moments.Pairwise Continues :=
      (chain.imp fun _ _ advances => advances.continues).pairwise
    have same : moments.Pairwise SamePorts :=
      continues.imp_of_mem fun listed _ related => related.samePorts (always _ listed).numbered
    exact fun _ listed _ listed' => same.forall_of_forall
      (fun fleet here => (always fleet here).numbered.samePorts) listed listed'

/-- Ports of stopped collectors are given again, within a pass and after a shutdown. -/
theorem ports_apart_reused :
    let launcher : Launcher := fun spec => .ok { port := spec.port, settings := {} }
    let first := Topology.ofComponents
      [⟨"amf", "", "10.0.0.1", true, []⟩, ⟨"smf", "", "10.0.0.2", true, []⟩,
        ⟨"upf", "", "10.0.0.3", true, []⟩]
    let second := Topology.ofComponents
      [⟨"amf", "", "10.0.0.9", true, []⟩, ⟨"amf-2", "", "10.0.0.4", true, []⟩,
        ⟨"upf", "", "10.0.0.3", true, []⟩]
    let commands : List Command :=
      [.reconcile launcher (fun _ => true) ⟨0⟩ first,
        .reconcile launcher (fun _ => true) ⟨1⟩ second,
        .shutdown,
        .reconcile launcher (fun _ => true) ⟨2⟩ first]
    (∀ command ∈ commands, command.Fits) ∧
      ((empty {}).moments commands).IsChain Advances ∧
      ((empty {}).moments commands).map (·.ports) =
        [[], [], [], [9091], [9091, 9092], [9091, 9092, 9094], [9091, 9092, 9094],
          [9091, 9092, 9094], [9094], [9091, 9094], [9091, 9092, 9094], [9091, 9092, 9094],
          [], [], [], [9091], [9091, 9092], [9091, 9092, 9094], [9091, 9092, 9094]] := by
  intro launcher first second commands
  have faithful : launcher.Faithful := by
    intro spec launch launched
    cases launched
    rfl
  have fits : ∀ command ∈ commands, command.Fits := by
    intro command listed
    simp only [commands, List.mem_cons, List.not_mem_nil, or_false] at listed
    rcases listed with rfl | rfl | rfl | rfl
    · exact ⟨faithful, by decide +kernel⟩
    · exact ⟨faithful, by decide +kernel⟩
    · trivial
    · exact ⟨faithful, by decide +kernel⟩
  exact ⟨fits, (ports_apart {} fits).2.1, by decide +kernel⟩

end CoreWatch.Fleet
