import CoreWatch.Proofs.Collector.Reexposition

set_option autoImplicit false

/-!
A collector behind another one of the same component changes nothing: a registry that takes in what
a registry serves has the same families again, each of the kind that was announced, and serves the
same text.
-/

namespace CoreWatch.Exposition

@[simp] theorem Kind.announced_announced (kind : Kind) :
    kind.announced.announced = kind.announced := by
  cases kind <;> rfl

/-- A family of the kind that it announces. -/
def Family.announced (family : Family) : Family :=
  { family with kind := family.kind.announced }

theorem Family.typeLine_announced (family : Family) :
    family.announced.typeLine = family.typeLine := by
  unfold Family.typeLine Family.announced
  simp only [Kind.announced_announced]

theorem Family.lines_announced (family : Family) : family.announced.lines = family.lines := by
  have help : family.announced.helpLine = family.helpLine := rfl
  rw [Family.lines, family.typeLine_announced, help]
  rfl

/-- Only the announced kinds are written. -/
theorem encode_announced (families : List Family) :
    encode (families.map Family.announced) = encode families := by
  have points : (fun family : Family => !family.points.isEmpty) ∘ Family.announced =
      fun family => !family.points.isEmpty := rfl
  have names : (fun family : Family => family.name.isEmpty) ∘ Family.announced =
      fun family => family.name.isEmpty := rfl
  unfold encode
  simp only [List.filter_map, List.any_map, List.flatMap_map, points, names, Family.lines_announced]

end CoreWatch.Exposition

namespace CoreWatch.Collector

open Exposition

/-- The key of a family of the kind that it announces. -/
def FamilyKey.announced (key : FamilyKey) : FamilyKey :=
  ⟨key.name, key.kind.announced⟩

namespace Registry

/-! What the records of a registry tell of it -/

theorem agree_relabel (component : String) (function : NetworkFunction) (labels : LabelSet) :
    Agree (relabel component function labels) labels := by
  intro name noComponent noFunction
  rw [relabel, Maps.getElem?_insert, Maps.getElem?_insert, if_neg (Ne.symm noFunction),
    if_neg (Ne.symm noComponent)]

theorem Traced.ownLabels_sampleOf {history : List Sample} {registry : Registry}
    (traced : Traced history registry) {series : Held} (listed : series ∈ registry.held) :
    ownLabels (registry.sampleOf series).labels = series.labels := by
  obtain ⟨sample, _, _, _, own, _⟩ := traced.sample_of_held listed
  change ownLabels (LabelSet.ofLabels (registry.setLabels ++ series.labels)) = series.labels
  rw [← own, ofLabels_written, ownLabels_eq_iff]
  exact agree_relabel registry.component registry.function sample.labels

/-- What is said once of every series is the last that is said of it. -/
theorem lastValue_of_nodup {records : List Sample}
    (distinct : (records.map fun record => (record.name, ownLabels record.labels)).Nodup)
    (kinds : ∀ first ∈ records, ∀ second ∈ records, first.name = second.name →
      first.kind = second.kind) {record : Sample} (listed : record ∈ records) :
    LastValue records record.name record.kind record.labels record.value := by
  obtain ⟨before, after, rfl⟩ := List.append_of_mem listed
  refine ⟨before, record, after, rfl, rfl, rfl, fun _ _ _ => rfl, rfl, fun later there same => ?_⟩
  have inside := List.mem_append_right before (List.mem_cons_of_mem record there)
  refine ⟨kinds later inside record listed same, fun agree => ?_⟩
  rw [List.map_append, List.map_cons] at distinct
  have fresh := (List.nodup_cons.mp (List.nodup_append.mp distinct).2.1).1
  apply fresh
  rw [List.mem_map]
  exact ⟨later, there, Prod.ext same (ownLabels_eq_iff.mpr agree)⟩

/-- The records of a registry, in the order in which it serves them. -/
def records (registry : Registry) : List Sample :=
  registry.held.map registry.sampleOf

theorem mem_records {registry : Registry} {record : Sample} :
    record ∈ registry.records ↔ ∃ series ∈ registry.held, registry.sampleOf series = record :=
  List.mem_map

/-- A record of a metric has the announced kind and the description of its family. -/
theorem family_of_record {registry : Registry} {record : Sample}
    (listed : record ∈ registry.records) :
    ∃ kind entry, registry.entries[FamilyKey.mk record.name kind]? = some entry ∧
      record.kind = kind.announced ∧ record.help = entry.help := by
  obtain ⟨series, shown, rfl⟩ := mem_records.mp listed
  obtain ⟨entry, there, help, _⟩ := mem_held.mp shown
  exact ⟨series.kind, entry, there, rfl, help.symm⟩

theorem Traced.lastValue_records {history : List Sample} {registry : Registry}
    (traced : Traced history registry) {record : Sample} (listed : record ∈ registry.records) :
    LastValue registry.records record.name record.kind record.labels record.value := by
  refine lastValue_of_nodup ?_ ?_ listed
  · have own : (registry.records.map fun record => (record.name, ownLabels record.labels)) =
        registry.held.map fun series => (series.name, series.labels) := by
      rw [records, List.map_map]
      refine List.map_congr_left fun series shown => ?_
      exact Prod.ext rfl (traced.ownLabels_sampleOf shown)
    rw [own]
    exact traced.oneKind.nodup_held
  · intro first listed second listed' same
    obtain ⟨kind, entry, there, announced, _⟩ := family_of_record listed
    obtain ⟨kind', entry', there', announced', _⟩ := family_of_record listed'
    have one := traced.oneKind _ _ entry entry' there there' same
    rw [announced, announced', (FamilyKey.mk.inj one).2]

/-- The records of a registry bring the very series that it holds of a metric. -/
theorem Traced.series_of_records {history : List Sample} {registry fresh : Registry}
    (traced : Traced history registry)
    (taken : fresh = (empty registry.component registry.function).ingest registry.records)
    {name : String} {kind kind' : Kind} {own entry : FamilyEntry}
    (held : registry.entries[FamilyKey.mk name kind]? = some own)
    (there : fresh.entries[FamilyKey.mk name kind']? = some entry) : entry.series = own.series := by
  have traced' : Traced registry.records fresh := taken ▸ ingest_traced _ _ registry.records
  apply Std.ExtTreeMap.ext_getElem?
  intro labels
  apply Option.ext
  intro value
  constructor
  · intro found
    obtain ⟨record, listed, named, _, labelled, same⟩ :=
      traced'.held _ entry labels value there found
    obtain ⟨series, shown, rfl⟩ := mem_records.mp listed
    obtain ⟨own', held', _, found'⟩ := mem_held.mp shown
    rw [traced.ownLabels_sampleOf shown] at labelled
    obtain ⟨rfl, rfl⟩ := FamilyKey.mk.inj (traced.oneKind _ _ own' own held' held named)
    obtain rfl := Option.some.inj (held'.symm.trans held)
    rw [← labelled, ← same, found']
    rfl
  · intro found
    have shown : ⟨name, kind, own.help, labels, value⟩ ∈ registry.held :=
      mem_held.mpr ⟨own, held, rfl, found⟩
    -- Each series has one record, so what is last said of it is all that is said.
    have last := traced.lastValue_records (mem_records.mpr ⟨_, shown, rfl⟩)
    rw [← value?_ingest registry.component registry.function, ← taken] at last
    obtain ⟨entry', there', found'⟩ := getElem?_seriesOf.mp last
    have one := traced'.oneKind _ _ entry' entry there' there rfl
    rw [one, there, Option.some.injEq] at there'
    rw [traced.ownLabels_sampleOf shown] at found'
    rw [there', found']
    rfl

/-- What is held once the records of a registry have been taken in is held by that registry. -/
theorem Traced.held_of_records {history : List Sample} {registry fresh : Registry}
    (traced : Traced history registry)
    (taken : fresh = (empty registry.component registry.function).ingest registry.records)
    {key : FamilyKey} {entry : FamilyEntry} (there : fresh.entries[key]? = some entry) :
    ∃ own : FamilyKey, registry.entries[own]? = some entry ∧ own.announced = key := by
  have traced' : Traced registry.records fresh := taken ▸ ingest_traced _ _ registry.records
  obtain ⟨name, kind⟩ := key
  obtain ⟨before, record, after, split, rfl, rfl, help, _⟩ := traced'.latest _ entry there
  have listed : record ∈ registry.records := by
    rw [split]
    exact List.mem_append_right before List.mem_cons_self
  obtain ⟨kind, own, held, announced, help'⟩ := family_of_record listed
  have series := traced.series_of_records taken held there
  refine ⟨⟨record.name, kind⟩, ?_, ?_⟩
  · obtain rfl : own = entry := FamilyEntry.ext (help'.symm.trans help) series.symm
    exact held
  · rw [FamilyKey.announced, announced]

theorem Traced.mem_ingest_records {history : List Sample} {registry fresh : Registry}
    (traced : Traced history registry)
    (taken : fresh = (empty registry.component registry.function).ingest registry.records)
    {key : FamilyKey} {entry : FamilyEntry} :
    fresh.entries[key]? = some entry ↔
      ∃ own : FamilyKey, registry.entries[own]? = some entry ∧ own.announced = key := by
  refine ⟨traced.held_of_records taken, ?_⟩
  rintro ⟨own, held, rfl⟩
  have traced' : Traced registry.records fresh := taken ▸ ingest_traced _ _ registry.records
  have named : own.name ∈ registry.families.map (·.name) :=
    Registry.mem_names.mpr ⟨own.kind, entry, held⟩
  obtain ⟨series, shown, same⟩ := (traced.mem_names_held own.name).mp named
  obtain ⟨kind, found, there⟩ :=
    (traced'.named own.name).mpr ⟨_, mem_records.mpr ⟨series, shown, rfl⟩, same⟩
  obtain ⟨other, held', announced⟩ := traced.held_of_records taken there
  have same' : own.name = other.name := (congrArg FamilyKey.name announced).symm
  obtain rfl := traced.oneKind own other entry found held held' same'
  obtain rfl := Option.some.inj (held.symm.trans held')
  rw [announced]
  exact there

/-- A registry that takes in the records of another one of the same component lists its families. -/
theorem Traced.families_ingest_records {history : List Sample} {registry : Registry}
    (traced : Traced history registry) :
    ((empty registry.component registry.function).ingest registry.records).families =
      registry.families.map Family.announced := by
  generalize taken : (empty registry.component registry.function).ingest registry.records = fresh
  have traced' : Traced registry.records fresh := taken ▸ ingest_traced _ _ registry.records
  have own := component_ingest (empty registry.component registry.function) registry.records
  rw [taken] at own
  have entries : fresh.entries.toList =
      registry.entries.toList.map fun entry => (entry.1.announced, entry.2) := by
    refine Maps.eq_of_ascending traced'.oneKind.names_ascending ?_ ?_
    · exact List.pairwise_map.mpr traced.oneKind.names_ascending
    · rintro ⟨key, entry⟩
      rw [Std.ExtTreeMap.mem_toList_iff_getElem?_eq_some, traced.mem_ingest_records taken.symm]
      simp only [List.mem_map, Prod.exists, Std.ExtTreeMap.mem_toList_iff_getElem?_eq_some,
        Prod.mk.injEq]
      constructor
      · rintro ⟨own, held, announced⟩
        exact ⟨own, entry, held, announced, rfl⟩
      · rintro ⟨own, entry, held, announced, rfl⟩
        exact ⟨own, held, announced⟩
  have labels : fresh.setLabels = registry.setLabels := by
    rw [setLabels, setLabels, own.1, own.2]
    rfl
  rw [families, families, entries, labels, List.map_map, List.map_map]
  rfl

/-! Texts -/

/-- A registry that has only taken in what was read is read again as its records. -/
theorem samples_encode_ingest (component : String) (function : NetworkFunction)
    {history : List Sample} (read : ∀ sample ∈ history, sample.Readable) :
    ∃ text, ((empty component function).ingest history).encode = .ok text ∧
      samples text = ((empty component function).ingest history).records := by
  have traced := ingest_traced component function history
  obtain ⟨text, written, _, again, _⟩ :=
    encode_readable (traced.readable read) traced.points_ne_nil
  rw [samples_families] at again
  exact ⟨text, written, again⟩

/-- What a fresh registry serves when it has taken in texts, one after another. -/
def serve (component : String) (function : NetworkFunction) (texts : List String) :
    Except EncodeFault String :=
  (texts.foldl (fun registry text => registry.ingest (samples text))
    (empty component function)).encode

theorem serve_eq (component : String) (function : NetworkFunction) (texts : List String) :
    serve component function texts =
      ((empty component function).ingest (texts.flatMap samples)).encode := by
  rw [serve, List.flatMap_def, ← foldl_ingest, List.foldl_map]

/-- What is served after any texts is served again, letter for letter, by one that takes it in. -/
theorem serve_idempotent (component : String) (function : NetworkFunction) (texts : List String) :
    ∃ text, serve component function texts = .ok text ∧
      serve component function [text] = .ok text := by
  have read : ∀ sample ∈ texts.flatMap samples, sample.Readable := by
    intro sample listed
    obtain ⟨text, _, inside⟩ := List.mem_flatMap.mp listed
    exact samples_readable sample inside
  have same := (ingest_traced component function (texts.flatMap samples)).families_ingest_records
  rw [(component_ingest _ _).1, (component_ingest _ _).2] at same
  change ((empty component function).ingest _).families = _ at same
  obtain ⟨text, written, again⟩ := samples_encode_ingest component function read
  refine ⟨text, (serve_eq ..).trans written, ?_⟩
  calc
    serve component function [text]
    _ = ((empty component function).ingest (samples text)).encode := rfl
    _ = ((empty component function).ingest (texts.flatMap samples)).encode := by
      rw [again, encode, encode, same, encode_announced]
    _ = .ok text := written

end Registry
end CoreWatch.Collector
