import CoreWatch.Proofs.Collector.OwnLabels
import Mathlib.Data.Set.Card

set_option autoImplicit false

/-!
What a registry holds after any history of samples: for every series the value of its last sample,
unless its metric has had another kind since.
-/

namespace CoreWatch.Collector.Registry

open Exposition

/-! Histories -/

/--
A history has a sample of a series, no later sample of its metric has another kind, and the last
sample of the series has the value.
-/
def LastValue (history : List Sample) (name : String) (kind : Kind) (labels : LabelSet)
    (value : Double) : Prop :=
  ∃ before sample after, history = before ++ sample :: after ∧
    sample.name = name ∧ sample.kind = kind ∧ Agree sample.labels labels ∧ sample.value = value ∧
    ∀ later ∈ after, later.name = name → later.kind = kind ∧ ¬ Agree later.labels labels

theorem not_lastValue_nil {name : String} {kind : Kind} {labels : LabelSet} {value : Double} :
    ¬ LastValue [] name kind labels value := by
  rintro ⟨before, sample, after, split, _⟩
  exact List.append_ne_nil_of_right_ne_nil before (List.cons_ne_nil sample after) split.symm

theorem lastValue_snoc {history : List Sample} {sample : Sample} {name : String} {kind : Kind}
    {labels : LabelSet} {value : Double} :
    LastValue (history ++ [sample]) name kind labels value ↔
      (sample.name = name ∧ sample.kind = kind ∧ Agree sample.labels labels ∧
          sample.value = value) ∨
        LastValue history name kind labels value ∧
          (sample.name = name → sample.kind = kind ∧ ¬ Agree sample.labels labels) := by
  constructor
  · rintro ⟨before, found, after, split, named, ofKind, agree, equal, rest⟩
    rcases List.eq_nil_or_concat after with rfl | ⟨init, last, rfl⟩
    · obtain ⟨rfl, same⟩ := List.append_inj' split rfl
      obtain rfl := List.singleton_inj.mp same
      exact Or.inl ⟨named, ofKind, agree, equal⟩
    · rw [List.concat_eq_append, ← List.cons_append, ← List.append_assoc] at split
      obtain ⟨rfl, same⟩ := List.append_inj' split rfl
      obtain rfl := List.singleton_inj.mp same
      rw [List.concat_eq_append, List.forall_mem_append, List.forall_mem_singleton] at rest
      exact Or.inr ⟨⟨before, found, init, rfl, named, ofKind, agree, equal, rest.1⟩, rest.2⟩
  · rintro (⟨named, ofKind, agree, equal⟩ | ⟨⟨before, found, after, rfl, facts⟩, harmless⟩)
    · exact ⟨history, sample, [], rfl, named, ofKind, agree, equal,
        fun later listed => absurd listed List.not_mem_nil⟩
    · obtain ⟨named, ofKind, agree, equal, rest⟩ := facts
      refine ⟨before, found, after ++ [sample], ?_, named, ofKind, agree, equal, ?_⟩
      · rw [List.append_assoc, List.cons_append]
      · exact List.forall_mem_append.mpr ⟨rest, List.forall_mem_singleton.mpr harmless⟩

/-! One sample -/

theorem getElem?_seriesOf {registry : Registry} {name : String} {kind : Kind}
    {labels : List Label} {value : Double} :
    (registry.seriesOf name kind)[labels]? = some value ↔
      ∃ entry, registry.entries[FamilyKey.mk name kind]? = some entry ∧
        entry.series[labels]? = some value := by
  rw [seriesOf]
  cases held : registry.entries[FamilyKey.mk name kind]? with
  | none =>
    simp only [Std.ExtTreeMap.getElem?_empty, reduceCtorEq, false_and, exists_false]
  | some entry => simp only [Option.some.injEq, exists_eq_left']

/-- What is held under other keys stays, and nothing of the metric under another kind. -/
theorem getElem?_evictOtherKinds (registry : Registry) (name : String) (kind : Kind)
    (key : FamilyKey) :
    (registry.evictOtherKinds name kind).entries[key]? =
      if key.name = name ∧ key.kind ≠ kind then none else registry.entries[key]? := by
  have others : key ∈ ([Kind.gauge, .counter, .unknown].filter (· ≠ kind)).map (FamilyKey.mk name) ↔
      key.name = name ∧ key.kind ≠ kind := by
    obtain ⟨name', kind'⟩ := key
    cases kind <;> cases kind' <;> simp [eq_comm]
  rw [evictOtherKinds, ← List.foldl_map (f := FamilyKey.mk name)
    (g := fun entries key => Std.ExtTreeMap.erase entries key), Maps.getElem?_eraseAll]
  exact if_congr others rfl rfl

theorem seriesOf_evictOtherKinds (registry : Registry) (name : String) (kind : Kind) :
    (registry.evictOtherKinds name kind).seriesOf name kind = registry.seriesOf name kind := by
  rw [seriesOf, getElem?_evictOtherKinds, if_neg fun other => other.2 rfl, seriesOf]

/-- After a sample its metric is held under the kind of the sample only. -/
theorem getElem?_record (registry : Registry) (sample : Sample) (key : FamilyKey) :
    (registry.record sample).entries[key]? =
      if key.name = sample.name then
        if key.kind = sample.kind then
          some ⟨sample.help,
            (registry.seriesOf sample.name sample.kind).insert (ownLabels sample.labels)
              sample.value⟩
        else none
      else registry.entries[key]? := by
  simp only [record]
  rw [Maps.getElem?_insert, getElem?_evictOtherKinds, seriesOf_evictOtherKinds]
  obtain ⟨name, kind⟩ := key
  by_cases named : name = sample.name
  · subst named
    by_cases ofKind : kind = sample.kind
    · subst ofKind
      simp only [↓reduceIte]
    · have apart : ¬ FamilyKey.mk sample.name sample.kind = ⟨sample.name, kind⟩ := by
        simpa using Ne.symm ofKind
      rw [if_neg apart]
      simp only [ofKind, ne_eq, not_false_eq_true, and_self, ↓reduceIte]
  · have apart : ¬ FamilyKey.mk sample.name sample.kind = ⟨name, kind⟩ := by
      simpa using fun same => absurd same.symm named
    rw [if_neg apart]
    simp only [named, false_and, ↓reduceIte]

/-- What is held after a sample is the family of its metric, or was held of another metric. -/
theorem held_record {registry : Registry} {sample : Sample} {key : FamilyKey}
    {entry : FamilyEntry} :
    (registry.record sample).entries[key]? = some entry ↔
      key = ⟨sample.name, sample.kind⟩ ∧
          entry = ⟨sample.help, (registry.seriesOf sample.name sample.kind).insert
            (ownLabels sample.labels) sample.value⟩ ∨
        key.name ≠ sample.name ∧ registry.entries[key]? = some entry := by
  rw [getElem?_record]
  obtain ⟨name, kind⟩ := key
  by_cases named : name = sample.name
  · by_cases ofKind : kind = sample.kind
    · simp only [named, ofKind, ↓reduceIte, Option.some.injEq, true_and, ne_eq, not_true_eq_false,
        false_and, or_false, eq_comm]
    · simp only [named, ofKind, ↓reduceIte, reduceCtorEq, FamilyKey.mk.injEq, and_false, false_and,
        ne_eq, not_true_eq_false, or_self]
  · simp only [named, ↓reduceIte, FamilyKey.mk.injEq, false_and, ne_eq, not_false_eq_true, true_and,
      false_or]

/-- The series that a metric has for a kind, after a sample. -/
theorem seriesOf_record (registry : Registry) (sample : Sample) (name : String) (kind : Kind) :
    (registry.record sample).seriesOf name kind =
      if sample.name = name then
        if sample.kind = kind then
          (registry.seriesOf name kind).insert (ownLabels sample.labels) sample.value
        else ∅
      else registry.seriesOf name kind := by
  rw [seriesOf, getElem?_record]
  by_cases named : sample.name = name
  · rw [if_pos named, if_pos named.symm]
    by_cases ofKind : sample.kind = kind
    · subst named ofKind
      simp only [↓reduceIte]
    · simp only [ofKind, Ne.symm ofKind, ↓reduceIte]
  · rw [if_neg named, if_neg (Ne.symm named), seriesOf]

/-- A sample sets the value of its series and forgets those of other kinds of its metric. -/
theorem value?_record (registry : Registry) (sample : Sample) (name : String) (kind : Kind)
    (labels : LabelSet) (value : Double) :
    (registry.record sample).value? name kind labels = some value ↔
      (sample.name = name ∧ sample.kind = kind ∧ Agree sample.labels labels ∧
          sample.value = value) ∨
        registry.value? name kind labels = some value ∧
          (sample.name = name → sample.kind = kind ∧ ¬ Agree sample.labels labels) := by
  rw [value?, value?, seriesOf_record]
  by_cases named : sample.name = name
  · by_cases ofKind : sample.kind = kind
    · rw [if_pos named, if_pos ofKind, Maps.getElem?_insert]
      simp only [named, ofKind, ownLabels_eq_iff, true_and, forall_const]
      by_cases agree : Agree sample.labels labels
      · simp only [agree, ↓reduceIte, Option.some.injEq, true_and, not_true_eq_false, and_false,
          or_false]
      · simp only [agree, ↓reduceIte, false_and, not_false_eq_true, and_true, false_or]
    · rw [if_pos named, if_neg ofKind, Std.ExtTreeMap.getElem?_empty]
      simp only [named, ofKind, reduceCtorEq, false_and, and_false, or_false, forall_const]
  · rw [if_neg named]
    simp only [named, false_and, false_or, false_imp_iff, and_true]

/-! Any number of samples -/

theorem foldl_ingest (registry : Registry) (payloads : List (List Sample)) :
    payloads.foldl ingest registry = registry.ingest payloads.flatten := by
  rw [ingest, List.foldl_flatten]
  rfl

theorem ingest_snoc (registry : Registry) (history : List Sample) (sample : Sample) :
    registry.ingest (history ++ [sample]) = (registry.ingest history).record sample := by
  rw [ingest, List.foldl_append]
  rfl

theorem value?_ingest (component : String) (function : NetworkFunction) (history : List Sample)
    (name : String) (kind : Kind) (labels : LabelSet) (value : Double) :
    ((empty component function).ingest history).value? name kind labels = some value ↔
      LastValue history name kind labels value := by
  induction history using List.reverseRecOn generalizing value with
  | nil =>
    have absent : ((empty component function).ingest []).value? name kind labels = none := rfl
    rw [absent]
    exact ⟨fun found => absurd found (Option.some_ne_none value).symm,
      fun last => absurd last not_lastValue_nil⟩
  | append_singleton history sample ih =>
    rw [ingest_snoc, value?_record, lastValue_snoc, ih]

/-- A metric is held under one kind only. -/
def OneKind (registry : Registry) : Prop :=
  ∀ (key other : FamilyKey) (entry entry' : FamilyEntry), registry.entries[key]? = some entry →
    registry.entries[other]? = some entry' → key.name = other.name → key = other

/-- A sample evicts what its metric had under other kinds, so the metric has one family again. -/
theorem OneKind.record {registry : Registry} (oneKind : registry.OneKind) (sample : Sample) :
    (registry.record sample).OneKind := by
  intro key other entry entry' there there' same
  rcases held_record.mp there with ⟨rfl, -⟩ | ⟨apart, before⟩ <;>
    rcases held_record.mp there' with ⟨rfl, -⟩ | ⟨apart', before'⟩
  · rfl
  · exact absurd same.symm apart'
  · exact absurd same apart
  · exact oneKind key other entry entry' before before' same

/-- Everything that a registry holds comes from its history. -/
structure Traced (history : List Sample) (registry : Registry) : Prop where
  oneKind : registry.OneKind
  named : ∀ name : String, (∃ kind entry, registry.entries[FamilyKey.mk name kind]? = some entry) ↔
    ∃ sample ∈ history, sample.name = name
  /-- A metric has the kind and the description of its last sample. -/
  latest : ∀ (key : FamilyKey) (entry : FamilyEntry), registry.entries[key]? = some entry →
    ∃ before sample after, history = before ++ sample :: after ∧ sample.name = key.name ∧
      sample.kind = key.kind ∧ sample.help = entry.help ∧ ∀ later ∈ after, later.name ≠ key.name
  shown : ∀ (key : FamilyKey) (entry : FamilyEntry), registry.entries[key]? = some entry →
    entry.series ≠ ∅
  /-- Every series holds the value of a sample with its labels. -/
  held : ∀ (key : FamilyKey) (entry : FamilyEntry) (labels : List Label) (value : Double),
    registry.entries[key]? = some entry → entry.series[labels]? = some value →
      ∃ sample ∈ history, sample.name = key.name ∧ sample.kind = key.kind ∧
        ownLabels sample.labels = labels ∧ sample.value = value

theorem empty_traced (component : String) (function : NetworkFunction) :
    Traced [] (empty component function) := by
  have none : ∀ key : FamilyKey, (empty component function).entries[key]? = none :=
    fun _ => Std.ExtTreeMap.getElem?_empty
  refine ⟨fun key other entry entry' there => ?_, fun name => ?_, fun key entry there => ?_,
    fun key entry there => ?_, fun key entry _ _ there => ?_⟩
  · rw [none] at there
    cases there
  · simp only [none, reduceCtorEq, exists_false, List.not_mem_nil, false_and]
  all_goals
    rw [none] at there
    cases there

theorem Traced.record {history : List Sample} {registry : Registry}
    (traced : Traced history registry) (sample : Sample) :
    Traced (history ++ [sample]) (registry.record sample) := by
  refine ⟨traced.oneKind.record sample, fun name => ?_, fun key entry there => ?_,
    fun key entry there => ?_, fun key entry labels value there found => ?_⟩
  · simp only [List.mem_append, List.mem_singleton, or_and_right, exists_or, exists_eq_left]
    rw [← traced.named name]
    constructor
    · rintro ⟨kind, entry, there⟩
      rcases held_record.mp there with ⟨same, -⟩ | ⟨-, before⟩
      · exact Or.inr (congrArg FamilyKey.name same).symm
      · exact Or.inl ⟨kind, entry, before⟩
    · intro known
      by_cases named : name = sample.name
      · subst named
        exact ⟨sample.kind, _, held_record.mpr (Or.inl ⟨rfl, rfl⟩)⟩
      · obtain ⟨kind, entry, before⟩ := known.resolve_right (Ne.symm named)
        exact ⟨kind, entry, held_record.mpr (Or.inr ⟨named, before⟩)⟩
  · rcases held_record.mp there with ⟨rfl, rfl⟩ | ⟨apart, before⟩
    · exact ⟨history, sample, [], rfl, rfl, rfl, rfl,
        fun later listed => absurd listed List.not_mem_nil⟩
    · obtain ⟨front, last, after, rfl, named, kind, help, none⟩ := traced.latest key entry before
      refine ⟨front, last, after ++ [sample], ?_, named, kind, help, ?_⟩
      · rw [List.append_assoc, List.cons_append]
      · exact List.forall_mem_append.mpr ⟨none, List.forall_mem_singleton.mpr (Ne.symm apart)⟩
  · rcases held_record.mp there with ⟨rfl, rfl⟩ | ⟨apart, before⟩
    · exact Std.ExtTreeMap.insert_ne_empty
    · exact traced.shown key entry before
  · have earlier {key : FamilyKey} : (∃ sample ∈ history, sample.name = key.name ∧
        sample.kind = key.kind ∧ ownLabels sample.labels = labels ∧ sample.value = value) →
        ∃ found ∈ history ++ [sample], found.name = key.name ∧ found.kind = key.kind ∧
          ownLabels found.labels = labels ∧ found.value = value :=
      fun ⟨found, listed, facts⟩ => ⟨found, List.mem_append_left _ listed, facts⟩
    rcases held_record.mp there with ⟨rfl, rfl⟩ | ⟨apart, before⟩
    · rw [Maps.getElem?_insert] at found
      split at found
      · rename_i sameLabels
        exact ⟨sample, List.mem_append_right _ List.mem_cons_self, rfl, rfl, sameLabels,
          Option.some.inj found⟩
      · obtain ⟨entry, held, found⟩ := getElem?_seriesOf.mp found
        exact earlier (traced.held _ entry labels value held found)
    · exact earlier (traced.held key entry labels value before found)

theorem ingest_traced (component : String) (function : NetworkFunction) (history : List Sample) :
    Traced history ((empty component function).ingest history) := by
  induction history using List.reverseRecOn with
  | nil => exact empty_traced component function
  | append_singleton history sample ih =>
    rw [ingest_snoc]
    exact ih.record sample

/-! Series -/

/-- A series that a registry holds, with what its metric says of it. -/
structure Held where
  name : String
  kind : Kind
  help : String
  labels : List Label
  value : Double

/-- All series of a registry, by metric and then by their own labels. -/
def held (registry : Registry) : List Held :=
  registry.entries.toList.flatMap fun (key, entry) =>
    entry.series.toList.map fun (labels, value) => ⟨key.name, key.kind, entry.help, labels, value⟩

theorem length_held (registry : Registry) : registry.held.length = registry.seriesCount := by
  rw [held, seriesCount, Maps.values_eq_map_toList, List.length_flatMap,
    List.sum_eq_foldl_nat, List.foldl_map, List.foldl_map]
  congr 1
  funext count entry
  rw [List.length_map, Std.ExtTreeMap.length_toList]

theorem mem_held {registry : Registry} {series : Held} :
    series ∈ registry.held ↔
      ∃ entry, registry.entries[FamilyKey.mk series.name series.kind]? = some entry ∧
        entry.help = series.help ∧ entry.series[series.labels]? = some series.value := by
  rw [held, List.mem_flatMap]
  constructor
  · intro inside
    obtain ⟨⟨key, entry⟩, listed, inner⟩ := inside
    obtain ⟨⟨labels, value⟩, point, rfl⟩ := List.mem_map.mp inner
    rw [Std.ExtTreeMap.mem_toList_iff_getElem?_eq_some] at listed point
    exact ⟨entry, listed, rfl, point⟩
  · intro facts
    obtain ⟨entry, there, help, found⟩ := facts
    rw [← Std.ExtTreeMap.mem_toList_iff_getElem?_eq_some] at there found
    refine ⟨_, there, List.mem_map.mpr ⟨(series.labels, series.value), found, ?_⟩⟩
    rw [help]

/-- No two families of a registry have one name. -/
theorem OneKind.names_apart {registry : Registry} (oneKind : registry.OneKind) :
    registry.entries.toList.Pairwise (·.1.name ≠ ·.1.name) := by
  have apart : registry.entries.toList.Pairwise (·.1 ≠ ·.1) :=
    List.pairwise_map.mp (Maps.nodup_toList_keys registry.entries)
  refine apart.imp_of_mem fun {first second} listed listed' different same => different ?_
  rw [Std.ExtTreeMap.mem_toList_iff_getElem?_eq_some] at listed listed'
  exact oneKind first.1 second.1 first.2 second.2 listed listed' same

/-- Families stand in strictly ascending order of their names. -/
theorem OneKind.names_ascending {registry : Registry} (oneKind : registry.OneKind) :
    registry.entries.toList.Pairwise (·.1.name < ·.1.name) := by
  have ordered : registry.entries.toList.Pairwise fun first second =>
      compare first.1 second.1 = .lt := Std.ExtTreeMap.ordered_keys_toList
  refine ordered.imp₂ (fun first second before apart => ?_) oneKind.names_apart
  rcases Ordering.then_eq_lt.mp before with below | ⟨same, _⟩
  · exact compareOfLessAndEq_eq_lt.mp below
  · exact absurd (Std.LawfulEqOrd.eq_of_compare same) apart

/-- Metric and own labels tell the series of a registry apart. -/
theorem OneKind.nodup_held {registry : Registry} (oneKind : registry.OneKind) :
    (registry.held.map fun series => (series.name, series.labels)).Nodup := by
  rw [held, List.map_flatMap, List.nodup_flatMap]
  constructor
  · intro entry _
    rw [List.map_map]
    have keys := (Maps.nodup_toList_keys entry.2.series).map (f := Prod.mk entry.1.name)
      fun _ _ same => congrArg Prod.snd same
    rw [List.map_map] at keys
    exact keys
  · refine oneKind.names_apart.imp fun {first second} different series listed listed' => ?_
    simp only [List.map_map, List.mem_map] at listed listed'
    obtain ⟨_, _, rfl⟩ := listed
    obtain ⟨_, _, same⟩ := listed'
    exact different (congrArg Prod.fst same).symm

/-- Every series holds the value of some sample, whose labels it has. -/
theorem Traced.sample_of_held {history : List Sample} {registry : Registry}
    (traced : Traced history registry) {series : Held} (listed : series ∈ registry.held) :
    ∃ sample ∈ history, sample.name = series.name ∧ sample.kind = series.kind ∧
      ownLabels sample.labels = series.labels ∧ sample.value = series.value := by
  obtain ⟨entry, there, _, found⟩ := mem_held.mp listed
  exact traced.held _ entry series.labels series.value there found

/-! Counts -/

theorem Traced.nodup_bare {history : List Sample} {registry : Registry}
    (traced : Traced history registry) :
    (registry.held.map fun series => (series.name, LabelSet.ofLabels series.labels)).Nodup := by
  refine List.Nodup.map_on ?_ traced.oneKind.nodup_held.of_map
  intro first listed second listed' same
  obtain ⟨sample, _, _, _, labels, _⟩ := traced.sample_of_held listed
  obtain ⟨sample', _, _, _, labels', _⟩ := traced.sample_of_held listed'
  rw [Prod.mk.injEq, ← labels, ← labels', ofLabels_ownLabels, ofLabels_ownLabels,
    ← agree_iff_bare, ← ownLabels_eq_iff, labels, labels'] at same
  exact List.inj_on_of_nodup_map traced.oneKind.nodup_held listed listed' (Prod.ext same.1 same.2)

/-- A metric and bare labels are those of a held series exactly when they show a value. -/
theorem Traced.image_shown {history : List Sample} {registry : Registry}
    (traced : Traced history registry) :
    (fun series : String × LabelSet => (series.1, bare series.2)) ''
        {series | ∃ kind, (registry.value? series.1 kind series.2).isSome} =
      {series | series ∈
        registry.held.map fun series => (series.name, LabelSet.ofLabels series.labels)} := by
  ext ⟨name, labels⟩
  rw [Set.mem_image, Set.mem_ofPred_eq, List.mem_map]
  constructor
  · intro inside
    obtain ⟨series, ⟨kind, shown⟩, same⟩ := inside
    obtain ⟨value, found⟩ := Option.isSome_iff_exists.mp shown
    obtain ⟨entry, there, found⟩ := getElem?_seriesOf.mp found
    obtain ⟨rfl, rfl⟩ := Prod.mk.inj same
    refine ⟨⟨series.1, kind, entry.help, ownLabels series.2, value⟩,
      mem_held.mpr ⟨entry, there, rfl, found⟩, ?_⟩
    rw [ofLabels_ownLabels]
  · intro inside
    obtain ⟨series, listed, same⟩ := inside
    obtain ⟨entry, there, _, found⟩ := mem_held.mp listed
    obtain ⟨sample, _, _, _, own, _⟩ := traced.sample_of_held listed
    rw [← own] at found
    rw [← own, ofLabels_ownLabels] at same
    refine ⟨(series.name, sample.labels), ⟨series.kind, ?_⟩, same⟩
    exact Option.isSome_iff_exists.mpr ⟨series.value, getElem?_seriesOf.mpr ⟨entry, there, found⟩⟩

theorem names_families (registry : Registry) :
    registry.families.map (·.name) = registry.entries.toList.map (·.1.name) := by
  rw [families, List.map_map]
  rfl

theorem mem_names {registry : Registry} {name : String} :
    name ∈ registry.families.map (·.name) ↔
      ∃ kind entry, registry.entries[FamilyKey.mk name kind]? = some entry := by
  rw [names_families, List.mem_map]
  constructor
  · rintro ⟨⟨key, entry⟩, listed, rfl⟩
    exact ⟨key.kind, entry, Std.ExtTreeMap.mem_toList_iff_getElem?_eq_some.mp listed⟩
  · rintro ⟨kind, entry, there⟩
    exact ⟨_, Std.ExtTreeMap.mem_toList_iff_getElem?_eq_some.mpr there, rfl⟩

theorem Traced.mem_names {history : List Sample} {registry : Registry}
    (traced : Traced history registry) (name : String) :
    name ∈ registry.families.map (·.name) ↔ name ∈ history.map (·.name) := by
  rw [Registry.mem_names, traced.named, List.mem_map]

theorem OneKind.nodup_names {registry : Registry} (oneKind : registry.OneKind) :
    (registry.families.map (·.name)).Nodup := by
  rw [names_families]
  exact List.pairwise_map.mpr oneKind.names_apart

theorem Traced.familyCount {history : List Sample} {registry : Registry}
    (traced : Traced history registry) :
    registry.familyCount = (history.map (·.name)).toFinset.card := by
  have same : (history.map (·.name)).toFinset = (registry.families.map (·.name)).toFinset := by
    ext name
    rw [List.mem_toFinset, List.mem_toFinset, traced.mem_names]
  rw [same, List.toFinset_card_of_nodup traced.oneKind.nodup_names, List.length_map, families,
    List.length_map, Std.ExtTreeMap.length_toList]
  rfl

theorem Traced.points_ne_nil {history : List Sample} {registry : Registry}
    (traced : Traced history registry) :
    ∀ family ∈ registry.families, family.points ≠ [] := by
  intro family listed
  obtain ⟨⟨key, entry⟩, held, rfl⟩ := List.mem_map.mp listed
  have there := Std.ExtTreeMap.mem_toList_iff_getElem?_eq_some.mp held
  intro empty
  apply traced.shown key entry there
  rw [← Std.ExtTreeMap.isEmpty_iff, ← Std.ExtTreeMap.isEmpty_toList, List.isEmpty_iff]
  exact List.map_eq_nil_iff.mp empty

/--
The history of a registry tells all that it holds. A metric is one family, which is never empty, and
series are counted by metric and by labels apart from those that the registry sets.
-/
theorem history_law (component : String) (function : NetworkFunction)
    (payloads : List (List Sample)) :
    let history := payloads.flatten
    let registry := payloads.foldl ingest (empty component function)
    (∀ name kind labels value, registry.value? name kind labels = some value ↔
        LastValue history name kind labels value) ∧
      (registry.families.map (·.name)).Nodup ∧
      (∀ name, name ∈ registry.families.map (·.name) ↔ name ∈ history.map (·.name)) ∧
      registry.familyCount = (history.map (·.name)).toFinset.card ∧
      (∀ family ∈ registry.families, family.points ≠ []) ∧
      (registry.seriesCount : ℕ∞) =
        ((fun series : String × LabelSet => (series.1, bare series.2)) ''
          {series | ∃ kind, (registry.value? series.1 kind series.2).isSome}).encard := by
  intro history registry
  have gathered : registry = (empty component function).ingest history :=
    foldl_ingest (empty component function) payloads
  have traced : Traced history registry := gathered ▸ ingest_traced component function history
  refine ⟨fun name kind labels value => ?_, traced.oneKind.nodup_names, traced.mem_names,
    traced.familyCount, traced.points_ne_nil, ?_⟩
  · rw [gathered]
    exact value?_ingest component function history name kind labels value
  · rw [traced.image_shown, ← List.coe_toFinset, Set.encard_coe_eq_coe_finsetCard,
      List.toFinset_card_of_nodup traced.nodup_bare, List.length_map, length_held]

end CoreWatch.Collector.Registry
