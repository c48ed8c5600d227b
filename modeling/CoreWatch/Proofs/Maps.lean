import Mathlib.Data.List.Nodup
import Std.Data.ExtTreeMap

set_option autoImplicit false

/-!
Maps in the order of their keys: entries as a list, and what tells two values apart; items of a list
that are told apart by a key.
-/

namespace CoreWatch.Maps

variable {κ α β : Type}

theorem getElem?_insert [Ord κ] [Std.TransOrd κ] [Std.LawfulEqOrd κ] [DecidableEq κ]
    (m : Std.ExtTreeMap κ α) (key other : κ) (value : α) :
    (m.insert key value)[other]? = if key = other then some value else m[other]? := by
  rw [Std.ExtTreeMap.getElem?_insert]
  by_cases same : key = other
  · rw [if_pos same, if_pos (Std.LawfulEqCmp.compare_eq_iff_eq.mpr same)]
  · rw [if_neg same, if_neg fun equal => same (Std.LawfulEqCmp.compare_eq_iff_eq.mp equal)]

theorem getElem?_erase [Ord κ] [Std.TransOrd κ] [Std.LawfulEqOrd κ] [DecidableEq κ]
    (m : Std.ExtTreeMap κ α) (key other : κ) :
    (m.erase key)[other]? = if key = other then none else m[other]? := by
  rw [Std.ExtTreeMap.getElem?_erase]
  by_cases same : key = other
  · rw [if_pos same, if_pos (Std.LawfulEqCmp.compare_eq_iff_eq.mpr same)]
  · rw [if_neg same, if_neg fun equal => same (Std.LawfulEqCmp.compare_eq_iff_eq.mp equal)]

/-- What is kept by its key. -/
theorem getElem?_filter [Ord κ] [Std.TransOrd κ] [Std.LawfulEqOrd κ]
    (m : Std.ExtTreeMap κ α) (keep : κ → Bool) (key : κ) :
    (m.filter fun key _ => keep key)[key]? = if keep key then m[key]? else none := by
  rw [Std.ExtTreeMap.getElem?_filter']
  cases m[key]? with
  | none => rw [Option.filter_none, ite_self]
  | some value => rw [Option.filter_some]

theorem values_eq_map_toList [Ord κ] [Std.TransOrd κ] (m : Std.ExtTreeMap κ α) :
    m.values = m.toList.map Prod.snd := by
  obtain ⟨⟨quotient⟩⟩ := m
  induction quotient using Quotient.ind with
  | _ tree =>
    change tree.inner.values = (Std.DTreeMap.Internal.Impl.Const.toList tree.inner).map Prod.snd
    rw [Std.DTreeMap.Internal.Impl.values_eq_map_snd,
      Std.DTreeMap.Internal.Impl.Const.toList_eq_toListModel_map, List.map_map]
    rfl

theorem mem_values {m : Std.ExtTreeMap String α} {value : α} :
    value ∈ m.values ↔ ∃ name : String, m[name]? = some value := by
  rw [values_eq_map_toList, List.mem_map]
  constructor
  · rintro ⟨⟨name, value⟩, listed, rfl⟩
    exact ⟨name, Std.ExtTreeMap.mem_toList_iff_getElem?_eq_some.mp listed⟩
  · rintro ⟨name, found⟩
    exact ⟨(name, value), Std.ExtTreeMap.mem_toList_iff_getElem?_eq_some.mpr found, rfl⟩

theorem mem_map_values {m : Std.ExtTreeMap String α} {f : α → β} {image : β} :
    image ∈ m.values.map f ↔
      ∃ (name : String) (value : α), m[name]? = some value ∧ f value = image := by
  rw [List.mem_map]
  constructor
  · rintro ⟨value, listed, same⟩
    obtain ⟨name, found⟩ := mem_values.mp listed
    exact ⟨name, value, found, same⟩
  · rintro ⟨name, value, found, same⟩
    exact ⟨value, mem_values.mpr ⟨name, found⟩, same⟩

/-- What is left when several keys are erased. -/
theorem getElem?_eraseAll [Ord κ] [Std.TransOrd κ] [Std.LawfulEqOrd κ] [DecidableEq κ]
    (m : Std.ExtTreeMap κ α) (keys : List κ) (other : κ) :
    (keys.foldl (fun m key => m.erase key) m)[other]? =
      if other ∈ keys then none else m[other]? := by
  induction keys generalizing m with
  | nil => rw [List.foldl_nil, if_neg List.not_mem_nil]
  | cons key keys ih =>
    rw [List.foldl_cons, ih, getElem?_erase]
    by_cases later : other ∈ keys
    · rw [if_pos later, if_pos (List.mem_cons_of_mem _ later)]
    · simp only [later, List.mem_cons, or_false, ↓reduceIte, eq_comm (a := key)]

theorem mem_iff_exists [Ord κ] [Std.TransOrd κ] {m : Std.ExtTreeMap κ α} {key : κ} :
    key ∈ m ↔ ∃ value, m[key]? = some value := by
  rw [Std.ExtTreeMap.mem_iff_isSome_getElem?, Option.isSome_iff_exists]

theorem nodup_toList_keys [Ord κ] [Std.TransOrd κ] (m : Std.ExtTreeMap κ α) :
    (m.toList.map Prod.fst).Nodup := by
  rw [Std.ExtTreeMap.map_fst_toList_eq_keys]
  exact Std.ExtTreeMap.nodup_keys

/-- Entries with different keys all come through. -/
theorem mem_toList_ofList {entries : List (String × α)}
    (distinct : (entries.map Prod.fst).Nodup) {entry : String × α} (listed : entry ∈ entries) :
    entry ∈ (Std.ExtTreeMap.ofList entries compare).toList := by
  rw [Std.ExtTreeMap.mem_toList_iff_getElem?_eq_some]
  refine Std.ExtTreeMap.getElem?_ofList_of_mem Std.ReflCmp.compare_self ?_ listed
  refine (List.pairwise_map.mp distinct).imp fun apart equal => ?_
  exact apart (Std.LawfulEqCmp.compare_eq_iff_eq.mp equal)

/-- Keys stand in strictly ascending order. -/
theorem keys_ascending (m : Std.ExtTreeMap String α) : m.keys.Pairwise (· < ·) := by
  have ordered := m.ordered_keys
  exact ordered.imp fun before => compareOfLessAndEq_eq_lt.mp before

/-- Items in strictly ascending order of their names are given by which ones there are. -/
theorem eq_of_ascending {left right : List α} {name : α → String}
    (ascending : left.Pairwise (name · < name ·)) (ascending' : right.Pairwise (name · < name ·))
    (same : ∀ item, item ∈ left ↔ item ∈ right) : left = right := by
  have distinct {items : List α} (ordered : items.Pairwise (name · < name ·)) : items.Nodup :=
    ordered.imp fun before equal => String.ne_of_lt before (congrArg name equal)
  have members : left.Perm right :=
    (List.perm_ext_iff_of_nodup (distinct ascending) (distinct ascending')).mpr same
  refine members.eq_of_pairwise (fun first second _ _ before after => ?_) ascending ascending'
  exact absurd after (String.lt_asymm before)

/-- Something is different for all values exactly when it tells their names. -/
theorem nodup_map_values {m : Std.ExtTreeMap String α} {f : α → β} :
    (m.values.map f).Nodup ↔
      ∀ {left right : String} {first second : α}, m[left]? = some first →
        m[right]? = some second → f first = f second → left = right := by
  rw [values_eq_map_toList, List.map_map]
  constructor
  · intro distinct left right first second atLeft atRight same
    have entries := List.inj_on_of_nodup_map distinct
      (Std.ExtTreeMap.mem_toList_iff_getElem?_eq_some.mpr atLeft)
      (Std.ExtTreeMap.mem_toList_iff_getElem?_eq_some.mpr atRight) same
    exact congrArg Prod.fst entries
  · intro apart
    refine List.Nodup.map_on ?_ (List.Nodup.of_map Prod.fst (nodup_toList_keys m))
    rintro ⟨left, first⟩ atLeft ⟨right, second⟩ atRight same
    rw [Std.ExtTreeMap.mem_toList_iff_getElem?_eq_some] at atLeft atRight
    obtain rfl := apart atLeft atRight same
    rw [atLeft] at atRight
    rw [Option.some.inj atRight]

/-- Values that tell their own names are all different. -/
theorem nodup_map_values_of_told {m : Std.ExtTreeMap String α} {f : α → Option String}
    (told : ∀ (name : String) (value : α), m[name]? = some value → f value = some name) :
    (m.values.map f).Nodup := by
  rw [nodup_map_values]
  intro left right first second atLeft atRight same
  rw [told left first atLeft, told right second atRight] at same
  exact Option.some.inj same

/-- Among items that differ in their keys, one has the key of one of them. -/
theorem filter_key_eq [BEq κ] [LawfulBEq κ] {items : List α} {key : α → κ}
    (distinct : (items.map key).Nodup) {item : α} (listed : item ∈ items) :
    (items.filter fun other => key other == key item) = [item] := by
  induction items with
  | nil => cases listed
  | cons first rest ih =>
    obtain ⟨apart, others⟩ := List.nodup_cons.mp distinct
    have differs {other : α} (there : other ∈ rest) : key first ≠ key other :=
      fun same => apart (List.mem_map.mpr ⟨other, there, same.symm⟩)
    rw [List.filter_cons]
    rcases List.mem_cons.mp listed with rfl | inside
    · have none : (rest.filter fun other => key other == key item) = [] :=
        List.filter_eq_nil_iff.mpr fun other there same => differs there (eq_of_beq same).symm
      rw [if_pos (beq_self_eq_true _), none]
    · rw [if_neg fun same => differs inside (eq_of_beq same)]
      exact ih others inside

end CoreWatch.Maps
