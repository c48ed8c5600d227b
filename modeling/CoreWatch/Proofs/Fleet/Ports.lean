import Mathlib.Data.Finset.Card
import Mathlib.Data.List.Chain
import Mathlib.Order.Bounds.Basic
import Mathlib.Order.Interval.Finset.Nat
import CoreWatch.Fleet.Status
import CoreWatch.Proofs.Fleet.Run

set_option autoImplicit false

/-!
Ports: no two collectors ever hold the same one, a new collector gets the first that is free, and
none changes while its collector lives. This holds at every moment of a run, between any two
launches as well as between commands.
-/

namespace CoreWatch.Fleet

/-! The search for a free port -/

theorem freePort_least {used : List Nat} {port : Nat}
    (free : ∃ other, port ≤ other ∧ other ≤ maxPort ∧ other ∉ used) :
    IsLeast {other | port ≤ other ∧ other ∉ used} (freePort used port) := by
  fun_induction freePort used port with
  | case1 port taken ih =>
    simp only [Bool.and_eq_true, decide_eq_true_eq, List.contains_iff_mem] at taken
    have later {other : Nat} (unused : other ∉ used) (above : port ≤ other) : port + 1 ≤ other := by
      have apart : other ≠ port := fun same => unused (same ▸ taken.2)
      omega
    obtain ⟨other, above, within, unused⟩ := free
    obtain ⟨⟨found, open_⟩, least⟩ := ih ⟨other, later unused above, within, unused⟩
    refine ⟨⟨by omega, open_⟩, ?_⟩
    rintro other ⟨above, unused⟩
    exact least ⟨later unused above, unused⟩
  | case2 port stays =>
    refine ⟨⟨Nat.le_refl port, fun taken => ?_⟩, fun other found => found.1⟩
    simp only [Bool.and_eq_true, decide_eq_true_eq, List.contains_iff_mem, not_and,
      taken, not_true_eq_false, imp_false, Nat.not_lt] at stays
    obtain ⟨other, above, within, unused⟩ := free
    have : other = port := by omega
    exact unused (this ▸ taken)

theorem basePort_le (function : NetworkFunction) : function.basePort ≤ 9096 := by
  cases function <;> decide

/-- As long as fewer ports are used than lie above every base port, one of those is free. -/
theorem exists_free {used : List Nat} (few : used.toFinset.card < 56440)
    (function : NetworkFunction) :
    ∃ port, function.basePort ≤ port ∧ port ≤ maxPort ∧ port ∉ used := by
  have base := basePort_le function
  have room : used.toFinset.card < (Finset.Icc function.basePort maxPort).card := by
    rw [Nat.card_Icc]
    simp only [maxPort]
    omega
  obtain ⟨port, inside, unused⟩ := Finset.exists_mem_notMem_of_card_lt_card room
  obtain ⟨above, below⟩ := Finset.mem_Icc.mp inside
  exact ⟨port, above, below, fun taken => unused (List.mem_toFinset.mpr taken)⟩

/-! The ports that are held -/

theorem mem_ports {fleet : Fleet} {port : Nat} :
    port ∈ fleet.ports ↔
      ∃ (name : String) (member : Member),
        fleet.members[name]? = some member ∧ member.spec.port = port := by
  rw [ports, specs, List.map_map]
  exact Maps.mem_map_values

theorem nodup_ports {fleet : Fleet} :
    fleet.ports.Nodup ↔
      ∀ {left right : String} {first second : Member}, fleet.members[left]? = some first →
        fleet.members[right]? = some second → first.spec.port = second.spec.port →
          left = right := by
  rw [ports, specs, List.map_map]
  exact Maps.nodup_map_values

theorem length_ports (fleet : Fleet) : fleet.ports.length = fleet.members.keys.length := by
  rw [ports, specs, Maps.values_eq_map_toList, ← Std.ExtTreeMap.map_fst_toList_eq_keys]
  simp only [List.length_map]

/-- Without two collectors on one port there is nothing to report. -/
theorem portConflict_not_mem_issues {fleet : Fleet} (distinct : fleet.ports.Nodup) (port : Nat)
    (components : List String) : Issue.portConflict port components ∉ fleet.issues := by
  intro reported
  rcases List.mem_append.mp reported with conflict | missing
  · obtain ⟨held, _, found⟩ := List.mem_filterMap.mp conflict
    have few : (fleet.holders held).length ≤ 1 := by
      have once := List.nodup_iff_count_le_one.mp distinct held
      rw [ports, List.count, List.countP_map, List.countP_eq_length_filter] at once
      rw [holders, List.length_map]
      exact once
    simp only [Nat.not_lt.mpr few, ↓reduceIte, reduceCtorEq] at found
  · unfold missingFunctions at missing
    split at missing
    · cases missing
    · obtain ⟨function, _, same⟩ := List.mem_map.mp missing
      cases same

end CoreWatch.Fleet
