import CoreWatch.Containers.Usage
import CoreWatch.Proofs.Double.Roundoff
import Mathlib.Algebra.BigOperators.Group.List.Basic
import Mathlib.Algebra.Order.Floor.Semifield
import Mathlib.Data.List.Forall2
import Mathlib.Data.Rat.Floor

set_option autoImplicit false

/-!
The traffic of a container: totals over its network interfaces, and over the entries of block device
operations. They are the exact sums of what can be read, cut to 64 bits once, so that no order of
interfaces or entries matters.
-/

namespace CoreWatch

namespace Text

/-! Letter case -/

theorem toNat_toLower (c : Char) :
    c.toLower.toNat = if 65 ≤ c.toNat ∧ c.toNat ≤ 90 then c.toNat + 32 else c.toNat := by
  have capital : c.val ≥ 'A'.val ∧ c.val ≤ 'Z'.val ↔ 65 ≤ c.toNat ∧ c.toNat ≤ 90 := Iff.rfl
  delta Char.toLower
  split
  next inside =>
    have range := capital.mp inside
    rw [if_pos range]
    change (c.val + ('a'.val - 'A'.val)).toNat = c.toNat + 32
    rw [UInt32.toNat_add]
    exact Nat.mod_eq_of_lt (show c.toNat + 32 < 2 ^ 32 by omega)
  next outside => rw [if_neg (mt capital.mpr outside)]

theorem toNat_toUpper (c : Char) :
    c.toUpper.toNat = if 97 ≤ c.toNat ∧ c.toNat ≤ 122 then c.toNat - 32 else c.toNat := by
  have small : 'a'.val ≤ c.val ∧ c.val ≤ 'z'.val ↔ 97 ≤ c.toNat ∧ c.toNat ≤ 122 := Iff.rfl
  delta Char.toUpper
  split
  next inside =>
    have range := small.mp inside
    rw [if_pos range]
    have offset : ('A'.val - 'a'.val).toNat = 2 ^ 32 - 32 := rfl
    change (c.val + ('A'.val - 'a'.val)).toNat = c.toNat - 32
    rw [UInt32.toNat_add, offset]
    change (c.toNat + _) % _ = _
    omega
  next outside => rw [if_neg (mt small.mpr outside)]

/-- Two characters become one small letter: itself, and its capital. -/
theorem toLower_eq_iff {letter : Char} (small : letter.isLower = true) (c : Char) :
    c.toLower = letter ↔ c = letter ∨ c = letter.toUpper := by
  have range : 97 ≤ letter.toNat ∧ letter.toNat ≤ 122 :=
    (Bool.and_eq_true_iff.mp small).imp of_decide_eq_true of_decide_eq_true
  rw [← Char.toNat_inj, ← Char.toNat_inj, ← Char.toNat_inj, toNat_toLower, toNat_toUpper,
    if_pos range]
  split <;> omega

/-- A word of small letters, each of which may be a capital as well. -/
def InAnyCase (word text : String) : Prop :=
  List.Forall₂ (fun c letter => c = letter ∨ c = letter.toUpper) text.toList word.toList

instance (word text : String) : Decidable (InAnyCase word text) :=
  inferInstanceAs (Decidable
    (List.Forall₂ (fun c letter => c = letter ∨ c = letter.toUpper) text.toList word.toList))

theorem lowercase_eq_iff {word : String} (small : word.toList.all Char.isLower = true)
    (text : String) : lowercase text = word ↔ InAnyCase word text := by
  rw [lowercase, ← String.toList_inj, String.toList_ofList, lower, InAnyCase]
  generalize word.toList = letters at small
  generalize text.toList = chars
  induction letters generalizing chars with
  | nil => cases chars <;> simp
  | cons letter letters ih =>
    rw [List.all_cons, Bool.and_eq_true] at small
    cases chars with
    | nil => simp
    | cons c chars =>
      rw [List.map_cons, List.cons.injEq, toLower_eq_iff small.1, ih small.2, List.forall₂_cons]

end Text

/-! Whole parts -/

namespace Double

theorem wholePart_positive (bound : Nat) (rank : Fin topRank) :
    wholePart bound (.finite false rank) = min (units rank / one) bound := rfl

theorem wholePart_negative (bound : Nat) (rank : Fin topRank) :
    wholePart bound (.finite true rank) = 0 := rfl

theorem isNonneg_positive (rank : Fin topRank) : isNonneg (.finite false rank) = true :=
  Bool.or_true _

theorem floor_positive (units one : Nat) : ⌊(1 : ℚ) * (units / one)⌋₊ = units / one := by
  rw [one_mul, Nat.floor_div_eq_div]

theorem floor_negative (units one : Nat) : ⌊(-1 : ℚ) * (units / one)⌋₊ = 0 := by
  have share : (0 : ℚ) ≤ units / one := by positivity
  exact Nat.floor_of_nonpos (by linarith)

end Double

namespace Container

/-! Counts -/

/-- The largest count that 64 bits hold. -/
def topCount : Nat := 2 ^ 64 - 1

theorem maxCount_eq : Usage.maxCount = topCount := by decide

/--
What a value counts for: a number that is not negative for its whole part, at most the largest
count, and anything else for nothing.
-/
def countGiven : Json → Nat
  | .int n => min n.toNat topCount
  | .real (.infinite false) => topCount
  | .real x => (x.toRat?.map fun value => min ⌊value⌋₊ topCount).getD 0
  | _ => 0

def memberCount (key : String) (json : Json) : Nat :=
  ((json.get? key).map countGiven).getD 0

/-- An exact sum, cut to 64 bits. -/
def cutSum (counts : List Nat) : Nat :=
  min counts.sum topCount

theorem countGiven_finite (negative : Bool) (rank : Fin topRank) :
    countGiven (.real (.finite negative rank)) =
      min ⌊(if negative then -1 else 1) * ((Double.units rank : ℚ) / Double.one)⌋₊ topCount :=
  rfl

theorem wholePart_topCount (x : Double) :
    (if x.isNonneg then x.wholePart topCount else 0) = countGiven (.real x) := by
  cases x with
  | nan => rfl
  | infinite negative => cases negative <;> rfl
  | finite negative rank =>
    rw [countGiven_finite]
    cases negative with
    | false =>
      rw [Double.isNonneg_positive, if_pos rfl, Double.wholePart_positive,
        if_neg Bool.false_ne_true, Double.floor_positive]
    | true =>
      rw [Double.wholePart_negative, ite_self, if_pos rfl, Double.floor_negative, Nat.zero_min]

theorem readCount?_eq (json : Json) : (Usage.readCount? json).getD 0 = countGiven json := by
  cases json with
  | int n =>
    cases n with
    | ofNat n => rw [Usage.readCount?, maxCount_eq]; rfl
    | negSucc n => exact (Nat.zero_min topCount).symm
  | real x =>
    rw [← wholePart_topCount, Usage.readCount?, maxCount_eq]
    cases x.isNonneg <;> rfl
  | _ => rfl

theorem countOf_eq (key : String) (json : Json) :
    Usage.countOf key json = memberCount key json := by
  rw [Usage.countOf, memberCount]
  cases json.get? key with
  | none => rfl
  | some value => exact readCount?_eq value

/-- To cut every partial sum is to cut the whole sum. -/
theorem foldl_cut (counts : List Nat) {sum : Nat} (held : sum ≤ topCount) :
    counts.foldl (fun sum n => min (sum + n) topCount) sum = min (sum + counts.sum) topCount := by
  induction counts generalizing sum with
  | nil => rw [List.foldl_nil, List.sum_nil, Nat.add_zero, Nat.min_eq_left held]
  | cons count counts ih =>
    rw [List.foldl_cons, ih (Nat.min_le_right _ _), List.sum_cons]
    omega

theorem total_eq (counts : List Nat) : Usage.total counts = cutSum counts := by
  rw [Usage.total, maxCount_eq, foldl_cut counts (Nat.zero_le topCount), Nat.zero_add, cutSum]

theorem total_countOf (key : String) (items : List Json) :
    Usage.total (items.map (Usage.countOf key)) = cutSum (items.map (memberCount key)) := by
  rw [total_eq, funext (countOf_eq key)]

theorem cutSum_perm {items reordered : List Json} (same : items.Perm reordered) (key : String) :
    cutSum (items.map (memberCount key)) = cutSum (reordered.map (memberCount key)) := by
  rw [cutSum, cutSum, (same.map (memberCount key)).sum_eq]

/-! Interfaces and entries -/

/-- The network interfaces that a document tells of. -/
def interfaces? (stats : Json) : Option (List Json) :=
  ((stats.get? "networks").bind Json.members?).map (·.map (·.2))

/-- The first of the sections of block devices that is a record. -/
def blockSection? (stats : Json) : Option (List (String × Json)) :=
  (["blkio_stats", "blockio_stats", "blokio_stats"].filterMap fun name =>
    (stats.get? name).bind Json.members?).head?

/-- The entries of block device operations. -/
def blockEntries? (stats : Json) : Option (List Json) :=
  (blockSection? stats).bind fun members =>
    ((Json.obj members).get? "io_service_bytes_recursive").bind Json.items?

/-- Whether an entry tells of an operation, whose name may be in any letter case. -/
def tellsOf (operation : String) (entry : Json) : Bool :=
  match entry.get? "op" with
  | some (.str name) => decide (Text.InAnyCase operation name)
  | _ => false

theorem isOperation_eq {operation : String} (small : operation.toList.all Char.isLower = true)
    (entry : Json) : Usage.isOperation operation entry = tellsOf operation entry := by
  rw [Usage.isOperation, tellsOf]
  cases entry.get? "op" with
  | none => rfl
  | some told =>
    cases told with
    | str name =>
      rw [Bool.eq_iff_iff, decide_eq_true_eq, ← Text.lowercase_eq_iff small]
      exact beq_iff_eq
    | _ => rfl

theorem readNetwork_eq {stats : Json} {interfaces : List Json}
    (told : interfaces? stats = some interfaces) :
    Usage.readNetwork stats = .ok (cutSum (interfaces.map (memberCount "rx_bytes")),
      cutSum (interfaces.map (memberCount "tx_bytes"))) := by
  obtain ⟨members, found, rfl⟩ := Option.map_eq_some_iff.mp told
  obtain ⟨networks, there, record⟩ := Option.bind_eq_some_iff.mp found
  cases networks with
  | obj listed =>
    obtain rfl := Option.some.inj record
    rw [Usage.readNetwork, Usage.section?, there, ← total_countOf, ← total_countOf]
    rfl
  | _ => cases record

/-- The section is the first that is a record. -/
theorem findSome?_blockSections {stats : Json} {members : List (String × Json)}
    (first : blockSection? stats = some members) :
    (Usage.blockSections.findSome? fun name =>
      (stats.get? name).filter fun json => json.members?.isSome) = some (.obj members) := by
  have record (value? : Option Json) : (value?.filter fun json => json.members?.isSome) =
      (value?.bind Json.members?).map Json.obj := by
    cases value? with
    | none => rfl
    | some value => cases value <;> rfl
  rw [blockSection?, List.head?_filterMap] at first
  simp only [record]
  exact (List.map_findSome? (g := Json.obj)).symm.trans (congrArg (Option.map Json.obj) first)

theorem readBlocks_eq {stats : Json} {entries : List Json}
    (told : blockEntries? stats = some entries) :
    Usage.readBlocks stats =
      .ok (cutSum ((entries.filter (tellsOf "read")).map (memberCount "value")),
        cutSum ((entries.filter (tellsOf "write")).map (memberCount "value"))) := by
  obtain ⟨members, first, listed⟩ := Option.bind_eq_some_iff.mp told
  rw [Usage.readBlocks]
  simp only [findSome?_blockSections first, listed, Option.getD_some]
  rw [← total_countOf, ← total_countOf, ← funext (isOperation_eq (by decide)),
    ← funext (isOperation_eq (by decide))]
  rfl

section
variable {stats : Json} (id name : String) (previous : Option CpuCounters) (now : Int)

theorem ofStats_traffic {interfaces : List Json} (told : interfaces? stats = some interfaces) :
    let usage := (Usage.ofStats stats id name previous now).1
    usage.received = cutSum (interfaces.map (memberCount "rx_bytes")) ∧
      usage.sent = cutSum (interfaces.map (memberCount "tx_bytes")) := by
  simp only [Usage.ofStats, readNetwork_eq told]
  exact ⟨rfl, rfl⟩

theorem ofStats_blocks {entries : List Json} (told : blockEntries? stats = some entries) :
    let usage := (Usage.ofStats stats id name previous now).1
    usage.blockRead = cutSum ((entries.filter (tellsOf "read")).map (memberCount "value")) ∧
      usage.blockWritten =
        cutSum ((entries.filter (tellsOf "write")).map (memberCount "value")) := by
  simp only [Usage.ofStats, readBlocks_eq told]
  exact ⟨rfl, rfl⟩

end

/--
The traffic over the network is the exact sum of what all interfaces tell, and that of block devices
the exact sum of what the entries of either operation tell, each cut to 64 bits. So it does not
matter in which order a document lists interfaces or entries.
-/
theorem traffic_exact (id name : String) (previous : Option CpuCounters) (now : Int)
    (stats : Json) :
    let tell (stats : Json) := (Usage.ofStats stats id name previous now).1
    (∀ interfaces, interfaces? stats = some interfaces →
      (tell stats).received = cutSum (interfaces.map (memberCount "rx_bytes")) ∧
      (tell stats).sent = cutSum (interfaces.map (memberCount "tx_bytes")) ∧
      ∀ other reordered, interfaces? other = some reordered → interfaces.Perm reordered →
        (tell other).received = (tell stats).received ∧ (tell other).sent = (tell stats).sent) ∧
    ∀ entries, blockEntries? stats = some entries →
      (tell stats).blockRead =
        cutSum ((entries.filter (tellsOf "read")).map (memberCount "value")) ∧
      (tell stats).blockWritten =
        cutSum ((entries.filter (tellsOf "write")).map (memberCount "value")) ∧
      ∀ other reordered, blockEntries? other = some reordered → entries.Perm reordered →
        (tell other).blockRead = (tell stats).blockRead ∧
          (tell other).blockWritten = (tell stats).blockWritten := by
  intro tell
  constructor
  · intro interfaces told
    obtain ⟨received, sent⟩ := ofStats_traffic id name previous now told
    refine ⟨received, sent, fun other reordered told' same => ?_⟩
    obtain ⟨received', sent'⟩ := ofStats_traffic id name previous now told'
    exact ⟨received'.trans ((cutSum_perm same _).symm.trans received.symm),
      sent'.trans ((cutSum_perm same _).symm.trans sent.symm)⟩
  · intro entries told
    obtain ⟨read, written⟩ := ofStats_blocks id name previous now told
    refine ⟨read, written, fun other reordered told' same => ?_⟩
    obtain ⟨read', written'⟩ := ofStats_blocks id name previous now told'
    exact ⟨read'.trans ((cutSum_perm (same.filter _) _).symm.trans read.symm),
      written'.trans ((cutSum_perm (same.filter _) _).symm.trans written.symm)⟩

/-- Interfaces of which one alone has received all that can be counted. -/
def mixedInterfaces : List (String × Json) :=
  [("eth0", .obj [("rx_bytes", .nat topCount), ("tx_bytes", .real (.div (.ofNat 5) (.ofNat 2)))]),
    ("eth1", .obj [("rx_bytes", .nat 7), ("tx_bytes", .int (-3))]),
    ("lo", .str "down")]

def mixedEntries : List Json :=
  [.obj [("op", .str "Read"), ("value", .nat 4096)], .null,
    .obj [("op", .str "WRITE"), ("value", .nat 10)],
    .obj [("op", .str "Total"), ("value", .nat 4106)],
    .obj [("op", .str "read"), ("value", .nat 1)]]

def mixedStats (interfaces : List (String × Json)) (entries : List Json) : Json :=
  .obj [("networks", .obj interfaces), ("blkio_stats", .null),
    ("blockio_stats", .obj [("io_service_bytes_recursive", .arr entries)])]

/-- The totals of a document that is listed backwards. -/
theorem traffic_exact_backwards :
    let tell (stats : Json) := (Usage.ofStats stats "c0ffee" "upf" none 0).1
    let forwards := mixedStats mixedInterfaces mixedEntries
    let backwards := mixedStats mixedInterfaces.reverse mixedEntries.reverse
    interfaces? forwards = some (mixedInterfaces.map (·.2)) ∧
      interfaces? backwards = some (mixedInterfaces.reverse.map (·.2)) ∧
      blockEntries? forwards = some mixedEntries ∧
      blockEntries? backwards = some mixedEntries.reverse ∧
      (tell backwards).received = topCount ∧ (tell backwards).sent = 2 ∧
      (tell backwards).blockRead = 4097 ∧ (tell backwards).blockWritten = 10 := by
  intro tell forwards backwards
  obtain ⟨network, blocks⟩ := traffic_exact "c0ffee" "upf" none 0 forwards
  obtain ⟨-, -, reorder⟩ := network _ rfl
  obtain ⟨-, -, reorder'⟩ := blocks _ rfl
  obtain ⟨received, sent⟩ := reorder backwards _ rfl ((List.reverse_perm _).symm.map _)
  obtain ⟨read, written⟩ := reorder' backwards _ rfl (List.reverse_perm _).symm
  refine ⟨rfl, rfl, rfl, rfl, received.trans ?_, sent.trans ?_, read.trans ?_, written.trans ?_⟩
  all_goals decide +kernel

end Container
end CoreWatch
