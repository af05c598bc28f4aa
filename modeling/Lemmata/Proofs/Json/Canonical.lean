import Lemmata.Proofs.Json.Decode
import Mathlib.Data.List.Nodup

/-! # The canonical text tells values apart -/

namespace Lemmata.Json

variable {v w : Json} {vs : List Json} {ms ns : List (String × Json)}

/-! ## Going through a value by its parts -/

theorem inductParts {P : Json → Prop} (null : P .null) (bool : ∀ b, P (.bool b))
    (number : ∀ n, P (.number n)) (string : ∀ s, P (.string s))
    (array : ∀ vs, (∀ v ∈ vs, P v) → P (.array vs))
    (object : ∀ ms, (∀ m ∈ ms, P m.2) → P (.object ms)) : ∀ v, P v
  | .null => null
  | .bool b => bool b
  | .number n => number n
  | .string s => string s
  | .array vs => array vs fun v _ => inductParts null bool number string array object v
  | .object ms => object ms fun m _ => inductParts null bool number string array object m.2
termination_by v => sizeOf v
decreasing_by
  · have := List.sizeOf_lt_of_mem ‹v ∈ vs›
    simp only [Json.array.sizeOf_spec]
    omega
  · have := List.sizeOf_lt_of_mem ‹m ∈ ms›
    have : sizeOf m.2 < sizeOf m := by
      obtain ⟨key, v⟩ := m
      simp only [Prod.mk.sizeOf_spec]
      omega
    simp only [Json.object.sizeOf_spec]
    omega

/-! ## Sorting the members -/

theorem keyLe_trans (a b c : String × Json) (hab : keyLe a b = true) (hbc : keyLe b c = true) :
    keyLe a c = true := by
  rw [keyLe, decide_eq_true_iff] at *
  exact String.le_trans hab hbc

theorem keyLe_total (a b : String × Json) : (keyLe a b || keyLe b a) = true := by
  rw [Bool.or_eq_true, keyLe, keyLe, decide_eq_true_iff, decide_eq_true_iff]
  exact String.le_total a.1 b.1

theorem sortedItems_eq_map (vs : List Json) : sortedItems vs = vs.map sorted := by
  induction vs with
  | nil => rfl
  | cons v rest ih => rw [sortedItems, ih, List.map_cons]

theorem sortedMembers_eq_map (ms : List (String × Json)) :
    sortedMembers ms = ms.map fun m => (m.1, m.2.sorted) := by
  induction ms with
  | nil => rfl
  | cons m rest ih => rw [sortedMembers, ih, List.map_cons]

theorem keys_sortedMembers (ms : List (String × Json)) :
    (sortedMembers ms).map Prod.fst = ms.map Prod.fst := by
  rw [sortedMembers_eq_map, List.map_map]
  rfl

theorem sorted_array (vs : List Json) : (Json.array vs).sorted = .array (vs.map sorted) := by
  rw [sorted, sortedItems_eq_map]

theorem mem_sortedMembers_mergeSort {m : String × Json} :
    m ∈ (sortedMembers ms).mergeSort keyLe ↔ ∃ n ∈ ms, (n.1, n.2.sorted) = m := by
  rw [List.mem_mergeSort, sortedMembers_eq_map, List.mem_map]

theorem pairwise_sortedMembers (h : (ms.map Prod.fst).Nodup) :
    ((sortedMembers ms).mergeSort keyLe).Pairwise fun a b => a.1 < b.1 := by
  have hle := List.pairwise_mergeSort keyLe_trans keyLe_total (sortedMembers ms)
  have hperm := (List.mergeSort_perm (sortedMembers ms) keyLe).map Prod.fst
  rw [keys_sortedMembers] at hperm
  have hne := List.pairwise_map.mp (hperm.nodup_iff.mpr h)
  refine (hle.and hne).imp fun {a b} hab => ?_
  exact Std.lt_of_le_of_ne (of_decide_eq_true hab.1) hab.2

theorem sorted_object_of_perm (h : (sortedMembers ms).Perm ns)
    (hkeys : (ns.map Prod.fst).Pairwise (· < ·)) : (object ms).sorted = .object ns := by
  have hle : ns.Pairwise fun m n => keyLe m n = true :=
    (List.pairwise_map.mp hkeys).imp fun hlt => decide_eq_true (Std.le_of_lt hlt)
  have hperm := (List.mergeSort_perm (sortedMembers ms) keyLe).trans h
  have hnodup := (hperm.map Prod.fst).nodup_iff.mpr (hkeys.imp Std.ne_of_lt)
  rw [sorted, List.Perm.eq_of_pairwise ?_
    (List.pairwise_mergeSort keyLe_trans keyLe_total (sortedMembers ms)) hle hperm]
  intro a b ha hb hab hba
  exact List.inj_on_of_nodup_map hnodup ha (hperm.mem_iff.mpr hb)
    (String.le_antisymm (of_decide_eq_true hab) (of_decide_eq_true hba))

theorem sorted_ofDict (d : Dict) : (ofDict d).sorted = ofDict d := by
  have hmembers : sortedMembers (d.entries.map fun e => (e.1, Json.string e.2)) =
      d.entries.map fun e => (e.1, Json.string e.2) := by
    rw [sortedMembers_eq_map, List.map_map]
    rfl
  have hle : (d.entries.map fun e => (e.1, Json.string e.2)).Pairwise
      fun a b => keyLe a b = true := by
    rw [List.pairwise_map]
    exact d.sorted.imp fun {a b} hab => decide_eq_true (Std.le_of_lt hab)
  rw [ofDict, sorted, hmembers, List.mergeSort_of_pairwise hle]

theorem ofDict_inj {d e : Dict} : ofDict d = ofDict e ↔ d = e := by
  constructor
  · intro h
    have hinj : Function.Injective fun e : String × String => (e.1, Json.string e.2) := by
      rintro ⟨k, a⟩ ⟨l, b⟩ h
      cases h
      rfl
    exact Dict.ext (List.map_injective_iff.mpr hinj (Json.object.inj h))
  · rintro rfl
    rfl

/-! ## What sorting keeps -/

mutual
def isDistinct : Json → Bool
  | .array items => areDistinct items
  | .object members => decide (members.map Prod.fst).Nodup && haveDistinct members
  | _ => true

def areDistinct : List Json → Bool
  | [] => true
  | v :: rest => isDistinct v && areDistinct rest

def haveDistinct : List (String × Json) → Bool
  | [] => true
  | (_, v) :: rest => isDistinct v && haveDistinct rest
end

theorem areDistinct_iff : areDistinct vs = true ↔ ∀ v ∈ vs, v.isDistinct = true := by
  induction vs with
  | nil => simp [areDistinct]
  | cons v rest ih => simp [areDistinct, ih]

theorem haveDistinct_iff : haveDistinct ms = true ↔ ∀ m ∈ ms, m.2.isDistinct = true := by
  induction ms with
  | nil => simp [haveDistinct]
  | cons m rest ih => simp [haveDistinct, ih]

theorem isDistinct_object : (Json.object ms).isDistinct = true ↔
    (ms.map Prod.fst).Nodup ∧ ∀ m ∈ ms, m.2.isDistinct = true := by
  rw [isDistinct, Bool.and_eq_true, decide_eq_true_iff, haveDistinct_iff]

theorem isExact_sorted (h : v.isExact = true) : v.sorted.isExact = true := by
  induction v using inductParts with
  | null | bool | number | string => exact h
  | array vs ih =>
    rw [isExact, areExact_iff] at h
    rw [sorted_array, isExact, areExact_iff]
    intro w hw
    obtain ⟨v, hv, rfl⟩ := List.mem_map.mp hw
    exact ih v hv (h v hv)
  | object ms ih =>
    rw [isExact, haveExact_iff] at h
    rw [sorted, isExact, haveExact_iff]
    intro m hm
    obtain ⟨n, hn, rfl⟩ := mem_sortedMembers_mergeSort.mp hm
    exact ih n hn (h n hn)

theorem depth_sorted_le (v : Json) : v.sorted.depth ≤ v.depth := by
  induction v using inductParts with
  | null | bool | number | string => exact Nat.le_refl 0
  | array vs ih =>
    rw [sorted_array, depth, depth, Nat.add_le_add_iff_right, depthItems_le_iff]
    intro w hw
    obtain ⟨v, hv, rfl⟩ := List.mem_map.mp hw
    exact Nat.le_trans (ih v hv) (depthItems_le_iff.mp (Nat.le_refl _) v hv)
  | object ms ih =>
    rw [sorted, depth, depth, Nat.add_le_add_iff_right, depthMembers_le_iff]
    intro m hm
    obtain ⟨n, hn, rfl⟩ := mem_sortedMembers_mergeSort.mp hm
    exact Nat.le_trans (ih n hn) (depthMembers_le_iff.mp (Nat.le_refl _) n hn)

/-- A reader leaves sorted members where they are. -/
theorem tidy_sorted (h : v.isDistinct = true) : v.sorted.tidy = v.sorted := by
  induction v using inductParts with
  | null | bool | number | string => rfl
  | array vs ih =>
    rw [isDistinct, areDistinct_iff] at h
    rw [sorted_array, tidy, tidyItems_eq_map, List.map_map]
    exact congrArg Json.array (List.map_congr_left fun v hv => ih v hv (h v hv))
  | object ms ih =>
    obtain ⟨hnodup, hdistinct⟩ := isDistinct_object.mp h
    have hsame : ∀ m ∈ (sortedMembers ms).mergeSort keyLe, (m.1, m.2.tidy) = id m := by
      intro m hm
      obtain ⟨n, hn, rfl⟩ := mem_sortedMembers_mergeSort.mp hm
      exact Prod.ext rfl (ih n hn (hdistinct n hn))
    rw [sorted, tidy, tidyMembers_of_pairwise (by simpa using pairwise_sortedMembers hnodup),
      List.nil_append, List.map_congr_left hsame, List.map_id]

/-! ## Canonical texts -/

/-- A value that its canonical text determines, up to the order of members. -/
structure Plain (depth : Nat) (v : Json) : Prop where
  exact : v.isExact = true
  depth_le : v.depth ≤ depth
  distinct : v.isDistinct = true

namespace Plain

variable {m n : Nat}

theorem mono (h : v.Plain m) (hle : m ≤ n) : v.Plain n :=
  ⟨h.exact, Nat.le_trans h.depth_le hle, h.distinct⟩

theorem string (s : String) : (Json.string s).Plain n :=
  ⟨rfl, Nat.zero_le n, rfl⟩

theorem bool (b : Bool) : (Json.bool b).Plain n :=
  ⟨rfl, Nat.zero_le n, rfl⟩

theorem array (h : ∀ v ∈ vs, v.Plain n) : (Json.array vs).Plain (n + 1) where
  exact := areExact_iff.mpr fun v hv => (h v hv).exact
  depth_le := Nat.succ_le_succ (depthItems_le_iff.mpr fun v hv => (h v hv).depth_le)
  distinct := areDistinct_iff.mpr fun v hv => (h v hv).distinct

theorem object (hkeys : (ms.map Prod.fst).Nodup) (h : ∀ m ∈ ms, m.2.Plain n) :
    (Json.object ms).Plain (n + 1) where
  exact := haveExact_iff.mpr fun m hm => (h m hm).exact
  depth_le := Nat.succ_le_succ (depthMembers_le_iff.mpr fun m hm => (h m hm).depth_le)
  distinct := isDistinct_object.mpr ⟨hkeys, fun m hm => (h m hm).distinct⟩

theorem ofStrings (items : List String) : (ofStrings items).Plain (n + 1) := by
  refine array fun v hv => ?_
  obtain ⟨s, -, rfl⟩ := List.mem_map.mp hv
  exact string s

theorem ofDict (d : Dict) : (ofDict d).Plain (n + 1) := by
  refine object ?_ fun m hm => ?_
  · rw [List.map_map, List.Nodup, List.pairwise_map]
    exact d.sorted.imp String.ne_of_lt
  · obtain ⟨e, -, rfl⟩ := List.mem_map.mp hm
    exact string e.2

theorem parse?_canonical (h : v.Plain Reader.nestingLimit) :
    parse? v.canonical = some v.sorted := by
  rw [canonical, parse?_text (isExact_sorted h.exact)
    (Nat.le_trans (depth_sorted_le v) h.depth_le), tidy_sorted h.distinct]

theorem canonical_eq_iff (hv : v.Plain Reader.nestingLimit) (hw : w.Plain Reader.nestingLimit) :
    v.canonical = w.canonical ↔ v.sorted = w.sorted := by
  constructor
  · intro h
    have hread := hv.parse?_canonical
    rw [h, hw.parse?_canonical] at hread
    exact (Option.some.inj hread).symm
  · intro h
    rw [canonical, canonical, h]

end Plain

end Lemmata.Json
