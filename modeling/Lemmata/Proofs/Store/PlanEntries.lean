import Lemmata.Proofs.Store.Keys
import Lemmata.Proofs.Time.Written
import Mathlib.Data.Set.Card

/-! # What calls of the cache do to its entries -/

namespace Lemmata

/-! ## Rows that pass a test -/

namespace Table

variable {α : Type} [Keyed α] {t : Table α} {row : α} {key : String}

theorem get?_eq_some_iff (h : t.keys.Nodup) :
    t.get? key = some row ↔ row ∈ t.rows ∧ Keyed.key row = key := by
  refine ⟨mem_of_get?, ?_⟩
  rintro ⟨hmem, rfl⟩
  exact (mem_rows_iff h).mp hmem

theorem nodup_keys_filter (h : t.keys.Nodup) (test : α → Bool) :
    (Table.mk (t.rows.filter test)).keys.Nodup :=
  h.sublist (List.filter_sublist.map Keyed.key)

theorem get?_filter (h : t.keys.Nodup) (test : α → Bool) (key : String) :
    (Table.mk (t.rows.filter test)).get? key = (t.get? key).filter test := by
  ext row
  rw [get?_eq_some_iff (nodup_keys_filter h test), List.mem_filter, Option.filter_eq_some_iff,
    get?_eq_some_iff h, and_right_comm]

end Table

namespace Store

variable {s : Store} {now cutoff : Moment} {hash other : String} {e : ExecutedPlan}

/-! ## Each hash once -/

theorem nodup_saveExecuted (h : s.plans.keys.Nodup) (now : Moment) (e : ExecutedPlan) :
    (s.saveExecuted now e).plans.keys.Nodup :=
  Table.nodup_keys_put h _

theorem nodup_touch (h : s.plans.keys.Nodup) (now : Moment) (hash : String) :
    (s.touch now hash).plans.keys.Nodup := by
  unfold touch
  split
  · exact h
  · exact Table.nodup_keys_put h _

theorem nodup_prune (h : s.plans.keys.Nodup) (cutoff : Moment) :
    (s.prune cutoff).1.plans.keys.Nodup :=
  Table.nodup_keys_filter h _

/-! ## Single entries -/

theorem plans_get?_saveExecuted (s : Store) (now : Moment) (e : ExecutedPlan) :
    (s.saveExecuted now e).plans.get? e.planHash = some (.ofExecuted now e) :=
  Table.get?_put_self s.plans (.ofExecuted now e)

theorem plans_get?_saveExecuted_of_ne (now : Moment) (h : e.planHash ≠ hash) :
    (s.saveExecuted now e).plans.get? hash = s.plans.get? hash :=
  Table.get?_put_of_ne h

theorem plans_get?_touch (s : Store) (now : Moment) (hash : String) :
    (s.touch now hash).plans.get? hash =
      (s.plans.get? hash).map fun row => { row with lastAccess := now.text } := by
  unfold touch
  cases hrow : s.plans.get? hash with
  | none => exact hrow
  | some row =>
    obtain ⟨-, rfl⟩ := Table.mem_of_get? hrow
    exact Table.get?_put_self s.plans { row with lastAccess := now.text }

theorem plans_get?_touch_of_ne (h : hash ≠ other) :
    (s.touch now hash).plans.get? other = s.plans.get? other := by
  unfold touch
  cases hrow : s.plans.get? hash with
  | none => rfl
  | some row =>
    obtain ⟨-, rfl⟩ := Table.mem_of_get? hrow
    exact Table.get?_put_of_ne h

theorem plans_get?_prune (h : s.plans.keys.Nodup) (cutoff : Moment) (hash : String) :
    (s.prune cutoff).1.plans.get? hash =
      (s.plans.get? hash).filter fun row => !row.isOlderThan cutoff :=
  Table.get?_filter h _ hash

theorem isOlderThan_iff {row : PlanRow} {access : Moment} (haccess : access.InFourDigits)
    (hcutoff : cutoff.IsProper) (hyear : cutoff.date.year ≤ 9999)
    (hrow : row.lastAccess = access.text) :
    row.isOlderThan cutoff = true ↔ access.tick < cutoff.tick := by
  rw [PlanRow.isOlderThan, hrow, decide_eq_true_iff, Moment.text_lt_text_iff haccess hcutoff hyear]

theorem findExecuted_ne_none_iff :
    (s.findExecuted now hash).2 ≠ .ok none ↔ s.wasAccessed hash = true := by
  unfold findExecuted wasAccessed
  cases hrow : s.plans.get? hash with
  | none => simp [readRow]
  | some row =>
    have hfound : readRow PlanRow.executed (some row) ≠ .ok none := readRow_ne_none rfl
    simpa using hfound

/-! ## What is pruned -/

theorem prune_count (s : Store) (cutoff : Moment) :
    (s.prune cutoff).2 = (s.plans.rows.filter fun row => row.isOlderThan cutoff).length := by
  have hsize : s.plans.rows.length =
      (s.plans.rows.filter fun row => row.isOlderThan cutoff).length +
      (s.plans.rows.filter fun row => !row.isOlderThan cutoff).length :=
    List.length_eq_length_filter_add _
  rw [prune, Table.size, hsize, Nat.add_sub_cancel]

/-- The number of entries that are there no more. -/
theorem prune_count_eq_ncard (h : s.plans.keys.Nodup) (cutoff : Moment) : (s.prune cutoff).2 =
    {hash | s.wasAccessed hash = true ∧ (s.prune cutoff).1.wasAccessed hash = false}.ncard := by
  have hgone : {hash | s.wasAccessed hash = true ∧ (s.prune cutoff).1.wasAccessed hash = false} =
      ↑((s.plans.rows.filter fun row => row.isOlderThan cutoff).map Keyed.key).toFinset := by
    ext hash
    rw [Set.mem_ofPred_eq, List.coe_toFinset, Set.mem_ofPred_eq, List.mem_map]
    simp only [wasAccessed, plans_get?_prune h]
    constructor
    · rintro ⟨hthere, hgone⟩
      obtain ⟨row, hrow⟩ := Option.isSome_iff_exists.mp hthere
      obtain ⟨hmem, hkey⟩ := Table.mem_of_get? hrow
      refine ⟨row, List.mem_filter.mpr ⟨hmem, ?_⟩, hkey⟩
      simpa [hrow, Option.filter_some] using hgone
    · rintro ⟨row, hmem, rfl⟩
      obtain ⟨hmem, hold⟩ := List.mem_filter.mp hmem
      have hrow := (Table.mem_rows_iff h).mp hmem
      simp [hrow, Option.filter_some, hold]
  have hnodup : ((s.plans.rows.filter fun row => row.isOlderThan cutoff).map Keyed.key).Nodup :=
    Table.nodup_keys_filter h _
  rw [prune_count, hgone, Set.ncard_coe_finset, List.toFinset_card_of_nodup hnodup, List.length_map]

end Store

end Lemmata
