import Lemmata.Proofs.Names
import Lemmata.Proofs.Store.Statements
import Mathlib.Data.Finset.Card

/-! # Tables hold each key once -/

namespace Lemmata.Table

variable {α : Type} [Keyed α] {t : Table α} {row : α} {key : String} {test : α → Bool}

def keys (t : Table α) : List String :=
  t.rows.map Keyed.key

def putAll (t : Table α) (rows : List α) : Table α :=
  rows.foldl put t

theorem putAll_concat (t : Table α) (rows : List α) (row : α) :
    t.putAll (rows ++ [row]) = (t.putAll rows).put row :=
  List.foldl_append

/-! ## Each key once -/

theorem keys_put (t : Table α) (row : α) :
    (t.put row).keys = Keyed.key row :: t.keys.filter (· != Keyed.key row) := by
  rw [keys, put, List.map_cons, erase, keys, List.filter_map]
  rfl

theorem nodup_keys_put (h : t.keys.Nodup) (row : α) : (t.put row).keys.Nodup := by
  rw [keys_put, List.nodup_cons]
  refine ⟨fun hmem => ?_, h.filter _⟩
  simpa using (List.mem_filter.mp hmem).2

theorem nodup_keys_putAll (h : t.keys.Nodup) (rows : List α) : (t.putAll rows).keys.Nodup := by
  induction rows generalizing t with
  | nil => exact h
  | cons row rest ih => exact ih (nodup_keys_put h row)

theorem nodup_keys_putAll_empty (rows : List α) : (empty.putAll rows).keys.Nodup :=
  nodup_keys_putAll (t := empty) List.nodup_nil rows

/-- What is left of a table is what no row replaced. -/
theorem rows_putAll (t : Table α) (rows : List α) :
    (t.putAll rows).rows = (empty.putAll rows).rows ++
      t.rows.filter fun r => Keyed.key r ∉ rows.map Keyed.key := by
  induction rows using List.reverseRecOn with
  | nil => simp [putAll, empty]
  | append_singleton rows row ih =>
    have hleft : (t.rows.filter fun r => Keyed.key r ∉ rows.map Keyed.key).filter
        (fun r => Keyed.key r != Keyed.key row) =
          t.rows.filter fun r => Keyed.key r ∉ (rows ++ [row]).map Keyed.key := by
      rw [List.filter_filter]
      refine List.filter_congr fun r _ => ?_
      rw [Bool.eq_iff_iff]
      simp [and_comm]
    rw [putAll_concat, putAll_concat, put, put, erase, erase, ih, List.filter_append, hleft]
    rfl

theorem keys_putAll_empty {rows : List α} :
    key ∈ (empty.putAll rows).keys ↔ key ∈ rows.map Keyed.key := by
  induction rows using List.reverseRecOn with
  | nil => rfl
  | append_singleton rows row ih =>
    rw [putAll_concat, keys_put, List.mem_cons, List.mem_filter, ih, List.map_append,
      List.mem_append, List.map_singleton, List.mem_singleton]
    by_cases heq : key = Keyed.key row <;> simp [heq]

theorem putAll_putAll (t : Table α) (rows : List α) :
    (t.putAll rows).putAll rows = t.putAll rows := by
  have hnew : ((empty.putAll rows).rows.filter fun r => Keyed.key r ∉ rows.map Keyed.key) = [] := by
    refine List.filter_eq_nil_iff.mpr fun r hr => ?_
    simpa using keys_putAll_empty.mp (List.mem_map_of_mem hr)
  have hrows : ((t.putAll rows).putAll rows).rows = (t.putAll rows).rows := by
    rw [rows_putAll (t.putAll rows), rows_putAll t, List.filter_append, hnew, List.nil_append,
      List.filter_filter]
    simp only [Bool.and_self]
  exact congrArg Table.mk hrows

theorem size_putAll_empty (rows : List α) :
    (empty.putAll rows).size = (rows.map Keyed.key).toFinset.card := by
  have hkeys : (empty.putAll rows).keys.toFinset = (rows.map Keyed.key).toFinset := by
    ext key
    rw [List.mem_toFinset, List.mem_toFinset, keys_putAll_empty]
  rw [← hkeys, List.toFinset_card_of_nodup (nodup_keys_putAll_empty rows), keys,
    List.length_map]
  rfl

theorem mem_rows_iff (h : t.keys.Nodup) : row ∈ t.rows ↔ t.get? (Keyed.key row) = some row := by
  refine ⟨fun hmem => ?_, fun hget => (mem_of_get? hget).1⟩
  have hfound : (t.rows.find? fun r => Keyed.key r == Keyed.key row).isSome = true :=
    List.find?_isSome.mpr ⟨row, hmem, beq_self_eq_true _⟩
  obtain ⟨r, hr⟩ := Option.isSome_iff_exists.mp hfound
  obtain ⟨hmem', hkey⟩ := mem_of_get? hr
  obtain rfl : r = row := List.inj_on_of_nodup_map h hmem' hmem hkey
  exact hr

/-! ## Listings -/

theorem mem_select : row ∈ t.select test ↔ row ∈ t.rows ∧ test row = true := by
  rw [select, List.mem_mergeSort, List.mem_filter]

theorem pairwise_filter_ne (h : t.keys.Nodup) (test : α → Bool) :
    (t.rows.filter test).Pairwise fun a b => Keyed.key a ≠ Keyed.key b :=
  (List.pairwise_map.mp h).filter test

theorem pairwise_select (h : t.keys.Nodup) (test : α → Bool) :
    (t.select test).Pairwise fun a b => Keyed.key a < Keyed.key b := by
  have hle : (t.select test).Pairwise fun a b => keyLe a b = true := by
    refine List.pairwise_mergeSort ?_ ?_ _
    · exact fun a b c => nameLe_trans _ _ _
    · exact fun a b => nameLe_total _ _
  have hne := (pairwise_filter_ne h test).perm (List.mergeSort_perm _ keyLe).symm Ne.symm
  exact (hle.and hne).imp fun ⟨hab, hne⟩ => Std.lt_of_le_of_ne (nameLe_iff.mp hab) hne

end Lemmata.Table
