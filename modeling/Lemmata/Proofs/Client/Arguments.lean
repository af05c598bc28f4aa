import Lemmata.Client.Subprocess
import Lemmata.Proofs.Decimal.Typed
import Lemmata.Proofs.Text.ByteOrder

/-! # A program is given every parameter, in a fixed order -/

namespace Lemmata

/-! ## Sorting by a number -/

section Sorting

variable {α : Type} {R : α → α → Prop} {l : List α}

theorem keyLe_trans (key : α → Nat) (a b c : α) (hab : decide (key a ≤ key b) = true)
    (hbc : decide (key b ≤ key c) = true) : decide (key a ≤ key c) = true :=
  decide_eq_true (Nat.le_trans (of_decide_eq_true hab) (of_decide_eq_true hbc))

theorem keyLe_total (key : α → Nat) (a b : α) :
    (decide (key a ≤ key b) || decide (key b ≤ key a)) = true := by
  simpa using Nat.le_total (key a) (key b)

theorem filter_mergeSort_key (key : α → Nat) (n : Nat) (l : List α) :
    (l.mergeSort fun a b => decide (key a ≤ key b)).filter (key · == n) =
      l.filter (key · == n) := by
  have hkey : ∀ a ∈ l.filter (key · == n), key a = n := fun a ha =>
    eq_of_beq (List.mem_filter.mp ha).2
  have hsub : (l.filter (key · == n)).Sublist (l.mergeSort fun a b => decide (key a ≤ key b)) := by
    refine List.sublist_mergeSort (keyLe_trans key) (keyLe_total key) ?_ List.filter_sublist
    refine List.pairwise_of_forall_mem_list fun a ha b hb => ?_
    rw [hkey a ha, hkey b hb]
    exact decide_eq_true (Nat.le_refl n)
  have hsub := hsub.filter (key · == n)
  rw [List.filter_filter] at hsub
  simp only [Bool.and_self] at hsub
  exact (hsub.eq_of_length ((List.mergeSort_perm l _).filter _).length_eq.symm).symm

theorem pairwise_mergeSort_key (key : α → Nat) (h : l.Pairwise R) :
    (l.mergeSort fun a b => decide (key a ≤ key b)).Pairwise fun a b =>
      key a < key b ∨ key a = key b ∧ R a b := by
  have hsorted := List.pairwise_mergeSort (keyLe_trans key) (keyLe_total key) l
  rw [List.pairwise_iff_forall_sublist] at hsorted h ⊢
  intro a b hab
  rcases Nat.lt_or_eq_of_le (of_decide_eq_true (hsorted hab)) with hlt | heq
  · exact .inl hlt
  · refine .inr ⟨heq, h ?_⟩
    have hab := hab.filter (key · == key b)
    rw [filter_mergeSort_key] at hab
    simp only [heq, beq_self_eq_true, List.filter_cons_of_pos, List.filter_nil] at hab
    exact hab.trans List.filter_sublist

end Sorting

namespace Subprocess

/-! ## Positions -/

/-- The name is `arg` and the count. -/
def Position (name : String) (i : Nat) : Prop :=
  ∃ count, name.toList = "arg".toList ++ count ∧ Decimal.Counts count i

variable {name : String} {i : Nat}

theorem positional?_eq_some_iff : positional? name = some i ↔ Position name i := by
  unfold positional?
  split
  · next count hname =>
    rw [Decimal.count?_eq_some_iff]
    refine ⟨fun h => ⟨count, hname, h⟩, ?_⟩
    rintro ⟨other, hother, h⟩
    have hcount : "arg".toList ++ count = "arg".toList ++ other := hname.symm.trans hother
    obtain rfl := List.append_cancel_left hcount
    exact h
  · next hname =>
    refine ⟨nofun, ?_⟩
    rintro ⟨count, hcount, -⟩
    exact absurd hcount (hname count)

theorem isSome_positional?_iff : (positional? name).isSome = true ↔ ∃ i, Position name i := by
  simp only [Option.isSome_iff_exists, positional?_eq_some_iff]

def position (p : String × String) : Nat := (positional? p.1).getD 0

theorem position_eq {p : String × String} (h : Position p.1 i) : position p = i := by
  rw [position, positional?_eq_some_iff.mpr h, Option.getD_some]

/-! ## Arguments -/

def positionals (params : Dict) : List (String × String) :=
  (params.entries.filter fun p => (positional? p.1).isSome).mergeSort fun p q =>
    decide (position p ≤ position q)

def options (params : Dict) : List (String × String) :=
  params.entries.filter fun p => !(positional? p.1).isSome

theorem filterMap_position (entries : List (String × String)) :
    (entries.filterMap fun p => (positional? p.1).map fun i => (i, p.2)) =
      (entries.filter fun p => (positional? p.1).isSome).map fun p => (position p, p.2) := by
  induction entries with
  | nil => rfl
  | cons p entries ih =>
    cases hp : positional? p.1 <;> simp [hp, ih, position]

theorem arguments_eq (params : Dict) : arguments params =
    (positionals params).map Prod.snd ++ (options params).flatMap fun p => ["--" ++ p.1, p.2] := by
  have hsorted : (positionals params).map (fun p => (position p, p.2)) =
      ((params.entries.filter fun p => (positional? p.1).isSome).map fun p =>
        (position p, p.2)).mergeSort positionLe :=
    List.map_mergeSort fun _ _ _ _ => rfl
  rw [arguments, filterMap_position, ← hsorted, List.map_map]
  simp only [options, Option.not_isSome]
  rfl

theorem perm_entries (params : Dict) :
    (positionals params ++ options params).Perm params.entries :=
  ((List.mergeSort_perm _ _).append_right _).trans (List.filter_append_perm _ params.entries)

/-- Every parameter is passed once. The values of those with a position come first, ordered by the
position and then by the bytes of the name; then come the others with their names, ordered by the
bytes of the name. -/
theorem arguments_ordered (params : Dict) : ∃ positional flags : List (String × String),
    (positional ++ flags).Perm params.entries ∧
    (∀ p ∈ positional, ∃ i, Position p.1 i) ∧ (∀ p ∈ flags, ¬ ∃ i, Position p.1 i) ∧
    (positional.Pairwise fun p q => ∀ i j, Position p.1 i → Position q.1 j →
      i < j ∨ i = j ∧ Utf8.encode p.1 < Utf8.encode q.1) ∧
    (flags.Pairwise fun p q => Utf8.encode p.1 < Utf8.encode q.1) ∧
    arguments params =
      positional.map Prod.snd ++ flags.flatMap fun p => ["--" ++ p.1, p.2] := by
  have hentries : params.entries.Pairwise fun p q => Utf8.encode p.1 < Utf8.encode q.1 :=
    params.sorted.imp Utf8.encode_lt_iff.mpr
  refine ⟨positionals params, options params, perm_entries params, ?_, ?_, ?_,
    hentries.filter _, arguments_eq params⟩
  · intro p hp
    rw [positionals, List.mem_mergeSort] at hp
    exact isSome_positional?_iff.mp (List.mem_filter.mp hp).2
  · intro p hp
    rw [← isSome_positional?_iff, Bool.not_eq_true, ← Bool.not_eq_true']
    exact (List.mem_filter.mp hp).2
  · refine (pairwise_mergeSort_key position (hentries.filter _)).imp fun h i j hi hj => ?_
    rwa [position_eq hi, position_eq hj] at h

example : arguments (.ofList [("arg2", "d"), ("arg10", "e"), ("arg1", "c"), ("arg01", "b"),
      ("arg+1", "a"), ("arg18446744073709551616", "f"), ("arg", "g")]) =
    ["a", "b", "c", "d", "e", "--arg", "g", "--arg18446744073709551616", "f"] := by
  cbv

end Subprocess

end Lemmata
