import Lemmata.Dict
import Lemmata.Stage

/-! # Names -/

namespace Lemmata

theorem nameLe_iff {a b : String} : nameLe a b = true ↔ a ≤ b := by
  simp [nameLe]

theorem nameLe_trans (a b c : String) (hab : nameLe a b = true) (hbc : nameLe b c = true) :
    nameLe a c = true :=
  nameLe_iff.mpr (String.le_trans (nameLe_iff.mp hab) (nameLe_iff.mp hbc))

theorem nameLe_total (a b : String) : (nameLe a b || nameLe b a) = true := by
  rw [Bool.or_eq_true, nameLe_iff, nameLe_iff]
  exact String.le_total a b

/-! ## Sorting -/

theorem mergeSort_eq_iff_perm {α : Type} {le : α → α → Bool} {as bs : List α}
    (htrans : ∀ a b c, le a b = true → le b c = true → le a c = true)
    (htotal : ∀ a b, (le a b || le b a) = true)
    (hantisymm : ∀ a ∈ as, ∀ b ∈ as, le a b = true → le b a = true → a = b) :
    as.mergeSort le = bs.mergeSort le ↔ as.Perm bs := by
  have has := List.mergeSort_perm as le
  have hbs := List.mergeSort_perm bs le
  constructor
  · intro h
    exact has.symm.trans (h ▸ hbs)
  · intro h
    refine List.Perm.eq_of_pairwise ?_ (List.pairwise_mergeSort htrans htotal as)
      (List.pairwise_mergeSort htrans htotal bs) (has.trans (h.trans hbs.symm))
    intro a b ha hb hab hba
    exact hantisymm a (has.mem_iff.mp ha) b (h.mem_iff.mpr (hbs.mem_iff.mp hb)) hab hba

theorem sortNames_perm (names : List String) : (sortNames names).Perm names :=
  List.mergeSort_perm _ _

@[simp] theorem mem_sortNames {name : String} {names : List String} :
    name ∈ sortNames names ↔ name ∈ names :=
  (sortNames_perm names).mem_iff

theorem sortNames_nodup {names : List String} (h : names.Nodup) : (sortNames names).Nodup :=
  (sortNames_perm names).nodup_iff.mpr h

theorem sortNames_pairwise (names : List String) : (sortNames names).Pairwise (· ≤ ·) := by
  have h := List.pairwise_mergeSort nameLe_trans nameLe_total names
  exact h.imp nameLe_iff.mp

theorem sortNames_eq_of_perm {as bs : List String} (h : as.Perm bs) : sortNames as = sortNames bs := by
  refine (mergeSort_eq_iff_perm nameLe_trans nameLe_total fun a _ b _ hab hba => ?_).mpr h
  exact String.le_antisymm (nameLe_iff.mp hab) (nameLe_iff.mp hba)

theorem eraseDups_nodup {α : Type} [BEq α] [LawfulBEq α] (as : List α) : as.eraseDups.Nodup := by
  induction hlength : as.length using Nat.strongRecOn generalizing as with
  | _ n ih =>
    cases as with
    | nil => simp
    | cons a rest =>
      have hlt : (rest.filter fun b => !b == a).length < n := by
        have hle := List.length_filter_le (fun b => !b == a) rest
        rw [List.length_cons] at hlength
        omega
      rw [List.eraseDups_cons, List.nodup_cons]
      exact ⟨by simp, ih _ hlt _ rfl⟩

theorem distinctSorted_eq_of_mem_iff {as bs : List String} (h : ∀ name, name ∈ as ↔ name ∈ bs) :
    distinctSorted as = distinctSorted bs := by
  refine sortNames_eq_of_perm ((List.perm_ext_iff_of_nodup (eraseDups_nodup as)
    (eraseDups_nodup bs)).mpr fun name => ?_)
  rw [List.mem_eraseDups, List.mem_eraseDups, h]

@[simp] theorem mem_distinctSorted {name : String} {names : List String} :
    name ∈ distinctSorted names ↔ name ∈ names := by
  simp [distinctSorted]

/-! ## Stages -/

theorem Stage.name_inj {s t : Stage} : s.name = t.name ↔ s = t := by
  cases s <;> cases t <;> decide

theorem Stage.previous?_eq_none {s : Stage} : s.previous? = none ↔ s = .fetch := by
  cases s <;> decide

end Lemmata
