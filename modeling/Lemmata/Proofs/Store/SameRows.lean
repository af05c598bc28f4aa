import Lemmata.Store.PlanCache

/-! # Stores with the same rows, in whatever order they were written -/

namespace Lemmata

namespace Table

variable {α : Type} [Keyed α] {t u : Table α} {a b : α}

def SameRows (t u : Table α) : Prop :=
  t.rows.Perm u.rows

theorem SameRows.put (h : t.SameRows u) (a : α) : (t.put a).SameRows (u.put a) :=
  (h.filter _).cons a

theorem put_comm (t : Table α) (h : Keyed.key a ≠ Keyed.key b) :
    ((t.put a).put b).SameRows ((t.put b).put a) := by
  have hab : (Keyed.key a != Keyed.key b) = true := bne_iff_ne.mpr h
  have hba : (Keyed.key b != Keyed.key a) = true := bne_iff_ne.mpr h.symm
  simp only [SameRows, Table.put, erase, List.filter_cons, hab, hba, if_true, List.filter_filter,
    Bool.and_comm]
  exact .swap _ _ _

end Table

structure Store.SameRows (s t : Store) : Prop where
  raws : s.raws.SameRows t.raws
  extractions : s.extractions.SameRows t.extractions
  derivations : s.derivations.SameRows t.derivations
  claims : s.claims.SameRows t.claims
  plans : s.plans.SameRows t.plans

namespace Store.SameRows

variable {s t u : Store} {e f : Effect}

theorem refl (s : Store) : s.SameRows s := ⟨.refl _, .refl _, .refl _, .refl _, .refl _⟩

theorem symm (h : s.SameRows t) : t.SameRows s :=
  ⟨h.raws.symm, h.extractions.symm, h.derivations.symm, h.claims.symm, h.plans.symm⟩

theorem trans (h : s.SameRows t) (hnext : t.SameRows u) : s.SameRows u :=
  ⟨h.raws.trans hnext.raws, h.extractions.trans hnext.extractions,
    h.derivations.trans hnext.derivations, h.claims.trans hnext.claims, h.plans.trans hnext.plans⟩

theorem save (h : s.SameRows t) (now : Moment) (e : Effect) :
    (s.save now e).SameRows (t.save now e) := by
  cases e with
  | raw e => exact { h with raws := h.raws.put _ }
  | extraction e => exact { h with extractions := h.extractions.put _ }
  | derivation e => exact { h with derivations := h.derivations.put _ }
  | claim e => exact { h with claims := h.claims.put _ }

theorem saveExecuted (h : s.SameRows t) (now : Moment) (executed : ExecutedPlan) :
    (s.saveExecuted now executed).SameRows (t.saveExecuted now executed) :=
  { h with plans := h.plans.put _ }

end Store.SameRows

/-- Effects that do not replace each other can be saved in any order. -/
theorem Store.save_comm {e f : Effect} (s : Store) (m n : Moment)
    (h : e.stage = f.stage → e.id ≠ f.id) :
    ((s.save m e).save n f).SameRows ((s.save n f).save m e) := by
  cases e <;> cases f
  case raw.raw e f => exact { SameRows.refl _ with raws := s.raws.put_comm (h rfl) }
  case extraction.extraction e f =>
    exact { SameRows.refl _ with extractions := s.extractions.put_comm (h rfl) }
  case derivation.derivation e f =>
    exact { SameRows.refl _ with derivations := s.derivations.put_comm (h rfl) }
  case claim.claim e f => exact { SameRows.refl _ with claims := s.claims.put_comm (h rfl) }
  all_goals exact .refl _

end Lemmata
