import Lemmata.Proofs.Store.Keys
import Lemmata.Proofs.Store.SameRows

/-! # Saves one after the other -/

namespace Lemmata

structure Save where
  now : Moment
  effect : Effect

/-! ## Rows -/

structure Rows where
  raws : List RawRow
  extractions : List ExtractionRow
  derivations : List DerivationRow
  claims : List ClaimRow
  plans : List PlanRow

def RawRow.ofSave? (x : Save) : Option RawRow :=
  match x.effect with
  | .raw e => some (.ofEffect x.now.second e)
  | _ => none

def ExtractionRow.ofSave? (x : Save) : Option ExtractionRow :=
  match x.effect with
  | .extraction e => some (.ofEffect e)
  | _ => none

def DerivationRow.ofSave? (x : Save) : Option DerivationRow :=
  match x.effect with
  | .derivation e => some (.ofEffect e)
  | _ => none

def ClaimRow.ofSave? (x : Save) : Option ClaimRow :=
  match x.effect with
  | .claim e => some (.ofEffect e)
  | _ => none

def Rows.ofSaves (saves : List Save) (plans : List PlanRow) : Rows where
  raws := saves.filterMap RawRow.ofSave?
  extractions := saves.filterMap ExtractionRow.ofSave?
  derivations := saves.filterMap DerivationRow.ofSave?
  claims := saves.filterMap ClaimRow.ofSave?
  plans := plans

namespace Store

def putAll (s : Store) (rows : Rows) : Store where
  raws := s.raws.putAll rows.raws
  extractions := s.extractions.putAll rows.extractions
  derivations := s.derivations.putAll rows.derivations
  claims := s.claims.putAll rows.claims
  plans := s.plans.putAll rows.plans

theorem putAll_putAll (s : Store) (rows : Rows) : (s.putAll rows).putAll rows = s.putAll rows := by
  simp only [putAll, Table.putAll_putAll]

def saveAll (s : Store) (saves : List Save) : Store :=
  saves.foldl (fun s x => s.save x.now x.effect) s

theorem saveAll_concat (s : Store) (saves : List Save) (x : Save) :
    s.saveAll (saves ++ [x]) = (s.saveAll saves).save x.now x.effect :=
  List.foldl_append

/-- Each table takes the rows of its own effects. -/
theorem saveAll_eq_putAll (s : Store) (saves : List Save) :
    s.saveAll saves = s.putAll (.ofSaves saves []) := by
  induction saves using List.reverseRecOn with
  | nil => rfl
  | append_singleton saves x ih =>
    obtain ⟨now, e⟩ := x
    rw [saveAll_concat, ih]
    cases e <;>
      simp [Store.save, saveRaw, saveExtraction, saveDerivation, saveClaim, putAll, Rows.ofSaves,
        RawRow.ofSave?, ExtractionRow.ofSave?, DerivationRow.ofSave?, ClaimRow.ofSave?,
        Table.putAll_concat, List.filterMap_cons]

end Store

/-! ## In whatever order the rows were there -/

theorem Table.SameRows.putAll {α : Type} [Keyed α] {t u : Table α} (h : t.SameRows u)
    (rows : List α) : (t.putAll rows).SameRows (u.putAll rows) := by
  induction rows generalizing t u with
  | nil => exact h
  | cons row rest ih => exact ih (h.put row)

theorem Store.SameRows.putAll {s t : Store} (h : s.SameRows t) (rows : Rows) :
    (s.putAll rows).SameRows (t.putAll rows) where
  raws := h.raws.putAll rows.raws
  extractions := h.extractions.putAll rows.extractions
  derivations := h.derivations.putAll rows.derivations
  claims := h.claims.putAll rows.claims
  plans := h.plans.putAll rows.plans

theorem Store.SameRows.sizes_eq {s t : Store} (h : s.SameRows t) : s.sizes = t.sizes := by
  simp only [sizes, Table.size, h.raws.length_eq, h.extractions.length_eq, h.derivations.length_eq,
    h.claims.length_eq, h.plans.length_eq]

end Lemmata
