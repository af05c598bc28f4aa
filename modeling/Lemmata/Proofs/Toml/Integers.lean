import Lemmata.Toml.Reader
import Mathlib.Tactic.SplitIfs

/-! # All numbers of a text have 64 bits -/

namespace Lemmata.Toml

variable {cs rest : List Char}

/-! ## Values -/

/-- A number has 64 bits; other values are no numbers. -/
def Fits : Toml → Prop
  | .integer n => n < 0x8000000000000000
  | _ => True

theorem fits_integer? {n : Int} {v : Toml} (h : integer? n = some v) : v.Fits := by
  unfold integer? at h
  split_ifs at h with hrange
  cases h
  exact hrange.2

theorem fits_number? {v : Toml} (h : number? cs = some v) : v.Fits := by
  have hbased : ∀ {base isDigit digits}, basedInteger? base isDigit digits = some v → v.Fits := by
    intro base isDigit digits h
    unfold basedInteger? at h
    split_ifs at h
    exact fits_integer? h
  unfold number? at h
  split at h
  · exact hbased h
  · exact hbased h
  · exact hbased h
  · dsimp only at h
    split_ifs at h
    · exact fits_integer? h
    · exact fits_integer? h
    · cases h
      exact trivial

namespace Reader

theorem fits_plain? {v : Toml} (h : plain? cs = some (v, rest)) : v.Fits := by
  unfold plain? at h
  split at h
  · cases h
    exact trivial
  · obtain ⟨w, hw, heq⟩ := Option.map_eq_some_iff.mp h
    obtain rfl := (Prod.mk.inj heq).1
    split_ifs at hw
    · cases hw
      exact trivial
    · cases hw
      exact trivial
    · exact fits_number? hw

theorem fits_items {fuel room : Nat} {done : List Toml} {v : Toml}
    (h : items fuel room done cs = some (v, rest)) : v.Fits := by
  -- Whatever the items are, an array is no number; so nothing is asked of the reader of values.
  induction fuel generalizing done cs with
  | zero =>
    rw [items] at h
    cases h
  | succ fuel ih =>
    rw [items] at h
    split at h
    · cases h
      exact trivial
    · split at h
      · cases h
      · split at h
        · exact ih h
        · cases h
          exact trivial
        · cases h

theorem fits_inlineMembers {fuel room : Nat} {done : Draft.Members} {v : Toml}
    (h : inlineMembers fuel room done cs = some (v, rest)) : v.Fits := by
  induction fuel generalizing done cs with
  | zero =>
    rw [inlineMembers] at h
    cases h
  | succ fuel ih =>
    rw [inlineMembers] at h
    split at h
    · split at h
      · cases h
      · split at h
        · cases h
        · split at h
          · exact ih h
          · cases h
            exact trivial
          · cases h
    · cases h

theorem fits_value {fuel room : Nat} {v : Toml} (h : value fuel room cs = some (v, rest)) :
    v.Fits := by
  cases fuel with
  | zero =>
    rw [value] at h
    cases h
  | succ fuel =>
    rw [value.eq_def] at h
    dsimp only at h
    split at h
    · obtain ⟨found, -, heq⟩ := Option.map_eq_some_iff.mp h
      cases heq
      exact trivial
    · obtain ⟨found, -, heq⟩ := Option.map_eq_some_iff.mp h
      cases heq
      exact trivial
    · split at h
      · cases h
      · exact fits_items h
    · split at h
      · cases h
      · next room =>
        cases fuel with
        | zero =>
          rw [inlineTable] at h
          cases h
        | succ fuel =>
          rw [inlineTable] at h
          split at h
          · cases h
            exact trivial
          · exact fits_inlineMembers h
    · exact fits_plain? h

end Reader

/-! ## Tables under construction -/

namespace Draft

variable {key : String} {draft : Draft} {members changed : Members} {path : List String}

def Fits : Draft → Prop
  | .value v => v.Fits
  | _ => True

def AllFit (members : Members) : Prop :=
  ∀ entry ∈ members, entry.2.Fits

theorem fits_close (h : draft.Fits) : draft.close.Fits := by
  cases draft with
  | value => exact h
  | table => exact trivial
  | tables => exact trivial

theorem mem_set {entry : String × Draft} (h : entry ∈ set key draft members) :
    entry = (key, draft) ∨ entry ∈ members := by
  induction members with
  | nil => exact .inl (List.mem_singleton.mp h)
  | cons first rest ih =>
    obtain ⟨k, v⟩ := first
    rw [set] at h
    split_ifs at h
    · exact (List.mem_cons.mp h).imp_right (List.mem_cons_of_mem _)
    · rcases List.mem_cons.mp h with rfl | h
      · exact .inr List.mem_cons_self
      · exact (ih h).imp_right (List.mem_cons_of_mem _)

theorem AllFit.set (h : AllFit members) (hdraft : draft.Fits) :
    AllFit (set key draft members) := by
  intro entry hmem
  rcases mem_set hmem with rfl | hmem
  · exact hdraft
  · exact h entry hmem

theorem AllFit.changeAt {change : Members → Option Members} (h : AllFit members)
    (hchange : ∀ {before after}, AllFit before → change before = some after → AllFit after)
    (hresult : Draft.changeAt change path members = some changed) : AllFit changed := by
  cases path with
  | nil => exact hchange h hresult
  | cons key path =>
    rw [Draft.changeAt] at hresult
    split at hresult
    · obtain ⟨sub, -, rfl⟩ := Option.map_eq_some_iff.mp hresult
      exact h.set trivial
    · obtain ⟨sub, -, rfl⟩ := Option.map_eq_some_iff.mp hresult
      exact h.set trivial
    · obtain ⟨sub, -, rfl⟩ := Option.map_eq_some_iff.mp hresult
      exact h.set trivial
    · cases hresult

theorem AllFit.openTable (h : AllFit members) (hresult : Draft.openTable key members = some changed) :
    AllFit changed := by
  unfold Draft.openTable at hresult
  split at hresult <;> cases hresult <;> exact h.set trivial

theorem AllFit.addTable (h : AllFit members) (hresult : Draft.addTable key members = some changed) :
    AllFit changed := by
  unfold Draft.addTable at hresult
  split at hresult <;> cases hresult <;> exact h.set trivial

theorem AllFit.addAt {v : Toml} (h : AllFit members) (hv : v.Fits)
    (hresult : Draft.addAt v path members = some changed) : AllFit changed := by
  unfold Draft.addAt at hresult
  split at hresult
  · cases hresult
  · unfold addNew at hresult
    split at hresult
    · cases hresult
      exact List.forall_mem_append.mpr ⟨h, List.forall_mem_singleton.mpr hv⟩
    · cases hresult
  · split at hresult
    · obtain ⟨sub, -, rfl⟩ := Option.map_eq_some_iff.mp hresult
      exact h.set trivial
    · split_ifs at hresult
      obtain ⟨sub, -, rfl⟩ := Option.map_eq_some_iff.mp hresult
      exact h.set trivial
    · split_ifs at hresult
      obtain ⟨sub, -, rfl⟩ := Option.map_eq_some_iff.mp hresult
      exact h.set trivial
    · cases hresult

theorem AllFit.closeMembers (h : AllFit members) :
    ∀ entry ∈ closeMembers members, entry.2.Fits := by
  induction members with
  | nil => exact fun _ hmem => absurd hmem List.not_mem_nil
  | cons first rest ih =>
    obtain ⟨hfirst, hrest⟩ := List.forall_mem_cons.mp h
    rw [Draft.closeMembers]
    exact List.forall_mem_cons.mpr ⟨fits_close hfirst, ih hrest⟩

end Draft

/-! ## Lines -/

namespace Reader

theorem allFit_entry {fuel : Nat} {s t : State} (h : Draft.AllFit s.root)
    (hentry : entry fuel s cs = some (t, rest)) : Draft.AllFit t.root := by
  unfold entry at hentry
  split at hentry
  · simp only [repeatedHeader, Option.bind_eq_bind, Option.bind_eq_some_iff] at hentry
    obtain ⟨⟨path, cs⟩, -, key, -, root, hroot, after, -, last, -, heq⟩ := hentry
    cases heq
    exact h.changeAt Draft.AllFit.addTable hroot
  · simp only [tableHeader, Option.bind_eq_bind, Option.bind_eq_some_iff] at hentry
    obtain ⟨⟨path, cs⟩, -, key, -, root, hroot, last, -, heq⟩ := hentry
    cases heq
    exact h.changeAt Draft.AllFit.openTable hroot
  · simp only [member, Option.bind_eq_bind, Option.bind_eq_some_iff] at hentry
    obtain ⟨⟨path, cs⟩, -, after, -, ⟨v, last⟩, hv, root, hroot, heq⟩ := hentry
    cases heq
    exact h.changeAt (fun hbefore => hbefore.addAt (fits_value hv)) hroot

theorem allFit_lines {fuel : Nat} {s t : State} (h : Draft.AllFit s.root)
    (hlines : lines fuel s cs = some t) : Draft.AllFit t.root := by
  induction fuel generalizing s cs with
  | zero => cases hlines
  | succ fuel ih =>
    rw [lines] at hlines
    split at hlines
    · cases hlines
      exact h
    · split_ifs at hlines
      · split at hlines
        · exact ih h hlines
        · cases hlines
      · split at hlines
        · cases hlines
        · next hentry =>
          split at hlines
          · exact ih (allFit_entry h hentry) hlines
          · cases hlines

end Reader

/-- All numbers that a text sets have 64 bits. -/
theorem fits_of_parse? {text : String} {members : List (String × Toml)}
    (h : parse? text = some members) : ∀ entry ∈ members, entry.2.Fits := by
  obtain ⟨s, hs, rfl⟩ := Option.map_eq_some_iff.mp h
  have hstart : Draft.AllFit [] := List.forall_mem_nil _
  exact (Reader.allFit_lines hstart hs).closeMembers

end Lemmata.Toml
