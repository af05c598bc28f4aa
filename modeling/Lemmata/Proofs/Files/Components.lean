import Lemmata.Files.Path
import Mathlib.Tactic.SplitIfs

/-! # The components of joined paths -/

namespace Lemmata.Path

variable {base path added part cs : List Char} {file : String}

/-! ## Parts -/

theorem partsOf_eq_splitOn (cs : List Char) : partsOf cs = cs.splitOn '/' := by
  induction cs with
  | nil => rfl
  | cons c rest ih =>
    rw [partsOf, ih, List.splitOn_cons_eq_if_modifyHead]
    by_cases hc : c = '/'
    · simp [hc]
    · cases hparts : rest.splitOn '/' <;> simp_all

theorem partsOf_append_slash (cs ds : List Char) :
    partsOf (cs ++ '/' :: ds) = partsOf cs ++ partsOf ds := by
  simp only [partsOf_eq_splitOn, List.splitOn_append_cons_self]

theorem slash_not_mem_part (h : part ∈ partsOf cs) : '/' ∉ part := by
  induction cs generalizing part with
  | nil =>
    rw [List.mem_singleton.mp h]
    exact List.not_mem_nil
  | cons c rest ih =>
    rw [partsOf] at h
    split at h
    · rcases List.mem_cons.mp h with rfl | h
      · exact List.not_mem_nil
      · exact ih h
    · next hc =>
      split at h
      · next first parts hparts =>
        rcases List.mem_cons.mp h with rfl | h
        · have := ih (hparts ▸ List.mem_cons_self)
          simp [Ne.symm hc, this]
        · exact ih (hparts ▸ List.mem_cons_of_mem _ h)
      · rw [List.mem_singleton.mp h]
        simp [Ne.symm hc]

/-! ## Names -/

/-- A component that leads one level down. -/
def IsName (name : String) : Prop :=
  name ≠ "" ∧ name ≠ "." ∧ name ≠ ".." ∧ '/' ∉ name.toList

theorem isName_of_component? {name : String} (hpart : '/' ∉ part)
    (h : component? part = some (.normal name)) : IsName name := by
  unfold component? at h
  split_ifs at h with hskip hparent
  · cases h
  · obtain rfl := PathComponent.normal.inj (Option.some.inj h)
    have htext : ∀ text : String, String.ofList part = text → part = text.toList := by
      rintro _ rfl
      rw [String.toList_ofList]
    exact ⟨fun heq => hskip (.inl (htext "" heq)), fun heq => hskip (.inr (htext "." heq)),
      fun heq => hparent (htext ".." heq), by simpa using hpart⟩

theorem isName_of_mem {name : String} (h : .normal name ∈ componentsOf cs) : IsName name := by
  rcases List.mem_append.mp h with hstart | hpart
  · unfold start at hstart
    split at hstart <;> simp at hstart
  · obtain ⟨part, hmem, hpart⟩ := List.mem_filterMap.mp hpart
    exact isName_of_component? (slash_not_mem_part hmem) hpart

theorem root_mem_of_isAbsolute (h : cs.head? = some '/') : .root ∈ componentsOf cs := by
  obtain ⟨rest, rfl⟩ := List.head?_eq_some_iff.mp h
  exact List.mem_append_left _ List.mem_cons_self

theorem parent_mem_of_mem_splitOn (h : ['.', '.'] ∈ cs.splitOn '/') :
    .parent ∈ componentsOf cs := by
  rw [← partsOf_eq_splitOn] at h
  exact List.mem_append_right _ (List.mem_filterMap.mpr ⟨_, h, rfl⟩)

/-! ## Joined paths -/

def separator (base : List Char) : List Char :=
  if base.isEmpty ∨ base.getLast? = some '/' then [] else ['/']

theorem joinChars_eq (base : List Char) (h : added.head? ≠ some '/') :
    joinChars base added = base ++ (separator base ++ added) := by
  rw [joinChars, if_neg h, separator]
  split_ifs <;> rfl

theorem separator_append (cs : List Char) (h : path ≠ []) :
    separator (cs ++ path) = separator path := by
  rcases List.eq_nil_or_concat path with rfl | ⟨front, last, rfl⟩
  · exact absurd rfl h
  · simp [separator, ← List.append_assoc]

theorem separator_append_separator (base : List Char) :
    separator (base ++ separator base) = [] := by
  by_cases h : base.isEmpty ∨ base.getLast? = some '/'
  · have hnone : separator base = [] := if_pos h
    rw [hnone, List.append_nil, hnone]
  · have hslash : separator base = ['/'] := if_neg h
    rw [hslash, separator_append base (List.cons_ne_nil _ _)]
    rfl

theorem head?_joinChars (base : List Char) (h : added.head? ≠ some '/') :
    (joinChars base added).head? = some '/' ↔ base.head? = some '/' := by
  rw [joinChars_eq base h]
  cases base with
  | nil => simpa [separator] using h
  | cons c rest => rfl

theorem joinChars_assoc (base : List Char) (hpath : path.head? ≠ some '/')
    (hadded : added.head? ≠ some '/') :
    joinChars base (joinChars path added) = joinChars (joinChars base path) added := by
  have hjoined : (joinChars path added).head? ≠ some '/' :=
    mt (head?_joinChars path hadded).mp hpath
  rw [joinChars_eq base hjoined, joinChars_eq _ hadded, joinChars_eq _ hadded,
    joinChars_eq base hpath]
  by_cases hnil : path = []
  · subst hnil
    rw [List.append_nil, separator_append_separator]
    simp [separator]
  · rw [← List.append_assoc base _ path, separator_append _ hnil]
    simp

/-! ## Components of joined paths -/

theorem start_append_slash (h : cs ≠ []) (ds : List Char) : start (cs ++ '/' :: ds) = start cs := by
  obtain _ | ⟨c, _ | ⟨d, rest⟩⟩ := cs
  · exact absurd rfl h
  · by_cases hroot : c = '/'
    · simp [start, hroot]
    · by_cases hdot : c = '.' <;> simp [start, hroot, hdot]
  · by_cases hroot : c = '/'
    · simp [start, hroot]
    · by_cases hdot : c = '.'
      · by_cases hslash : d = '/' <;> simp [start, hdot, hslash]
      · simp [start, hroot, hdot]

theorem componentsOf_append_slash (h : cs ≠ []) (ds : List Char) :
    componentsOf (cs ++ '/' :: ds) = componentsOf cs ++ (partsOf ds).filterMap component? := by
  rw [componentsOf, start_append_slash h, partsOf_append_slash, List.filterMap_append,
    ← List.append_assoc]
  rfl

theorem head?_of_start_eq_nil (h : start cs = []) : cs.head? ≠ some '/' := by
  intro hroot
  obtain ⟨rest, rfl⟩ := List.head?_eq_some_iff.mp hroot
  cases h

theorem componentsOf_joinChars (base : List Char) (h : start added = []) :
    componentsOf (joinChars base added) = componentsOf base ++ componentsOf added := by
  have hadded : componentsOf added = (partsOf added).filterMap component? := by
    rw [componentsOf, h, List.nil_append]
  rw [joinChars_eq base (head?_of_start_eq_nil h)]
  by_cases hend : base.isEmpty ∨ base.getLast? = some '/'
  · rw [separator, if_pos hend, List.nil_append]
    rcases List.eq_nil_or_concat base with rfl | ⟨front, last, rfl⟩
    · rfl
    · obtain rfl : last = '/' := by simpa using hend
      rw [List.concat_eq_append, List.append_assoc, List.singleton_append, hadded]
      by_cases hfront : front = []
      · subst hfront
        rfl
      · rw [componentsOf_append_slash hfront, componentsOf_append_slash hfront]
        simp [partsOf, component?]
  · rw [separator, if_neg hend, List.singleton_append, hadded, componentsOf_append_slash]
    rintro rfl
    simp at hend

/-! ## Written paths -/

theorem isAbsolute_iff {path : String} : isAbsolute path = true ↔ path.toList.head? = some '/' :=
  beq_iff_eq

theorem toList_join (base added : String) :
    (join base added).toList = joinChars base.toList added.toList :=
  String.toList_ofList

theorem isAbsolute_join (base : String) {added : String} (h : ¬ isAbsolute added = true) :
    isAbsolute (join base added) = isAbsolute base := by
  rw [isAbsolute_iff] at h
  rw [Bool.eq_iff_iff, isAbsolute_iff, isAbsolute_iff, toList_join, head?_joinChars base.toList h]

theorem join_assoc (base : String) {path added : String} (hpath : ¬ isAbsolute path = true)
    (hadded : ¬ isAbsolute added = true) :
    join base (join path added) = join (join base path) added := by
  rw [isAbsolute_iff] at hpath hadded
  rw [join.eq_1 base, join.eq_1 (join base path), toList_join, toList_join,
    joinChars_assoc base.toList hpath hadded]

theorem components_join (base : String) {added : String} (h : start added.toList = []) :
    components (join base added) = components base ++ components added := by
  rw [components, toList_join, componentsOf_joinChars base.toList h]
  rfl

end Lemmata.Path
