import Lemmata.Proofs.Client.Below
import Mathlib.Data.List.Basic

/-! # Which file parameters are refused -/

namespace Lemmata

namespace Path

variable {cs part : List Char}

/-! ## What a path starts with -/

theorem head?_partsOf_dot (rest : List Char) :
    (partsOf ('.' :: rest)).head? = some ['.'] ↔ rest = [] ∨ rest.head? = some '/' := by
  obtain _ | ⟨c, rest⟩ := rest
  · simp [partsOf]
  · by_cases hslash : c = '/'
    · simp [partsOf, hslash]
    · cases hparts : partsOf rest <;> simp [partsOf, hslash, hparts]

theorem head?_partsOf_ne_dot {c : Char} (hc : c ≠ '.') (rest : List Char) :
    (partsOf (c :: rest)).head? ≠ some ['.'] := by
  by_cases hslash : c = '/'
  · simp [partsOf, hslash]
  · cases hparts : partsOf rest <;> simp [partsOf, hslash, hparts, hc]

theorem start_eq_nil_iff :
    start cs = [] ↔ cs.head? ≠ some '/' ∧ (cs.splitOn '/').head? ≠ some ['.'] := by
  rw [← partsOf_eq_splitOn]
  obtain _ | ⟨c, rest⟩ := cs
  · simp [start, partsOf]
  · by_cases hdot : c = '.'
    · subst hdot
      rw [Ne, Ne, head?_partsOf_dot]
      obtain _ | ⟨d, rest⟩ := rest
      · simp [start]
      · by_cases hslash : d = '/' <;> simp [start, hslash]
    · have hpart := head?_partsOf_ne_dot hdot rest
      by_cases hslash : c = '/' <;> simp [start, hslash, hdot, hpart]

/-! ## Named parts -/

/-- The parts that are neither empty nor a dot. -/
def namesOf (file : String) : List String :=
  ((file.toList.splitOn '/').filter fun part => part ≠ [] ∧ part ≠ ['.']).map String.ofList

theorem component?_of_ne (h : part ≠ ['.', '.']) : component? part =
    if part ≠ [] ∧ part ≠ ['.'] then some (.normal (String.ofList part)) else none := by
  by_cases hskip : part = [] ∨ part = ['.']
  · rw [component?, if_pos hskip, if_neg (by tauto)]
  · rw [component?, if_neg hskip, if_neg h, if_pos (not_or.mp hskip)]

theorem filterMap_component? {parts : List (List Char)} (h : ['.', '.'] ∉ parts) :
    parts.filterMap component? =
      (parts.filter fun part => part ≠ [] ∧ part ≠ ['.']).map fun part =>
        .normal (String.ofList part) := by
  rw [← List.filterMap_eq_map, List.filterMap_filter]
  refine List.filterMap_congr fun part hpart => ?_
  rw [component?_of_ne (ne_of_mem_of_not_mem hpart h)]
  simp

end Path

namespace FileClient

variable {base : Option String} {endpoint file path : String} {params : Dict}

/-- A file that starts at the root, has two dots as a part, or has one dot as its first part. -/
def IsRefused (file : String) : Prop :=
  Path.isAbsolute file = true ∨ ['.', '.'] ∈ file.toList.splitOn '/' ∨
    (file.toList.splitOn '/').head? = some ['.']

instance (file : String) : Decidable (IsRefused file) :=
  inferInstanceAs (Decidable (_ ∨ _ ∨ _))

theorem components_of_not_refused (h : ¬ IsRefused file) :
    Path.components file = (Path.namesOf file).map .normal := by
  simp only [IsRefused, not_or, Path.isAbsolute_iff] at h
  obtain ⟨habsolute, hparent, hdot⟩ := h
  rw [Path.components, Path.componentsOf, Path.start_eq_nil_iff.mpr ⟨habsolute, hdot⟩,
    List.nil_append, Path.partsOf_eq_splitOn, Path.filterMap_component? hparent, Path.namesOf,
    List.map_map]
  rfl

theorem staysBelow_iff_not_refused : staysBelow file = true ↔ ¬ IsRefused file := by
  constructor
  · rintro hbelow (habsolute | hparent | hdot)
    · have hstart := start_of_staysBelow hbelow
      exact (Path.start_eq_nil_iff.mp hstart).1 (Path.isAbsolute_iff.mp habsolute)
    · obtain ⟨name, hname⟩ := staysBelow_iff.mp hbelow _ (Path.parent_mem_of_mem_splitOn hparent)
      cases hname
    · exact (Path.start_eq_nil_iff.mp (start_of_staysBelow hbelow)).2 hdot
  · intro h
    rw [staysBelow_iff, components_of_not_refused h]
    intro c hc
    obtain ⟨name, -, rfl⟩ := List.mem_map.mp hc
    exact ⟨name, rfl⟩

/-- Only a file parameter can be refused. A dot that is not its first part is passed over: the path
has the components of the endpoint, and then the parts of the file that are neither empty nor a
dot. -/
theorem resolve?_eq_none_iff (base : Option String) (endpoint : String) (params : Dict) :
    (resolve? base endpoint params = none ↔
      ∃ file, params.get? "file" = some file ∧ IsRefused file) ∧
    ∀ file path, params.get? "file" = some file → resolve? base endpoint params = some path →
      ∃ place, resolve? base endpoint .empty = some place ∧
        Path.components path = Path.components place ++ (Path.namesOf file).map .normal := by
  have hbare : Dict.empty.get? "file" = none := rfl
  obtain ⟨place, hplace⟩ := resolve?_without base endpoint hbare
  have hresolve : ∀ {file}, params.get? "file" = some file → resolve? base endpoint params =
      if staysBelow file then some (Path.join place file) else none := by
    intro file hfile
    rw [resolve?_with base endpoint hfile hbare, hplace]
    rfl
  constructor
  · cases hfile : params.get? "file" with
    | none =>
      obtain ⟨path, hpath⟩ := resolve?_without base endpoint hfile
      simp [hpath]
    | some file =>
      rw [hresolve hfile]
      simp [staysBelow_iff_not_refused]
  · intro file path hfile hpath
    rw [hresolve hfile] at hpath
    split_ifs at hpath with hbelow
    obtain rfl := Option.some.inj hpath
    refine ⟨place, hplace, ?_⟩
    rw [Path.components_join place (start_of_staysBelow hbelow),
      components_of_not_refused (staysBelow_iff_not_refused.mp hbelow)]

theorem resolve?_agni_dots :
    (∃ path, resolve? none "cdsl" (.ofList [("file", "mw/./agni.xml")]) = some path ∧
      Path.components path = [.normal "cdsl", .normal "mw", .normal "agni.xml"]) ∧
    resolve? none "cdsl" (.ofList [("file", "./mw/agni.xml")]) = none := by
  have hinner : (Dict.ofList [("file", "mw/./agni.xml")]).get? "file" = some "mw/./agni.xml" := by
    decide +kernel
  have hfirst : (Dict.ofList [("file", "./mw/agni.xml")]).get? "file" = some "./mw/agni.xml" := by
    decide +kernel
  obtain ⟨hrefused, hplace⟩ := resolve?_eq_none_iff none "cdsl" (.ofList [("file", "mw/./agni.xml")])
  constructor
  · have hsome : resolve? none "cdsl" (.ofList [("file", "mw/./agni.xml")]) ≠ none := by
      rw [Ne, hrefused]
      rintro ⟨file, hfile, hrefused⟩
      obtain rfl := Option.some.inj (hinner.symm.trans hfile)
      exact absurd hrefused (by decide +kernel)
    obtain ⟨path, hpath⟩ := Option.ne_none_iff_exists'.mp hsome
    obtain ⟨place, hendpoint, hcomponents⟩ := hplace _ path hinner hpath
    obtain rfl : "cdsl" = place := Option.some.inj hendpoint
    exact ⟨path, hpath, hcomponents.trans (by decide +kernel)⟩
  · exact (resolve?_eq_none_iff _ _ _).1.mpr ⟨_, hfirst, by decide +kernel⟩

end FileClient

end Lemmata
