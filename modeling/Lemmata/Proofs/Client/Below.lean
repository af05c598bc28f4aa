import Lemmata.Client.File
import Lemmata.Proofs.Files.Components

/-! # Fetched files lie below their endpoint -/

namespace Lemmata.FileClient

variable {base : Option String} {endpoint file : String} {params bare : Dict}

theorem staysBelow_iff : staysBelow file = true ↔
    ∀ c ∈ Path.components file, ∃ name, c = .normal name := by
  rw [staysBelow, List.all_eq_true]
  refine forall₂_congr fun c _ => ?_
  cases c <;> simp [Path.isNormal]

theorem start_of_staysBelow (h : staysBelow file = true) : Path.start file.toList = [] := by
  rw [List.eq_nil_iff_forall_not_mem]
  intro c hc
  obtain ⟨name, rfl⟩ := staysBelow_iff.mp h c (List.mem_append_left _ hc)
  unfold Path.start at hc
  split at hc <;> simp at hc

theorem resolve?_without (base : Option String) (endpoint : String)
    (h : bare.get? "file" = none) : ∃ place, resolve? base endpoint bare = some place := by
  rw [resolve?, pathBelow?, h]
  exact ⟨_, rfl⟩

theorem resolve?_with (base : Option String) (endpoint : String)
    (hfile : params.get? "file" = some file) (hbare : bare.get? "file" = none) :
    resolve? base endpoint params =
      if staysBelow file then (resolve? base endpoint bare).map (Path.join · file) else none := by
  rw [resolve?, resolve?, pathBelow?, pathBelow?, hfile, hbare]
  dsimp only
  split_ifs with hbelow
  · have hrelative : ¬ Path.isAbsolute file = true := by
      rw [Path.isAbsolute_iff]
      exact Path.head?_of_start_eq_nil (start_of_staysBelow hbelow)
    cases base with
    | none => rfl
    | some base =>
      simp only [Option.map_some, Path.isAbsolute_join _ hrelative]
      split_ifs with habsolute
      · rfl
      · rw [Path.join_assoc base habsolute hrelative]
  · rfl

/-- A file parameter leads down from what the endpoint alone resolves to, by ordinary names; one
that starts at the root or has a part of two dots resolves to nothing. -/
theorem resolve?_below (base : Option String) (endpoint : String)
    (hfile : params.get? "file" = some file) (hbare : bare.get? "file" = none) :
    ∃ place, resolve? base endpoint bare = some place ∧
      (∀ path, resolve? base endpoint params = some path →
        Path.components path = Path.components place ++ Path.components file ∧
        ∀ c ∈ Path.components file, ∃ name, c = .normal name ∧ Path.IsName name) ∧
      ((∀ c ∈ Path.components file, ∃ name, c = .normal name) →
        ∃ path, resolve? base endpoint params = some path) ∧
      (Path.isAbsolute file = true ∨ ['.', '.'] ∈ file.toList.splitOn '/' →
        resolve? base endpoint params = none) := by
  obtain ⟨place, hplace⟩ := resolve?_without base endpoint hbare
  have hresolve := resolve?_with base endpoint hfile hbare
  rw [hplace, Option.map_some] at hresolve
  refine ⟨place, hplace, fun path hpath => ?_, fun hnormal => ?_, fun hleaves => ?_⟩
  · rw [hresolve] at hpath
    split_ifs at hpath with hbelow
    obtain rfl := Option.some.inj hpath
    refine ⟨Path.components_join place (start_of_staysBelow hbelow), fun c hc => ?_⟩
    obtain ⟨name, rfl⟩ := staysBelow_iff.mp hbelow c hc
    exact ⟨name, rfl, Path.isName_of_mem hc⟩
  · exact ⟨_, hresolve.trans (if_pos (staysBelow_iff.mpr hnormal))⟩
  · rw [hresolve, if_neg]
    intro hbelow
    rcases hleaves with hroot | hparent
    · have hmem := Path.root_mem_of_isAbsolute (Path.isAbsolute_iff.mp hroot)
      obtain ⟨name, hname⟩ := staysBelow_iff.mp hbelow _ hmem
      cases hname
    · have hmem := Path.parent_mem_of_mem_splitOn hparent
      obtain ⟨name, hname⟩ := staysBelow_iff.mp hbelow _ hmem
      cases hname

theorem resolve?_below_agni :
    (Dict.ofList [("file", "a//agni.xml/.")]).get? "file" = some "a//agni.xml/." ∧
    Dict.empty.get? "file" = none ∧
    Path.components "/srv/./mw/a//agni.xml/." =
      Path.components "/srv/./mw" ++ Path.components "a//agni.xml/." := by
  have hfile : (Dict.ofList [("file", "a//agni.xml/.")]).get? "file" = some "a//agni.xml/." := by
    decide +kernel
  have hbare : Dict.empty.get? "file" = none := rfl
  have hendpoint : resolve? (some "/srv/") "file://./mw" .empty = some "/srv/./mw" := by
    decide +kernel
  have hjoined : resolve? (some "/srv/") "file://./mw" (.ofList [("file", "a//agni.xml/.")]) =
      some "/srv/./mw/a//agni.xml/." := by
    rw [resolve?_with _ _ hfile hbare, hendpoint]
    decide +kernel
  obtain ⟨place, hplace, hpath, -⟩ := resolve?_below (some "/srv/") "file://./mw" hfile hbare
  obtain rfl := Option.some.inj (hendpoint.symm.trans hplace)
  exact ⟨hfile, hbare, (hpath _ hjoined).1⟩

end Lemmata.FileClient
