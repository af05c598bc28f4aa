/-!
# Sorted names and string dictionaries

Names come in the order of their code points, which is also the order of their UTF-8 bytes. A
dictionary has its keys and values sorted by key, each key once, so equal contents are equal
dictionaries.
-/

namespace Lemmata

/-! ## Names -/

def nameLe (a b : String) : Bool :=
  decide (a ≤ b)

def sortNames (names : List String) : List String :=
  names.mergeSort nameLe

/-- Each name once, ascending. -/
def distinctSorted (names : List String) : List String :=
  sortNames names.eraseDups

/-! ## Dictionaries -/

/-- The list with the value of `key` set, which keeps the place of a key that is there. -/
def insertSorted (key value : String) : List (String × String) → List (String × String)
  | [] => [(key, value)]
  | (k, v) :: rest =>
    if key < k then (key, value) :: (k, v) :: rest
    else if key = k then (key, value) :: rest
    else (k, v) :: insertSorted key value rest

theorem fst_mem_insertSorted {key value : String} {entries : List (String × String)}
    {p : String × String} (h : p ∈ insertSorted key value entries) : p.1 = key ∨ p ∈ entries := by
  induction entries with
  | nil => simp_all [insertSorted]
  | cons e rest ih =>
    obtain ⟨k, v⟩ := e
    simp only [insertSorted] at h
    split at h
    · rcases List.mem_cons.mp h with rfl | h
      · exact .inl rfl
      · exact .inr h
    · split at h
      · rcases List.mem_cons.mp h with rfl | h
        · exact .inl rfl
        · exact .inr (List.mem_cons_of_mem _ h)
      · rcases List.mem_cons.mp h with rfl | h
        · exact .inr List.mem_cons_self
        · exact (ih h).imp_right (List.mem_cons_of_mem _)

theorem pairwise_insertSorted {key value : String} {entries : List (String × String)}
    (h : entries.Pairwise fun a b => a.1 < b.1) :
    (insertSorted key value entries).Pairwise fun a b => a.1 < b.1 := by
  induction entries with
  | nil => simp [insertSorted]
  | cons e rest ih =>
    obtain ⟨k, v⟩ := e
    obtain ⟨hk, hrest⟩ := List.pairwise_cons.mp h
    simp only [insertSorted]
    split
    · next hlt =>
      refine List.pairwise_cons.mpr ⟨fun p hp => ?_, h⟩
      rcases List.mem_cons.mp hp with rfl | hp
      · exact hlt
      · exact String.lt_trans hlt (hk p hp)
    · next hge =>
      split
      · next heq => exact List.pairwise_cons.mpr ⟨fun p hp => heq ▸ hk p hp, hrest⟩
      · next hne =>
        refine List.pairwise_cons.mpr ⟨fun p hp => ?_, ih hrest⟩
        rcases fst_mem_insertSorted hp with hp | hp
        · have hle : k ≤ key := String.not_lt.mp hge
          rw [hp]
          exact Std.lt_of_le_of_ne hle (Ne.symm hne)
        · exact hk p hp

structure Dict where
  entries : List (String × String)
  sorted : entries.Pairwise fun a b => a.1 < b.1
deriving DecidableEq

namespace Dict

theorem ext {d e : Dict} (h : d.entries = e.entries) : d = e := by
  cases d; cases e; simp_all

def empty : Dict := ⟨[], .nil⟩

instance : Inhabited Dict := ⟨empty⟩

def get? (d : Dict) (key : String) : Option String :=
  d.entries.lookup key

def insert (d : Dict) (key value : String) : Dict :=
  ⟨insertSorted key value d.entries, pairwise_insertSorted d.sorted⟩

/-- The last value of a key counts. -/
def ofList (entries : List (String × String)) : Dict :=
  entries.foldl (fun d (k, v) => d.insert k v) empty

end Dict

end Lemmata
