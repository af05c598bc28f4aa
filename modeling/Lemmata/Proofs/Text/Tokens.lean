import Lemmata.Proofs.Names
import Lemmata.Proofs.Text.Pattern
import Mathlib.Data.List.Induction
import Mathlib.Tactic.SplitIfs

/-! # The tokens of a text are its longest runs of word positions -/

namespace Lemmata

/-! ## Things in the order of their first places -/

/-- All that occurs, each thing once, ordered by where it occurs first. -/
structure ListsByFirst {α : Type} (occurs : Nat → α → Prop) (items : List α) : Prop where
  nodup : items.Nodup
  mem_iff : ∀ a, a ∈ items ↔ ∃ i, occurs i a
  ordered : items.Pairwise fun a b => ∃ i, occurs i a ∧ ∀ j, occurs j b → i < j

section

variable {α β : Type} {occurs occurs' : Nat → α → Prop} {as bs : List α}

theorem ListsByFirst.congr (h : ListsByFirst occurs as) (hsame : ∀ i a, occurs i a ↔ occurs' i a) :
    ListsByFirst occurs' as := by
  obtain rfl : occurs = occurs' := funext fun i => funext fun a => propext (hsame i a)
  exact h

theorem ListsByFirst.unique (h : ListsByFirst occurs as) (h' : ListsByFirst occurs bs) :
    as = bs := by
  have hperm : as.Perm bs := by
    rw [List.perm_ext_iff_of_nodup h.nodup h'.nodup]
    exact fun a => by rw [h.mem_iff, h'.mem_iff]
  refine List.Perm.eq_of_pairwise ?_ h.ordered h'.ordered hperm
  rintro a b - - ⟨i, hi, hbefore⟩ ⟨j, hj, hafter⟩
  exact absurd (hbefore j hj) (Nat.lt_asymm (hafter i hi))

variable [BEq α] [LawfulBEq α] [BEq β] [LawfulBEq β]

theorem eraseDups_append_singleton (as : List α) (a : α) :
    (as ++ [a]).eraseDups = if as.contains a then as.eraseDups else as.eraseDups ++ [a] := by
  rw [List.eraseDups_append, List.removeAll, List.filter_cons, List.filter_nil]
  split_ifs <;> simp_all [List.eraseDups_cons]

theorem ordered_eraseDups (entries : List (Nat × α))
    (hascending : entries.Pairwise fun x y => x.1 < y.1) :
    (entries.map Prod.snd).eraseDups.Pairwise fun a b =>
      ∃ i, (i, a) ∈ entries ∧ ∀ j, (j, b) ∈ entries → i < j := by
  induction entries using List.reverseRecOn with
  | nil => exact .nil
  | append_singleton entries last ih =>
    obtain ⟨hentries, -, hlast⟩ := List.pairwise_append.mp hascending
    -- The last entry comes after each of the others, whether or not it repeats one of them.
    have hkept : ∀ {i a b}, (i, a) ∈ entries → (∀ j, (j, b) ∈ entries → i < j) →
        ∃ i, (i, a) ∈ entries ++ [last] ∧ ∀ j, (j, b) ∈ entries ++ [last] → i < j := by
      intro i a b hi hbefore
      refine ⟨i, List.mem_append_left _ hi, fun j hj => ?_⟩
      rcases List.mem_append.mp hj with hj | hj
      · exact hbefore j hj
      · exact hlast _ hi _ hj
    have hold := (ih hentries).imp fun ⟨i, hi, hbefore⟩ => hkept hi hbefore
    rw [List.map_append, List.map_singleton, eraseDups_append_singleton]
    split_ifs with hrepeated
    · exact hold
    · refine List.pairwise_append.mpr ⟨hold, List.pairwise_singleton _ _, ?_⟩
      intro a ha b hb
      obtain rfl := List.mem_singleton.mp hb
      obtain ⟨⟨i, a⟩, hi, rfl⟩ := List.mem_map.mp (List.mem_eraseDups.mp ha)
      refine hkept hi fun j hj => absurd ?_ hrepeated
      simpa using ⟨j, hj⟩

theorem listsByFirst_eraseDups {entries : List (Nat × α)}
    (hascending : entries.Pairwise fun x y => x.1 < y.1) :
    ListsByFirst (fun i a => (i, a) ∈ entries) (entries.map Prod.snd).eraseDups where
  nodup := eraseDups_nodup _
  mem_iff a := by simp
  ordered := ordered_eraseDups entries hascending

/-- Repetitions may be left out before a mapping, which can bring in more of them. -/
theorem eraseDups_map_eraseDups (f : α → β) (as : List α) :
    (as.eraseDups.map f).eraseDups = (as.map f).eraseDups := by
  induction as using List.reverseRecOn with
  | nil => rfl
  | append_singleton as a ih =>
    have hmapped : (as.map f ++ [f a]).eraseDups = (as.eraseDups.map f ++ [f a]).eraseDups := by
      have hsame : (as.map f).contains (f a) = (as.eraseDups.map f).contains (f a) := by
        rw [Bool.eq_iff_iff]
        simp
      rw [eraseDups_append_singleton, eraseDups_append_singleton, ih, hsame]
    rw [List.map_append, List.map_singleton, hmapped, eraseDups_append_singleton]
    split_ifs with hrepeated
    · have hold : (as.eraseDups.map f).contains (f a) = true := by
        simpa using ⟨a, by simpa using hrepeated, rfl⟩
      rw [eraseDups_append_singleton, if_pos hold]
    · rw [List.map_append, List.map_singleton]

end

namespace Word

/-! ## Word positions and runs of them -/

/-- At this position of a text there is a letter or mark, or a joiner between two of them. -/
inductive AtWord (cs : List Char) : Nat → Prop
  | char {i : Nat} {c : Char} (h : cs[i]? = some c) (hc : isWordChar c = true) : AtWord cs i
  | joiner {i : Nat} {b c d : Char} (hb : cs[i]? = some b) (hc : cs[i + 1]? = some c)
      (hd : cs[i + 2]? = some d) (hbefore : isWordChar b = true) (hjoiner : isJoiner c = true)
      (hafter : isWordChar d = true) : AtWord cs (i + 1)

/-- Word positions only, from the first to before the last of these two, and none around them. -/
structure Run (cs : List Char) (start stop : Nat) : Prop where
  lt : start < stop
  inside : ∀ k, start ≤ k → k < stop → AtWord cs k
  before : ∀ k, k + 1 = start → ¬ AtWord cs k
  after : ¬ AtWord cs stop

def RunAt (cs : List Char) (start : Nat) (w : String) : Prop :=
  ∃ stop, Run cs start stop ∧ w = String.ofList (cs.extract start stop)

variable {cs before current rest : List Char} {c : Char} {i j k start : Nat} {w : String}

theorem AtWord.lt_length (h : AtWord cs i) : i < cs.length := by
  cases h with
  | char h => exact (List.getElem?_eq_some_iff.mp h).1
  | joiner _ hc => exact (List.getElem?_eq_some_iff.mp hc).1

theorem Run.stop_unique (h : Run cs i j) (h' : Run cs i k) : j = k := by
  rcases Nat.lt_trichotomy j k with hlt | rfl | hlt
  · exact absurd (h'.inside j (Nat.le_of_lt h.lt) hlt) h.after
  · rfl
  · exact absurd (h.inside k (Nat.le_of_lt h'.lt) hlt) h'.after

structure RunsFrom (cs : List Char) (start : Nat) (runs : List (Nat × String)) : Prop where
  mem_iff : ∀ i w, (i, w) ∈ runs ↔ start ≤ i ∧ RunAt cs i w
  ascending : runs.Pairwise fun x y => x.1 < y.1

/-! ## Scanning -/

/-- Where a scan is: the characters collected so far are word positions, and the run that they
belong to starts with them. -/
structure Scanning (cs before current rest : List Char) : Prop where
  text_eq : cs = before ++ current.reverse ++ rest
  inside : ∀ k, before.length ≤ k → k < before.length + current.length → AtWord cs k
  outside : ∀ k, k + 1 = before.length → ¬ AtWord cs k

namespace Scanning

theorem getElem?_rest (h : Scanning cs before current rest) (k : Nat) :
    cs[before.length + current.length + k]? = rest[k]? := by
  have hlength : (before ++ current.reverse).length = before.length + current.length := by simp
  rw [h.text_eq, ← hlength, List.getElem?_append_right (Nat.le_add_right _ _),
    Nat.add_sub_cancel_left]

theorem getElem?_last (h : Scanning cs before (c :: current) rest) :
    cs[before.length + current.length]? = some c := by
  rw [h.text_eq, List.reverse_cons, ← List.append_assoc, List.append_assoc _ [c],
    List.getElem?_append_right (by simp)]
  simp

theorem continues_iff (h : Scanning cs before current (c :: rest)) :
    continues current c rest = true ↔ AtWord cs (before.length + current.length) := by
  have hc : cs[before.length + current.length]? = some c := h.getElem?_rest 0
  have hnext : cs[before.length + current.length + 1]? = rest[0]? := h.getElem?_rest 1
  rw [continues, Bool.or_eq_true, Bool.and_eq_true, Bool.and_eq_true]
  constructor
  · rintro (hchar | ⟨⟨hjoiner, hcurrent⟩, hstarts⟩)
    · exact .char hc hchar
    · cases current with
      | nil => cases hcurrent
      | cons b earlier =>
        cases rest with
        | nil => cases hstarts
        | cons d later =>
          -- The character before is a letter or mark, or else this one is.
          have hb := h.getElem?_last
          generalize hlast : before.length + earlier.length = last at hb
          have hsum : before.length + (b :: earlier).length = last + 1 := by
            rw [List.length_cons]
            omega
          rw [hsum] at hc hnext ⊢
          cases h.inside last (by omega) (by omega) with
          | char hb' hchar =>
            obtain rfl := Option.some.inj (hb.symm.trans hb')
            exact .joiner hb hc hnext hchar hjoiner hstarts
          | joiner _ _ hd _ _ hafter => exact .char hd hafter
  · intro hat
    generalize hp : before.length + current.length = p at hat hc hnext
    cases hat with
    | char hc' hchar =>
      obtain rfl := Option.some.inj (hc.symm.trans hc')
      exact .inl hchar
    | @joiner i b c' d hb hc' hd hbefore hjoiner hafter =>
      obtain rfl := Option.some.inj (hc.symm.trans hc')
      refine .inr ⟨⟨hjoiner, ?_⟩, ?_⟩
      · cases current with
        | nil => exact absurd (.char hb hbefore) (h.outside i (by simpa using hp.symm))
        | cons => rfl
      · rw [hd] at hnext
        cases rest with
        | nil => cases hnext
        | cons d' later =>
          obtain rfl := Option.some.inj hnext
          exact hafter

theorem push (h : Scanning cs before current (c :: rest))
    (hat : AtWord cs (before.length + current.length)) :
    Scanning cs before (c :: current) rest where
  text_eq := by simp [h.text_eq]
  inside k hstart hstop := by
    rcases Nat.lt_or_ge k (before.length + current.length) with hlt | hge
    · exact h.inside k hstart hlt
    · rw [List.length_cons] at hstop
      obtain rfl : k = before.length + current.length := by omega
      exact hat
  outside := h.outside

theorem drop (h : Scanning cs before current (c :: rest))
    (hnot : ¬ AtWord cs (before.length + current.length)) :
    Scanning cs (before ++ current.reverse ++ [c]) [] rest where
  text_eq := by simp [h.text_eq]
  inside k hstart hstop := by
    rw [List.length_nil] at hstop
    omega
  outside k hk := by
    have hlength : (before ++ current.reverse ++ [c]).length =
        before.length + current.length + 1 := by simp [Nat.add_assoc]
    rw [hlength] at hk
    exact Nat.succ.inj hk ▸ hnot

theorem run (h : Scanning cs before current rest) (hcurrent : current ≠ [])
    (hnot : ¬ AtWord cs (before.length + current.length)) :
    Run cs before.length (before.length + current.length) where
  lt := Nat.lt_add_of_pos_right (List.length_pos_iff.mpr hcurrent)
  inside := h.inside
  before := h.outside
  after := hnot

theorem extract_eq (h : Scanning cs before current rest) :
    cs.extract before.length (before.length + current.length) = current.reverse := by
  rw [h.text_eq, List.extract_eq_take_drop, List.append_assoc, List.drop_left,
    Nat.add_sub_cancel_left, ← List.length_reverse, List.take_left]

theorem runsFrom (h : Scanning cs before current rest)
    (hnot : ¬ AtWord cs (before.length + current.length)) {later : List (Nat × String)}
    (hlater : RunsFrom cs (before.length + current.length + 1) later) :
    ∃ runs, RunsFrom cs before.length runs ∧
      finish current ++ later.map Prod.snd = runs.map Prod.snd := by
  -- A run that starts further on would continue the one that was collected.
  have hafter : ∀ i w, before.length < i → RunAt cs i w → before.length + current.length < i := by
    rintro i w hlt ⟨stop, hrun, -⟩
    by_contra hle
    refine hrun.before (i - 1) (by omega) (h.inside _ ?_ ?_) <;> omega
  cases hcurrent : current with
  | nil =>
    subst hcurrent
    refine ⟨later, ⟨fun i w => ?_, hlater.ascending⟩, rfl⟩
    rw [hlater.mem_iff]
    refine and_congr_left fun ⟨stop, hrun, hw⟩ => ⟨fun hle => by omega, fun hle => ?_⟩
    rcases Nat.eq_or_lt_of_le hle with rfl | hlt
    · exact absurd (hrun.inside _ (Nat.le_refl _) hrun.lt) hnot
    · exact hlt
  | cons c earlier =>
    rw [← hcurrent]
    have hrun := h.run (by simp [hcurrent]) hnot
    refine ⟨(before.length, String.ofList current.reverse) :: later, ⟨fun i w => ?_, ?_⟩, ?_⟩
    · rw [List.mem_cons, hlater.mem_iff]
      constructor
      · rintro (heq | ⟨hle, hat⟩)
        · cases heq
          exact ⟨Nat.le_refl _, _, hrun, by rw [h.extract_eq]⟩
        · exact ⟨by omega, hat⟩
      · rintro ⟨hle, hat⟩
        rcases Nat.eq_or_lt_of_le hle with rfl | hlt
        · obtain ⟨stop, hother, rfl⟩ := hat
          obtain rfl := hrun.stop_unique hother
          exact .inl (by rw [h.extract_eq])
        · exact .inr ⟨hafter i w hlt hat, hat⟩
    · refine List.pairwise_cons.mpr ⟨fun x hx => ?_, hlater.ascending⟩
      have hle := ((hlater.mem_iff x.1 x.2).mp hx).1
      dsimp only
      omega
    · simp [finish, hcurrent]

end Scanning

theorem exists_runsFrom (h : Scanning cs before current rest) :
    ∃ runs, RunsFrom cs before.length runs ∧ scan current rest = runs.map Prod.snd := by
  induction rest generalizing before current with
  | nil =>
    have hend : ∀ i, before.length + current.length ≤ i → ¬ AtWord cs i := by
      intro i hle hat
      have hlt := hat.lt_length
      rw [h.text_eq] at hlt
      simp only [List.append_nil, List.length_append, List.length_reverse] at hlt
      omega
    have hnone : RunsFrom cs (before.length + current.length + 1) [] := by
      refine ⟨fun i w => ⟨nofun, ?_⟩, .nil⟩
      rintro ⟨hle, stop, hrun, -⟩
      exact absurd (hrun.inside i (Nat.le_refl _) hrun.lt) (hend i (by omega))
    simpa [scan] using h.runsFrom (hend _ (Nat.le_refl _)) hnone
  | cons c rest ih =>
    rw [scan]
    split_ifs with hcontinues
    · exact ih (h.push (h.continues_iff.mp hcontinues))
    · have hnot := mt h.continues_iff.mpr hcontinues
      obtain ⟨later, hlater, hscan⟩ := ih (h.drop hnot)
      rw [hscan]
      exact h.runsFrom hnot (by simpa [Nat.add_assoc] using hlater)

end Word

/-! ## Tokens -/

/-- A run of more than one word position starts here, with this text. -/
def TokenAt (text : String) (start : Nat) (w : String) : Prop :=
  Word.RunAt text.toList start w ∧ 1 < w.length

theorem exists_tokens (text : String) : ∃ entries : List (Nat × String),
    entries.Pairwise (fun x y => x.1 < y.1) ∧
    (∀ i w, (i, w) ∈ entries ↔ TokenAt text i w) ∧
    ((Word.all text).filter fun w => 1 < w.length) = entries.map Prod.snd := by
  have hstart : Word.Scanning text.toList [] [] text.toList := ⟨rfl, by simp, by simp⟩
  obtain ⟨runs, hruns, hall⟩ := Word.exists_runsFrom hstart
  refine ⟨runs.filter fun e => 1 < e.2.length, hruns.ascending.filter _, fun i w => ?_, ?_⟩
  · simp [List.mem_filter, hruns.mem_iff, TokenAt]
  · rw [Word.all, hall, List.filter_map]
    rfl

theorem listsByFirst_tokens (text : String) : ListsByFirst (TokenAt text) (tokens text) := by
  obtain ⟨entries, hascending, hmem, hall⟩ := exists_tokens text
  rw [tokens, hall]
  exact (listsByFirst_eraseDups hascending).congr hmem

/-- The tokens are those words of more than one character that the pattern finds, without the later
repetitions of a word. They are the longest runs of word positions, in the order of the text. -/
theorem tokens_eq_runs (text : String) :
    (∃ found, (∀ others, Word.pattern.Finds text.toList others ↔ others = found) ∧
      tokens text = (found.filter fun w => 1 < w.length).eraseDups) ∧
    ∀ words, tokens text = words ↔ ListsByFirst (TokenAt text) words := by
  refine ⟨⟨Word.all text, fun others => ⟨fun h => ?_, ?_⟩, rfl⟩, fun words => ⟨?_, ?_⟩⟩
  · exact h.unique (Word.finds_scan text.toList)
  · rintro rfl
    exact Word.finds_scan text.toList
  · rintro rfl
    exact listsByFirst_tokens text
  · exact (listsByFirst_tokens text).unique

example : tokens "-ab'c--d-e f’' ab'c" = ["ab'c", "d-e"] := by decide +kernel

end Lemmata
