import Lemmata.Text.Word
import Mathlib.Data.List.TakeWhile
import Mathlib.Tactic.SplitIfs

/-! # Words are what a greedy pattern finds -/

namespace Lemmata

/-! ## Patterns -/

inductive Pattern where
  | one (allowed : Char → Bool)
  | seq (before after : Pattern)
  | many (body : Pattern)

namespace Pattern

/-- What is left after a step has been taken as often as possible, or else less often. -/
def repeated (step : List Char → List (List Char)) : Nat → List Char → List (List Char)
  | 0, cs => [cs]
  | rounds + 1, cs => (step cs).flatMap (repeated step rounds) ++ [cs]

/-- What can be left of a text after a match at its beginning, the best match first: a greedy
matcher with backtracking tries them in this order. Each repetition takes a character at least. -/
def rests : Pattern → List Char → List (List Char)
  | one _, [] => []
  | one allowed, c :: cs => if allowed c then [cs] else []
  | seq before after, cs => (before.rests cs).flatMap after.rests
  | many body, cs => repeated body.rests cs.length cs

/-- The matches from the left to the right, each the best one at its place and after the end of the
one before. -/
inductive Finds (p : Pattern) : List Char → List String → Prop
  | none : Finds p [] []
  | skipped {c : Char} {cs : List Char} {found : List String} (h : p.rests (c :: cs) = [])
      (hlater : Finds p cs found) : Finds p (c :: cs) found
  | matched {taken cs : List Char} {found : List String} (hsome : taken ≠ [])
      (h : (p.rests (taken ++ cs)).head? = some cs) (hlater : Finds p cs found) :
      Finds p (taken ++ cs) (String.ofList taken :: found)

variable {p : Pattern} {step : List Char → List (List Char)} {cs rest : List Char}
variable {found others : List String} {allowed : Char → Bool} {n : Nat}

theorem Finds.unique (h : p.Finds cs found) (h' : p.Finds cs others) : found = others := by
  induction h generalizing others with
  | none =>
    generalize hcs : ([] : List Char) = cs at h'
    cases h' with
    | none => rfl
    | skipped => cases hcs
    | matched hsome => exact absurd (List.append_eq_nil_iff.mp hcs.symm).1 hsome
  | @skipped c cs found hnone _ ih =>
    generalize hcs : c :: cs = all at h'
    cases h' with
    | none => cases hcs
    | skipped _ hlater =>
      cases hcs
      exact ih hlater
    | matched _ h =>
      rw [← hcs, hnone] at h
      cases h
  | @matched taken cs found hsome h _ ih =>
    generalize hcs : taken ++ cs = all at h'
    cases h' with
    | none => exact absurd (List.append_eq_nil_iff.mp hcs).1 hsome
    | skipped hnone =>
      rw [hcs, hnone] at h
      cases h
    | matched _ hother hlater =>
      rw [hcs, hother] at h
      obtain rfl := Option.some.inj h
      obtain rfl := List.append_cancel_right hcs
      rw [ih hlater]

/-! ## The best match -/

theorem head?_flatMap_of_head? {α β : Type} {as : List α} {f : α → List β} {a : α} {b : β}
    (ha : as.head? = some a) (hb : (f a).head? = some b) : (as.flatMap f).head? = some b := by
  obtain ⟨later, rfl⟩ := List.head?_eq_some_iff.mp ha
  rw [List.flatMap_cons, List.head?_append, hb, Option.some_or]

theorem head?_repeated_of_nil (h : step cs = []) : (repeated step n cs).head? = some cs := by
  cases n with
  | zero => rfl
  | succ n => rw [repeated, h, List.flatMap_nil, List.nil_append, List.head?_cons]

theorem head?_repeated_succ {last : List Char} (h : (step cs).head? = some rest)
    (hlast : (repeated step n rest).head? = some last) :
    (repeated step (n + 1) cs).head? = some last := by
  rw [repeated, List.head?_append, head?_flatMap_of_head? h hlast, Option.some_or]

theorem head?_many_one (h : cs.length ≤ n) :
    (repeated (one allowed).rests n cs).head? = some (cs.dropWhile allowed) := by
  induction cs generalizing n with
  | nil => exact head?_repeated_of_nil rfl
  | cons c cs ih =>
    rw [List.dropWhile_cons]
    split_ifs with hc
    · obtain ⟨n, rfl⟩ := Nat.exists_eq_succ_of_ne_zero (Nat.ne_zero_of_lt h)
      have hstep : ((one allowed).rests (c :: cs)).head? = some cs := by simp [rests, hc]
      exact head?_repeated_succ hstep (ih (Nat.le_of_succ_le_succ h))
    · exact head?_repeated_of_nil (by simp [rests, hc])

end Pattern

namespace Word

open Pattern

variable {c : Char} {cs current : List Char} {n : Nat}

def letters : Pattern :=
  .seq (.one isWordChar) (.many (.one isWordChar))

def joined : Pattern :=
  .seq (.one isJoiner) letters

def pattern : Pattern :=
  .seq letters (.many joined)

def afterWord : List Char → List Char
  | [] => []
  | c :: cs => if isWordChar c || isJoiner c && startsWord cs then afterWord cs else c :: cs

theorem rests_letters_of_not (h : startsWord cs = false) : letters.rests cs = [] := by
  cases cs with
  | nil => rfl
  | cons c cs => simp [letters, rests, show isWordChar c = false from h]

theorem head?_letters (h : startsWord cs = true) :
    (letters.rests cs).head? = some (cs.dropWhile isWordChar) := by
  cases cs with
  | nil => cases h
  | cons c cs =>
    have hc : isWordChar c = true := h
    have hfirst : ((one isWordChar).rests (c :: cs)).head? = some cs := by simp [rests, hc]
    rw [List.dropWhile_cons_of_pos hc]
    exact head?_flatMap_of_head? hfirst (head?_many_one (Nat.le_refl _))

theorem head?_many_joined (h : (cs.dropWhile isWordChar).length ≤ n) :
    (repeated joined.rests n (cs.dropWhile isWordChar)).head? = some (afterWord cs) := by
  induction cs generalizing n with
  | nil => exact head?_repeated_of_nil rfl
  | cons c cs ih =>
    rw [List.dropWhile_cons] at h ⊢
    rw [afterWord]
    cases hchar : isWordChar c with
    | true => simpa using ih (by simpa [hchar] using h)
    | false =>
      rw [hchar, if_neg Bool.false_ne_true] at h
      rw [if_neg Bool.false_ne_true, Bool.false_or]
      split_ifs with hjoins
      · -- The joiner and the letters after it take one of the repetitions that are left.
        obtain ⟨hjoiner, hstarts⟩ := Bool.and_eq_true_iff.mp hjoins
        obtain ⟨n, rfl⟩ := Nat.exists_eq_succ_of_ne_zero (Nat.ne_zero_of_lt h)
        have hfirst : ((one isJoiner).rests (c :: cs)).head? = some cs := by simp [rests, hjoiner]
        have hlater : (cs.dropWhile isWordChar).length ≤ n :=
          Nat.le_trans (List.length_dropWhile_le _ cs) (Nat.le_of_succ_le_succ h)
        have hjoined := head?_flatMap_of_head? hfirst (head?_letters hstarts)
        exact head?_repeated_succ hjoined (ih hlater)
      · refine head?_repeated_of_nil ?_
        cases hjoiner : isJoiner c with
        | false => simp [joined, rests, hjoiner]
        | true =>
          have hstarts : startsWord cs = false := by simpa [hjoiner] using hjoins
          simp [joined, rests, hjoiner, rests_letters_of_not hstarts]

theorem rests_pattern_of_not (h : startsWord cs = false) : pattern.rests cs = [] := by
  rw [pattern, rests, rests_letters_of_not h, List.flatMap_nil]

theorem head?_pattern (h : isWordChar c = true) :
    (pattern.rests (c :: cs)).head? = some (afterWord cs) := by
  have hletters : (letters.rests (c :: cs)).head? = some (cs.dropWhile isWordChar) := by
    rw [head?_letters (show startsWord (c :: cs) = true from h), List.dropWhile_cons_of_pos h]
  exact head?_flatMap_of_head? hletters (head?_many_joined (Nat.le_refl _))

/-! ## Scanning finds the same -/

theorem scan_skip (h : isWordChar c = false) : scan [] (c :: cs) = scan [] cs := by
  have hcontinues : continues [] c cs = false := by simp [continues, h]
  rw [scan, hcontinues]
  rfl

theorem scan_inside : ∃ taken, cs = taken ++ afterWord cs ∧ scan (c :: current) cs =
    String.ofList ((c :: current).reverse ++ taken) :: scan [] (afterWord cs) := by
  induction cs generalizing c current with
  | nil => exact ⟨[], rfl, by simp [scan, afterWord, finish]⟩
  | cons d cs ih =>
    have hcontinues : continues (c :: current) d cs =
        (isWordChar d || isJoiner d && startsWord cs) := by simp [continues]
    rw [scan, hcontinues, afterWord]
    split_ifs with hgoes
    · obtain ⟨taken, hcs, hscan⟩ := @ih d (c :: current)
      refine ⟨d :: taken, by rw [List.cons_append, ← hcs], ?_⟩
      rw [hscan, List.reverse_cons, List.append_assoc, List.singleton_append]
    · have hchar : isWordChar d = false := by
        rw [Bool.or_eq_true, not_or, Bool.not_eq_true] at hgoes
        exact hgoes.1
      exact ⟨[], rfl, by simp [finish, scan_skip hchar]⟩

/-- The words are what the pattern finds. -/
theorem finds_scan (cs : List Char) : pattern.Finds cs (scan [] cs) := by
  induction hlength : cs.length using Nat.strongRecOn generalizing cs with
  | _ n ih =>
    cases cs with
    | nil => exact .none
    | cons c cs =>
      rw [List.length_cons] at hlength
      cases hchar : isWordChar c with
      | false =>
        rw [scan_skip hchar]
        exact .skipped (rests_pattern_of_not hchar) (ih _ (by omega) cs rfl)
      | true =>
        have hcontinues : continues [] c cs = true := by simp [continues, hchar]
        obtain ⟨taken, hcs, hscan⟩ := @scan_inside c cs []
        have hshorter : (afterWord cs).length < n := by
          have hsum := congrArg List.length hcs
          rw [List.length_append] at hsum
          omega
        have hmatched : pattern.Finds (c :: taken ++ afterWord cs)
            (String.ofList (c :: taken) :: scan [] (afterWord cs)) := by
          refine .matched (List.cons_ne_nil _ _) ?_ (ih _ hshorter _ rfl)
          rw [List.cons_append, ← hcs]
          exact head?_pattern hchar
        rw [List.cons_append, ← hcs] at hmatched
        rw [scan, hcontinues, if_pos rfl, hscan]
        exact hmatched

end Word

end Lemmata
