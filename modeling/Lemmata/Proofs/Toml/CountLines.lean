import Lemmata.Proofs.Decimal.Typed
import Lemmata.Proofs.Json.Literals
import Lemmata.Toml.Reader
import Mathlib.Data.List.Basic

/-! # Lines that set a name to a number -/

namespace Lemmata.Toml

variable {n : Nat} {ds rest cs : List Char}

/-! ## Digits -/

theorem isDigitRun_of_isDigit (hnil : ds ≠ []) (h : ∀ c ∈ ds, c.isDigit = true) :
    isDigitRun Char.isDigit ds = true := by
  fun_induction isDigitRun Char.isDigit ds with
  | case1 => exact absurd rfl hnil
  | case2 c => exact h c List.mem_cons_self
  | case3 c rest => cases h '_' (by simp)
  | case4 c rest _ hrest ih =>
    have hne : rest ≠ [] := fun heq => by simp_all
    rw [h c List.mem_cons_self, ih hne fun d hd => h d (List.mem_cons_of_mem c hd)]
    rfl

theorem numberOf_of_isDigit (h : ∀ c ∈ ds, c.isDigit = true) :
    numberOf 10 ds = Nat.ofDigitChars 10 ds 0 := by
  have hkept : ds.filter (· != '_') = ds := List.filter_eq_self.mpr fun c hc => by
    have hdigit := h c hc
    rw [bne_iff_ne]
    rintro rfl
    cases hdigit
  rw [numberOf, hkept, Nat.ofDigitChars_eq_foldl]
  refine List.foldl_ext _ _ _ fun k c hc => ?_
  rw [digitValue, if_pos (h c hc), Nat.mul_comm]
  rfl

theorem isDecimal_toDigits (n : Nat) : isDecimal (Nat.toDigits 10 n) = true := by
  rw [isDecimal, isDigitRun_of_isDigit Nat.toDigits_ne_nil fun c hc => Decimal.isDigit_toDigits hc,
    Bool.true_and, Bool.or_eq_true]
  by_cases h : (Nat.toDigits 10 n).head? = some '0'
  · rw [Json.Reader.eq_zero_of_head?_toDigits h]
    exact .inr rfl
  · exact .inl (bne_iff_ne.mpr h)

theorem integer?_of_lt (h : n < 0x8000000000000000) : integer? n = some (.integer n) :=
  if_pos (by omega)

theorem number?_toDigits (h : n < 0x8000000000000000) :
    number? (Nat.toDigits 10 n) = some (.integer n) := by
  have hdigit : ∀ c ∈ Nat.toDigits 10 n, c.isDigit = true := fun c hc => Decimal.isDigit_toDigits hc
  have hsign : splitSign (Nat.toDigits 10 n) = (false, Nat.toDigits 10 n) := by
    unfold splitSign
    split
    · next heq => cases hdigit '-' (heq ▸ List.mem_cons_self)
    · next heq => cases hdigit '+' (heq ▸ List.mem_cons_self)
    · rfl
  have hsecond : ∀ {a b : Char} {rest : List Char}, Nat.toDigits 10 n = a :: b :: rest →
      b.isDigit = true := fun heq => hdigit _ (heq ▸ by simp)
  unfold number?
  split
  · next heq => cases hsecond heq
  · next heq => cases hsecond heq
  · next heq => cases hsecond heq
  · rw [hsign]
    dsimp only
    rw [if_pos (isDecimal_toDigits n), if_neg Bool.false_ne_true, numberOf_of_isDigit hdigit,
      Nat.ofDigitChars_ten_toDigits]
    exact integer?_of_lt h

/-! ## A number at the end of a line -/

theorem afterChar?_of_fixedDigits? {mark : Char} {count v : Nat} (hmark : mark.isDigit = false)
    (hline : mark ≠ '\n') (hds : ∀ c ∈ ds, c.isDigit = true)
    (h : fixedDigits? count (ds ++ '\n' :: rest) = some (v, cs)) : afterChar? mark cs = none := by
  unfold fixedDigits? at h
  dsimp only at h
  split_ifs at h with htake
  obtain ⟨-, rfl⟩ := Prod.mk.inj (Option.some.inj h)
  rw [Bool.and_eq_true, beq_iff_eq, List.all_eq_true] at htake
  obtain ⟨hlength, hall⟩ := htake
  have hcount : count ≤ ds.length := by
    by_contra hlong
    have hend : '\n' ∈ (ds ++ '\n' :: rest).take count := by
      rw [List.take_append, List.take_of_length_le (by omega)]
      obtain ⟨k, hk⟩ : ∃ k, count - ds.length = k + 1 := ⟨count - ds.length - 1, by omega⟩
      simp [hk]
    cases hall '\n' hend
  rw [List.drop_append_of_le_length hcount]
  cases hdrop : ds.drop count with
  | nil => exact if_neg (by simpa using hline)
  | cons d ds' =>
    have hd : d.isDigit = true := hds d (List.mem_of_mem_drop (hdrop ▸ List.mem_cons_self))
    refine if_neg fun heq => ?_
    rw [eq_of_beq heq, hd] at hmark
    cases hmark

theorem afterMoment?_digits (hds : ∀ c ∈ ds, c.isDigit = true) :
    afterMoment? (ds ++ '\n' :: rest) = none := by
  -- Four digits could begin a date and two a time, but no mark comes after them.
  have hdate : afterDate? (ds ++ '\n' :: rest) = none := by
    unfold afterDate?
    cases hyear : fixedDigits? 4 (ds ++ '\n' :: rest) with
    | none => rfl
    | some found =>
      obtain ⟨year, cs⟩ := found
      have hnone : afterChar? '-' cs = none :=
        afterChar?_of_fixedDigits? rfl (by decide) hds hyear
      simp [hnone]
  have htime : afterTime? (ds ++ '\n' :: rest) = none := by
    unfold afterTime?
    cases hhour : fixedDigits? 2 (ds ++ '\n' :: rest) with
    | none => rfl
    | some found =>
      obtain ⟨hour, cs⟩ := found
      have hnone : afterChar? ':' cs = none :=
        afterChar?_of_fixedDigits? rfl (by decide) hds hhour
      simp [hnone]
  rw [afterMoment?, hdate, htime]

namespace Reader

theorem isWordChar_of_isDigit {c : Char} (h : c.isDigit = true) : isWordChar c = true := by
  simp [isWordChar, Char.isAlphanum, h]

theorem plain?_toDigits (h : n < 0x8000000000000000) (rest : List Char) :
    plain? (Nat.toDigits 10 n ++ '\n' :: rest) = some (.integer n, '\n' :: rest) := by
  have hdigit : ∀ c ∈ Nat.toDigits 10 n, c.isDigit = true :=
    fun c hc => Decimal.isDigit_toDigits hc
  have hword : ∀ c ∈ Nat.toDigits 10 n, isWordChar c = true :=
    fun c hc => isWordChar_of_isDigit (hdigit c hc)
  have hend : ¬ isWordChar '\n' = true := by decide
  have htake : (Nat.toDigits 10 n ++ '\n' :: rest).takeWhile isWordChar = Nat.toDigits 10 n := by
    rw [List.takeWhile_append_of_pos hword, List.takeWhile_cons_of_neg hend, List.append_nil]
  have hdrop : (Nat.toDigits 10 n ++ '\n' :: rest).dropWhile isWordChar = '\n' :: rest := by
    rw [List.dropWhile_append_of_pos hword, List.dropWhile_cons_of_neg hend]
  have htrue : Nat.toDigits 10 n ≠ "true".toList := fun heq => by
    cases hdigit 't' (heq ▸ by decide)
  have hfalse : Nat.toDigits 10 n ≠ "false".toList := fun heq => by
    cases hdigit 'f' (heq ▸ by decide)
  rw [plain?, afterMoment?_digits hdigit]
  dsimp only
  rw [htake, hdrop, if_neg (by simpa using htrue), if_neg (by simpa using hfalse),
    number?_toDigits h]
  rfl

theorem value_toDigits (h : n < 0x8000000000000000) (fuel room : Nat) (rest : List Char) :
    value (fuel + 1) room (Nat.toDigits 10 n ++ '\n' :: rest) =
      some (.integer n, '\n' :: rest) := by
  have hplain := plain?_toDigits h rest
  cases hdigits : Nat.toDigits 10 n with
  | nil => exact absurd hdigits Nat.toDigits_ne_nil
  | cons c ds =>
    have hc : c.isDigit = true := Decimal.isDigit_toDigits (hdigits ▸ List.mem_cons_self)
    rw [hdigits] at hplain
    rw [List.cons_append] at hplain ⊢
    unfold value
    split
    · next heq => cases (List.cons.inj heq).1 ▸ hc
    · next heq => cases (List.cons.inj heq).1 ▸ hc
    · next heq => cases (List.cons.inj heq).1 ▸ hc
    · next heq => cases (List.cons.inj heq).1 ▸ hc
    · exact hplain

/-! ## A line with a number -/

/-- A name that needs no quotes. -/
def IsBare (name : String) : Prop :=
  name ≠ "" ∧ ∀ c ∈ name.toList, isBareKeyChar c = true

def countLine (name : String) (n : Nat) : List Char :=
  name.toList ++ ' ' :: '=' :: ' ' :: (Nat.toDigits 10 n ++ ['\n'])

variable {name : String} {root : Draft.Members}

theorem ne_of_isBareKeyChar {c d : Char} (hc : isBareKeyChar c = true)
    (hd : isBareKeyChar d = false) : c ≠ d := by
  rintro rfl
  rw [hc] at hd
  cases hd

theorem skipSpaces_cons {c : Char} (h : isSpace c = false) (cs : List Char) :
    skipSpaces (c :: cs) = c :: cs :=
  List.dropWhile_cons_of_neg (by simp [h])

theorem isSpace_of_isBareKeyChar {c : Char} (h : isBareKeyChar c = true) : isSpace c = false := by
  have hspace := ne_of_isBareKeyChar h (d := ' ') rfl
  have htab := ne_of_isBareKeyChar h (d := '\t') rfl
  simp [isSpace, hspace, htab]

theorem skipSpaces_toDigits (n : Nat) (rest : List Char) :
    skipSpaces (Nat.toDigits 10 n ++ rest) = Nat.toDigits 10 n ++ rest := by
  cases hdigits : Nat.toDigits 10 n with
  | nil => exact absurd hdigits Nat.toDigits_ne_nil
  | cons c ds =>
    have hc : c.isDigit = true := Decimal.isDigit_toDigits (hdigits ▸ List.mem_cons_self)
    refine skipSpaces_cons ?_ _
    rw [← Bool.not_eq_true]
    intro hspace
    rcases Bool.or_eq_true_iff.mp hspace with h | h <;> cases eq_of_beq h ▸ hc

theorem IsBare.exists_cons (hname : IsBare name) :
    ∃ c cs, name.toList = c :: cs ∧ isBareKeyChar c = true := by
  obtain ⟨hne, hbare⟩ := hname
  cases hchars : name.toList with
  | nil => exact absurd (String.toList_eq_nil_iff.mp hchars) hne
  | cons c cs => exact ⟨c, cs, rfl, hbare c (hchars ▸ List.mem_cons_self)⟩

theorem simpleKey?_bare (hname : IsBare name) (fuel : Nat) (rest : List Char) :
    simpleKey? fuel (name.toList ++ ' ' :: rest) = some (name, ' ' :: rest) := by
  obtain ⟨c, cs, hchars, hc⟩ := hname.exists_cons
  have hend : ¬ isBareKeyChar ' ' = true := by decide
  have htake : (name.toList ++ ' ' :: rest).takeWhile isBareKeyChar = name.toList := by
    rw [List.takeWhile_append_of_pos hname.2, List.takeWhile_cons_of_neg hend, List.append_nil]
  have hdrop : (name.toList ++ ' ' :: rest).dropWhile isBareKeyChar = ' ' :: rest := by
    rw [List.dropWhile_append_of_pos hname.2, List.dropWhile_cons_of_neg hend]
  unfold simpleKey?
  split
  · next heq => exact absurd (List.cons.inj (hchars ▸ heq)).1 (ne_of_isBareKeyChar hc rfl)
  · next heq => exact absurd (List.cons.inj (hchars ▸ heq)).1 (ne_of_isBareKeyChar hc rfl)
  · rw [htake, hdrop]
    simp [hname.1]

theorem skipSpaces_bare (hname : IsBare name) (rest : List Char) :
    skipSpaces (name.toList ++ rest) = name.toList ++ rest := by
  obtain ⟨c, cs, hchars, hc⟩ := hname.exists_cons
  rw [hchars]
  exact skipSpaces_cons (isSpace_of_isBareKeyChar hc) _

theorem key?_bare (hname : IsBare name) (fuel : Nat) (rest : List Char) :
    key? (fuel + 1) (name.toList ++ ' ' :: '=' :: rest) = some ([name], '=' :: rest) := by
  have hkey : keyWithin (fuel + 1) (name.toList ++ ' ' :: '=' :: rest) =
      some ([name], '=' :: rest) := by
    rw [keyWithin, skipSpaces_bare hname, simpleKey?_bare hname]
    rfl
  rw [key?, hkey]
  rfl

theorem entry_countLine (hname : IsBare name) (hn : n < 0x8000000000000000)
    (hnew : root.lookup name = none) (fuel : Nat) (rest : List Char) :
    entry (fuel + 1) ⟨root, []⟩ (countLine name n ++ rest) =
      some (⟨root ++ [(name, .value (.integer n))], []⟩, '\n' :: rest) := by
  obtain ⟨c, cs, hchars, hc⟩ := hname.exists_cons
  have hline : countLine name n ++ rest =
      name.toList ++ ' ' :: '=' :: ' ' :: (Nat.toDigits 10 n ++ '\n' :: rest) := by
    simp [countLine]
  have hmember : entry (fuel + 1) ⟨root, []⟩ (countLine name n ++ rest) =
      member (fuel + 1) ⟨root, []⟩ (countLine name n ++ rest) := by
    unfold entry
    split
    · next heq =>
      rw [hline, hchars] at heq
      exact absurd (List.cons.inj heq).1 (ne_of_isBareKeyChar hc rfl)
    · next heq =>
      rw [hline, hchars] at heq
      exact absurd (List.cons.inj heq).1 (ne_of_isBareKeyChar hc rfl)
    · rfl
  have hadd : Draft.changeAt (Draft.addAt (.integer n) [name]) [] root =
      some (root ++ [(name, .value (.integer n))]) := by
    change Draft.addNew name (.integer n) root = _
    rw [Draft.addNew, hnew]
  have hspaces : skipSpaces (' ' :: (Nat.toDigits 10 n ++ '\n' :: rest)) =
      Nat.toDigits 10 n ++ '\n' :: rest := skipSpaces_toDigits n ('\n' :: rest)
  have hequals : afterChar? '=' ('=' :: ' ' :: (Nat.toDigits 10 n ++ '\n' :: rest)) =
      some (' ' :: (Nat.toDigits 10 n ++ '\n' :: rest)) := rfl
  rw [hmember, hline, member, key?_bare hname]
  simp only [hequals, hspaces, value_toDigits hn, hadd, Option.bind_eq_bind, Option.bind_some]

/-- A line that sets a new name to a number adds it to the table. -/
theorem lines_countLine (hname : IsBare name) (hn : n < 0x8000000000000000)
    (hnew : root.lookup name = none) (fuel : Nat) (rest : List Char) :
    lines (fuel + 2) ⟨root, []⟩ (countLine name n ++ rest) =
      lines (fuel + 1) ⟨root ++ [(name, .value (.integer n))], []⟩ rest := by
  obtain ⟨c, cs, hchars, hc⟩ := hname.exists_cons
  have hentry := entry_countLine hname hn hnew fuel rest
  obtain ⟨cs', hline⟩ : ∃ cs', countLine name n ++ rest = c :: cs' := by
    rw [countLine, hchars]
    exact ⟨_, rfl⟩
  have hempty : isEmptyLine (c :: cs') = false := by
    unfold isEmptyLine
    split
    · next heq => cases heq
    · next heq => exact absurd (List.cons.inj heq).1 (ne_of_isBareKeyChar hc rfl)
    · next heq => exact absurd (List.cons.inj heq).1 (ne_of_isBareKeyChar hc rfl)
    · next heq => exact absurd (List.cons.inj heq).1 (ne_of_isBareKeyChar hc rfl)
    · rfl
  have hnext : nextLine? ('\n' :: rest) = some rest := rfl
  rw [hline] at hentry ⊢
  rw [lines, skipSpaces_cons (isSpace_of_isBareKeyChar hc)]
  dsimp only
  rw [hempty, if_neg Bool.false_ne_true, hentry]
  dsimp only
  rw [hnext]

end Reader

end Lemmata.Toml
