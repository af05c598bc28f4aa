import Lemmata.Decimal.Count

/-! # Whole numbers as they are typed -/

namespace Lemmata.Decimal

variable {cs digits : List Char} {n : Nat}

/-! ## Digits -/

theorem valueOf_eq (digits : List Char) : valueOf digits = Nat.ofDigitChars 10 digits 0 := by
  rw [valueOf, Nat.ofDigitChars_eq_foldl]
  simp only [Nat.mul_comm]
  rfl

theorem natural?_eq_some_iff : natural? digits = some n ↔
    digits ≠ [] ∧ (∀ c ∈ digits, c.isDigit = true) ∧ Nat.ofDigitChars 10 digits 0 = n := by
  rw [natural?, ← valueOf_eq]
  by_cases hnil : digits = []
  · simp [hnil]
  · by_cases hdigits : ∀ c ∈ digits, c.isDigit = true
    · rw [List.all_eq_true.mpr hdigits]
      simpa [hnil] using fun _ => hdigits
    · simp [hnil, Bool.eq_false_iff.mpr (mt List.all_eq_true.mp hdigits), hdigits]

/-! ## Signs -/

theorem exists_sign (cs : List Char) :
    ∃ sign, cs = sign ++ dropPlus cs ∧ (sign = [] ∨ sign = ['+']) := by
  unfold dropPlus
  split
  · exact ⟨['+'], rfl, .inr rfl⟩
  · exact ⟨[], rfl, .inl rfl⟩

theorem dropPlus_of_isDigit (h : ∀ c ∈ digits, c.isDigit = true) : dropPlus digits = digits := by
  unfold dropPlus
  split
  · cases h '+' List.mem_cons_self
  · rfl

/-! ## Counts -/

/-- Digits of a number that fits 64 bits, with a plus sign at most. -/
def Counts (cs : List Char) (n : Nat) : Prop :=
  ∃ sign digits, cs = sign ++ digits ∧ (sign = [] ∨ sign = ['+']) ∧
    digits ≠ [] ∧ (∀ c ∈ digits, c.isDigit = true) ∧ Nat.ofDigitChars 10 digits 0 = n ∧
    n < UInt64.size

theorem count?_eq_some_iff : count? cs = some n ↔ Counts cs n := by
  have hlimit : n ≤ greatestCount ↔ n < UInt64.size := Nat.le_iff_lt_add_one
  rw [count?, Option.filter_eq_some_iff, decide_eq_true_iff, hlimit, natural?_eq_some_iff]
  constructor
  · rintro ⟨⟨hnil, hdigits, hvalue⟩, hfits⟩
    obtain ⟨sign, hsplit, hsign⟩ := exists_sign cs
    exact ⟨sign, dropPlus cs, hsplit, hsign, hnil, hdigits, hvalue, hfits⟩
  · rintro ⟨sign, digits, rfl, hsign, hnil, hdigits, hvalue, hfits⟩
    have hdrop : dropPlus (sign ++ digits) = digits := by
      rcases hsign with rfl | rfl
      · exact dropPlus_of_isDigit hdigits
      · rfl
    rw [hdrop]
    exact ⟨⟨hnil, hdigits, hvalue⟩, hfits⟩

/-! ## Integers -/

theorem isDigit_toDigits {c : Char} (h : c ∈ Nat.toDigits 10 n) : c.isDigit = true :=
  Nat.isDigit_of_mem_toDigits (by decide) (by decide) h

theorem natural?_toDigits (n : Nat) : natural? (Nat.toDigits 10 n) = some n :=
  natural?_eq_some_iff.mpr ⟨Nat.toDigits_ne_nil, fun _ => isDigit_toDigits,
    Nat.ofDigitChars_ten_toDigits⟩

theorem signed?_of_isDigit (h : ∀ c ∈ digits, c.isDigit = true) :
    signed? digits = (natural? digits).map fun n => (n : Int) := by
  unfold signed?
  split
  · cases h '-' List.mem_cons_self
  · rw [dropPlus_of_isDigit h]

theorem signed?_toString (n : Int) : signed? (toString n).toList = some n := by
  cases n with
  | ofNat m =>
    have htext : (toString (Int.ofNat m)).toList = Nat.toDigits 10 m := Nat.toList_repr
    rw [htext, signed?_of_isDigit fun _ => isDigit_toDigits, natural?_toDigits]
    rfl
  | negSucc m =>
    have htext : (toString (Int.negSucc m)).toList = '-' :: Nat.toDigits 10 (m + 1) := by
      change ("-" ++ Nat.repr (m + 1)).toList = _
      rw [String.toList_append, Nat.toList_repr]
      rfl
    rw [htext, signed?, natural?_toDigits]
    rfl

theorem integer?_toString {n : Int} (h : -0x8000000000000000 ≤ n) (h' : n < 0x8000000000000000) :
    integer? (toString n).toList = some n := by
  rw [integer?, signed?_toString, Option.filter_some, if_pos (decide_eq_true ⟨h, h'⟩)]

end Lemmata.Decimal
