import Lemmata.Proofs.Decimal.Shortest

/-! # Rounding gives doubles in normal form -/

namespace Lemmata.Binary64

open Decimal

variable {num den n : Nat} {negative : Bool} {x y z : Binary64}

/-! ## The exponent -/

theorem zpow_log2_le (h : n ≠ 0) : (2 : ℚ) ^ (n.log2 : Int) ≤ n := by
  rw [zpow_natCast]
  exact_mod_cast Nat.log2_self_le h

theorem lt_zpow_log2 (n : Nat) : (n : ℚ) < 2 ^ ((n.log2 : Int) + 1) := by
  rw [← Nat.cast_one, ← Nat.cast_add, zpow_natCast]
  exact_mod_cast Nat.lt_log2_self

theorem log2_bounds (hnum : num ≠ 0) (hden : den ≠ 0) (k : Int) :
    (2 : ℚ) ^ (k - 1) < num / den / 2 ^ ((num.log2 : Int) - den.log2 - k) ∧
      (num / den / 2 ^ ((num.log2 : Int) - den.log2 - k) : ℚ) < 2 ^ (k + 1) := by
  have htwo : (2 : ℚ) ≠ 0 := by norm_num
  have hpos : (0 : ℚ) < den := Nat.cast_pos.mpr (Nat.pos_of_ne_zero hden)
  have hunit : (0 : ℚ) < 2 ^ ((num.log2 : Int) - den.log2 - k) := by positivity
  rw [lt_div_iff₀ hunit, div_lt_iff₀ hunit, ← zpow_add₀ htwo, ← zpow_add₀ htwo, lt_div_iff₀ hpos,
    div_lt_iff₀ hpos]
  constructor
  · calc (2 : ℚ) ^ (k - 1 + ((num.log2 : Int) - den.log2 - k)) * den
        < 2 ^ (k - 1 + ((num.log2 : Int) - den.log2 - k)) * 2 ^ ((den.log2 : Int) + 1) :=
          mul_lt_mul_of_pos_left (lt_zpow_log2 den) (by positivity)
      _ = 2 ^ (num.log2 : Int) := by
          rw [← zpow_add₀ htwo]
          congr 1
          ring
      _ ≤ num := zpow_log2_le hnum
  · calc (num : ℚ) < 2 ^ ((num.log2 : Int) + 1) := lt_zpow_log2 num
      _ = 2 ^ (k + 1 + ((num.log2 : Int) - den.log2 - k)) * 2 ^ (den.log2 : Int) := by
          rw [← zpow_add₀ htwo]
          congr 1
          ring
      _ ≤ 2 ^ (k + 1 + ((num.log2 : Int) - den.log2 - k)) * den :=
          mul_le_mul_of_nonneg_left (zpow_log2_le hden) (by positivity)

/-- The exponent that the leading bits suggest; the one below may be meant. -/
def guess (num den : Nat) : Int :=
  num.log2 - den.log2 - 52

theorem exponentFor_eq (num den : Nat) : exponentFor num den = max leastExponent
    (if (scaled 2 num den (guess num den)).1 / (scaled 2 num den (guess num den)).2 < Nat.pow 2 52
      then guess num den - 1 else guess num den) :=
  rfl

theorem exists_exponentFor (hnum : num ≠ 0) (hden : den ≠ 0) :
    ∃ exponent, exponentFor num den = max leastExponent exponent ∧
      (2 : ℚ) ^ 52 ≤ num / den / 2 ^ exponent ∧ (num / den / 2 ^ exponent : ℚ) < 2 ^ 53 := by
  have hpos := scaled_pos num (guess num den) (show 0 < 2 by decide) (Nat.pos_of_ne_zero hden)
  have heq := scaled_eq 2 num den (guess num den)
  obtain ⟨hlow, hhigh⟩ : (2 : ℚ) ^ 51 < num / den / 2 ^ guess num den ∧
      (num / den / 2 ^ guess num den : ℚ) < 2 ^ 53 := log2_bounds hnum hden 52
  refine ⟨_, exponentFor_eq num den, ?_⟩
  generalize guess num den = exponent at hpos heq hlow hhigh ⊢
  generalize scaled 2 num den exponent = r at hpos heq ⊢
  have hsmall : r.1 / r.2 < Nat.pow 2 52 ↔ (num / den / 2 ^ exponent : ℚ) < 2 ^ 52 := by
    rw [Nat.cast_ofNat] at heq
    rw [Nat.div_lt_iff_lt_mul hpos, ← heq, div_lt_iff₀ (Nat.cast_pos.mpr hpos), Nat.pow_eq]
    exact_mod_cast Iff.rfl
  split
  · next hless =>
    rw [hsmall] at hless
    have htwice : (num / den / 2 ^ (exponent - 1) : ℚ) = 2 * (num / den / 2 ^ exponent) := by
      rw [zpow_sub₀ (by norm_num), zpow_one]
      field_simp
    rw [htwice]
    constructor <;> linarith
  · next hnot =>
    rw [hsmall, not_lt] at hnot
    exact ⟨hnot, hhigh⟩

/-- Fifty-three bits are left before the point, but for the least exponent. -/
theorem exponentFor_bounds (hnum : num ≠ 0) (hden : den ≠ 0) :
    (num / den / 2 ^ exponentFor num den : ℚ) < 2 ^ 53 ∧
      (exponentFor num den ≠ leastExponent →
        (2 : ℚ) ^ 52 ≤ num / den / 2 ^ exponentFor num den) := by
  obtain ⟨exponent, heq, hlow, hhigh⟩ := exists_exponentFor hnum hden
  rw [heq]
  constructor
  · have hle : (2 : ℚ) ^ exponent ≤ 2 ^ max leastExponent exponent :=
      zpow_le_zpow_right₀ (by norm_num) (le_max_right _ _)
    exact (div_le_div_of_nonneg_left (by positivity) (by positivity) hle).trans_lt hhigh
  · intro hne
    rwa [max_eq_right (le_of_not_ge fun hle => hne (max_eq_left hle))]

/-! ## Rounding -/

theorem roundDiv_le (hden : 0 < den) (h : (num / den : ℚ) < n) : roundDiv num den ≤ n := by
  obtain ⟨-, hle⟩ := abs_le.mp (roundDiv_near num hden)
  have hlt : (roundDiv num den : ℚ) < (n + 1 : Nat) := by
    push_cast
    linarith
  exact Nat.le_of_lt_succ (Nat.cast_lt.mp hlt)

theorem le_roundDiv (hden : 0 < den) (h : (n : ℚ) ≤ num / den) : n ≤ roundDiv num den := by
  obtain ⟨hge, -⟩ := abs_le.mp (roundDiv_near num hden)
  have hlt : (n : ℚ) < (roundDiv num den + 1 : Nat) := by
    push_cast
    linarith
  exact Nat.le_of_lt_succ (Nat.cast_lt.mp hlt)

theorem isNormal_zero (negative : Bool) : IsNormal { zero with negative } where
  significand_lt := Nat.two_pow_pos 53
  least_le := Int.le_refl _
  le_greatest := show leastExponent ≤ greatestExponent by decide
  leading := fun hne => absurd rfl hne

/-- The significand before a carry. -/
def rounded (num den : Nat) : Nat :=
  roundDiv (scaled 2 num den (exponentFor num den)).1 (scaled 2 num den (exponentFor num den)).2

theorem ofRatio?_eq (hnum : num ≠ 0) : ofRatio? negative num den =
    if rounded num den = 2 ^ 53 then
      if greatestExponent < exponentFor num den + 1 then none
      else some ⟨negative, 2 ^ 52, exponentFor num den + 1⟩
    else if greatestExponent < exponentFor num den then none
    else some ⟨negative, rounded num den, exponentFor num den⟩ := by
  have hnonzero : ¬ (num == 0) = true := by rwa [beq_iff_eq]
  have hcarry : ofRatio? negative num den =
      let r := if (rounded num den == Nat.pow 2 53) = true
        then (Nat.pow 2 52, exponentFor num den + 1) else (rounded num den, exponentFor num den)
      if greatestExponent < r.2 then none else some ⟨negative, r.1, r.2⟩ :=
    if_neg hnonzero
  rw [hcarry]
  simp only [beq_iff_eq, Nat.pow_eq]
  split <;> rfl

theorem rounded_bounds (hnum : num ≠ 0) (hden : den ≠ 0) : rounded num den ≤ 2 ^ 53 ∧
    (exponentFor num den ≠ leastExponent → 2 ^ 52 ≤ rounded num den) := by
  have hpos := scaled_pos num (exponentFor num den) (show 0 < 2 by decide)
    (Nat.pos_of_ne_zero hden)
  have heq := scaled_eq 2 num den (exponentFor num den)
  rw [Nat.cast_ofNat] at heq
  obtain ⟨hhigh, hlow⟩ := exponentFor_bounds hnum hden
  rw [← heq] at hhigh hlow
  refine ⟨roundDiv_le hpos ?_, fun hne => le_roundDiv hpos ?_⟩
  · exact_mod_cast hhigh
  · exact_mod_cast hlow hne

theorem isNormal_ofRatio? (hden : den ≠ 0) (h : ofRatio? negative num den = some x) : x.IsNormal := by
  by_cases hnum : num = 0
  · subst hnum
    cases h
    exact isNormal_zero negative
  · obtain ⟨hle, hleading⟩ := rounded_bounds hnum hden
    have hleast : leastExponent ≤ exponentFor num den := le_max_left _ _
    rw [ofRatio?_eq hnum] at h
    split_ifs at h with hcarry hlarge hlarge
    · cases h
      have hless : 2 ^ 52 < 2 ^ 53 := Nat.pow_lt_pow_right (by decide) (by decide)
      exact ⟨hless, Int.le_add_one hleast, not_lt.mp hlarge, fun _ => Nat.le_refl _⟩
    · cases h
      exact ⟨Nat.lt_of_le_of_ne hle hcarry, hleast, not_lt.mp hlarge, hleading⟩

theorem ofNat?_ne_zero (hn : n ≠ 0) (h : ofNat? n = some x) : x.significand ≠ 0 := by
  have hrounded : rounded n 1 ≠ 0 := by
    by_cases hleast : exponentFor n 1 = leastExponent
    · have hpos := scaled_pos n leastExponent (show 0 < 2 by decide) Nat.one_pos
      have heq := scaled_eq 2 n 1 leastExponent
      rw [Nat.cast_one, div_one, Nat.cast_ofNat] at heq
      have hone : (1 : ℚ) ≤ n := by exact_mod_cast Nat.pos_of_ne_zero hn
      have hunit : (2 : ℚ) ^ leastExponent ≤ 1 := zpow_le_one_of_nonpos₀ (by norm_num) (by decide)
      have hle : 1 ≤ rounded n 1 := by
        rw [rounded, hleast]
        refine le_roundDiv hpos ?_
        rw [heq, Nat.cast_one, le_div_iff₀ (by positivity)]
        linarith
      omega
    · have := (rounded_bounds hn Nat.one_ne_zero).2 hleast
      omega
  rw [ofNat?, ofRatio?_eq hn] at h
  split_ifs at h <;> cases h
  · exact (Nat.two_pow_pos 52).ne'
  · exact hrounded

/-! ## Operations -/

theorem isNormal_ofNat? (h : ofNat? n = some x) : x.IsNormal :=
  isNormal_ofRatio? Nat.one_ne_zero h

theorem isNormal_mul? (h : mul? x y = some z) : z.IsNormal :=
  isNormal_ofRatio? (Nat.mul_pos (ratio_size_pos x) (ratio_size_pos y)).ne' h

theorem isNormal_div? (hy : y.significand ≠ 0) (h : div? x y = some z) : z.IsNormal := by
  have hnum : 0 < y.ratio.1 := expanded_fst_pos y.exponent (by decide) (Nat.pos_of_ne_zero hy)
  exact isNormal_ofRatio? (Nat.mul_pos (ratio_size_pos x) hnum).ne' h

theorem IsNormal.neg (h : x.IsNormal) : x.neg.IsNormal :=
  ⟨h.significand_lt, h.least_le, h.le_greatest, h.leading⟩

theorem powerOfTen?_ne_zero (h : powerOfTen? n = some x) : x.significand ≠ 0 :=
  ofNat?_ne_zero (Nat.pow_pos (by decide)).ne' h

end Lemmata.Binary64
