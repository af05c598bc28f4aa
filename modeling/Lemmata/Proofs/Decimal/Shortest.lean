import Lemmata.Decimal.Shortest
import Mathlib.Algebra.Order.Field.Power
import Mathlib.Data.Rat.Cast.Order
import Mathlib.Tactic.FieldSimp
import Mathlib.Tactic.Linarith
import Mathlib.Tactic.NormNum
import Mathlib.Tactic.Positivity
import Mathlib.Tactic.Ring

/-! # The shortest decimal rounds to its double, and to no other -/

namespace Lemmata

variable {base num den : Nat} {exponent : Int}

/-! ## Exact values -/

namespace Binary64

/-- The absolute value. -/
def size (x : Binary64) : ℚ :=
  x.significand * 2 ^ x.exponent

/-- One of the numbers that a double can hold, in its only form. -/
structure IsNormal (x : Binary64) : Prop where
  significand_lt : x.significand < 2 ^ 53
  least_le : leastExponent ≤ x.exponent
  le_greatest : x.exponent ≤ greatestExponent
  leading : x.exponent ≠ leastExponent → 2 ^ 52 ≤ x.significand

theorem ne_zero_of_isZero {x : Binary64} (h : x.isZero = false) : x.significand ≠ 0 := by
  rwa [isZero, beq_eq_false_iff_ne] at h

end Binary64

namespace Decimal

def value (x : Decimal) : ℚ :=
  x.digits * 10 ^ x.exponent

/-! ## Ratios of natural numbers -/

def expanded (base n : Nat) (exponent : Int) : Nat × Nat :=
  if 0 ≤ exponent then (n * Nat.pow base exponent.toNat, 1)
  else (n, Nat.pow base (-exponent).toNat)

def scaled (base num den : Nat) (exponent : Int) : Nat × Nat :=
  if 0 ≤ exponent then (num, den * Nat.pow base exponent.toNat)
  else (num * Nat.pow base (-exponent).toNat, den)

theorem expanded_pos (n : Nat) (exponent : Int) (hbase : 0 < base) :
    0 < (expanded base n exponent).2 := by
  unfold expanded
  split
  · exact Nat.one_pos
  · exact Nat.pow_pos hbase

theorem expanded_fst_pos {n : Nat} (exponent : Int) (hbase : 0 < base) (hn : 0 < n) :
    0 < (expanded base n exponent).1 := by
  unfold expanded
  split
  · exact Nat.mul_pos hn (Nat.pow_pos hbase)
  · exact hn

theorem expanded_eq (base n : Nat) (exponent : Int) :
    ((expanded base n exponent).1 : ℚ) / (expanded base n exponent).2 = n * (base : ℚ) ^ exponent := by
  unfold expanded
  split
  · next h =>
    obtain ⟨k, rfl⟩ := Int.eq_ofNat_of_zero_le h
    simp
  · next h =>
    obtain ⟨k, hk⟩ := Int.eq_ofNat_of_zero_le (show 0 ≤ -exponent by omega)
    obtain rfl : exponent = -(k : Int) := by omega
    simp [div_eq_mul_inv]

theorem scaled_pos (num : Nat) (exponent : Int) (hbase : 0 < base) (hden : 0 < den) :
    0 < (scaled base num den exponent).2 := by
  unfold scaled
  split
  · exact Nat.mul_pos hden (Nat.pow_pos hbase)
  · exact hden

theorem scaled_eq (base num den : Nat) (exponent : Int) :
    ((scaled base num den exponent).1 : ℚ) / (scaled base num den exponent).2 =
      num / den / (base : ℚ) ^ exponent := by
  unfold scaled
  split
  · next h =>
    obtain ⟨k, rfl⟩ := Int.eq_ofNat_of_zero_le h
    simp [div_div]
  · next h =>
    obtain ⟨k, hk⟩ := Int.eq_ofNat_of_zero_le (show 0 ≤ -exponent by omega)
    obtain rfl : exponent = -(k : Int) := by omega
    simp [div_mul_eq_mul_div]

theorem ratio_pos (x : Decimal) : 0 < x.ratio.2 :=
  expanded_pos x.digits x.exponent (by decide)

theorem ratio_eq (x : Decimal) : (x.ratio.1 : ℚ) / x.ratio.2 = x.value := by
  have h := expanded_eq 10 x.digits x.exponent
  exact_mod_cast h

theorem ratio_size_pos (x : Binary64) : 0 < x.ratio.2 :=
  expanded_pos x.significand x.exponent (by decide)

theorem ratio_size (x : Binary64) : (x.ratio.1 : ℚ) / x.ratio.2 = x.size := by
  have h := expanded_eq 2 x.significand x.exponent
  exact_mod_cast h

/-! ## Rounding to a grid -/

theorem roundDiv_near (num : Nat) (hden : 0 < den) :
    |(Binary64.roundDiv num den : ℚ) - num / den| ≤ 1 / 2 := by
  have hpos : (0 : ℚ) < den := Nat.cast_pos.mpr hden
  have hnear : 2 * (den * Binary64.roundDiv num den) ≤ 2 * num + den ∧
      2 * num ≤ 2 * (den * Binary64.roundDiv num den) + den := by
    have hsplit := Nat.div_add_mod num den
    have hmod := Nat.mod_lt num hden
    unfold Binary64.roundDiv
    dsimp only
    split
    · next h =>
      simp only [Bool.or_eq_true, decide_eq_true_eq, Bool.and_eq_true, beq_iff_eq] at h
      rw [Nat.mul_add, Nat.mul_one]
      omega
    · next h =>
      simp only [Bool.or_eq_true, decide_eq_true_eq, not_or] at h
      omega
  obtain ⟨hle, hge⟩ : 2 * ((den : ℚ) * Binary64.roundDiv num den) ≤ 2 * num + den ∧
      2 * (num : ℚ) ≤ 2 * (den * Binary64.roundDiv num den) + den := by
    exact_mod_cast hnear
  have hnum : (num : ℚ) = num / den * den := (div_mul_cancel₀ _ hpos.ne').symm
  rw [abs_le]
  constructor
  · by_contra hlt
    nlinarith
  · by_contra hlt
    nlinarith

theorem pow_digitCount_le {n : Nat} (h : 0 < n) : 10 ^ (digitCount n - 1) ≤ n := by
  by_contra hlt
  have hpos : 0 < digitCount n - 1 := by
    by_contra hzero
    rw [Nat.eq_zero_of_not_pos hzero, Nat.pow_zero] at hlt
    omega
  have hle := (Nat.length_toDigits_le_iff (by decide) hpos).mpr (Nat.lt_of_not_le hlt)
  rw [← digitCount] at hle
  omega

theorem lt_pow_digitCount (n : Nat) : n < 10 ^ digitCount n :=
  (Nat.length_toDigits_le_iff (by decide) Nat.length_toDigits_pos).mp (Nat.le_refl _)

theorem pow_magnitude_le (hnum : 0 < num) (hden : 0 < den) :
    (10 : ℚ) ^ magnitude num den ≤ num / den := by
  have hpos : (0 : ℚ) < den := Nat.cast_pos.mpr hden
  have hone : ∀ n : Nat, 0 < digitCount n := fun n => Nat.length_toDigits_pos
  have hbelow : ∀ k : Nat, den ≤ num * 10 ^ k → (10 : ℚ) ^ (-(k : Int)) ≤ num / den := by
    intro k h
    have hcast : (den : ℚ) ≤ num * 10 ^ k := by exact_mod_cast h
    have hpow : (0 : ℚ) < 10 ^ k := by positivity
    rw [zpow_neg, zpow_natCast, le_div_iff₀ hpos, inv_mul_le_iff₀ hpow, mul_comm]
    exact hcast
  unfold magnitude
  dsimp only
  split
  · next hle =>
    obtain ⟨k, hk⟩ : ∃ k, digitCount (num / den) = k + 1 := ⟨_, (Nat.succ_pred_eq_of_pos (hone _)).symm⟩
    have hpow := pow_digitCount_le (Nat.div_pos hle hden)
    rw [hk, Nat.add_sub_cancel] at hpow
    have hcast : ((10 ^ k * den : Nat) : ℚ) ≤ num :=
      Nat.cast_le.mpr ((Nat.mul_le_mul_right den hpow).trans (Nat.div_mul_le_self num den))
    rw [hk, Nat.cast_add, Nat.cast_one, Int.add_sub_cancel, zpow_natCast, le_div_iff₀ hpos]
    exact_mod_cast hcast
  · split
    · next hle =>
      obtain ⟨k, hk⟩ : ∃ k, digitCount (den / num) = k + 1 :=
        ⟨_, (Nat.succ_pred_eq_of_pos (hone _)).symm⟩
      rw [hk, Nat.add_sub_cancel] at hle
      rw [hk, Nat.cast_add, Nat.cast_one, Int.add_sub_cancel]
      exact hbelow k hle
    · refine hbelow _ ?_
      have hdiv := Nat.lt_mul_div_succ den hnum
      exact (hdiv.trans_le (Nat.mul_le_mul_left num (lt_pow_digitCount _))).le

def grid (num den count : Nat) : Int :=
  magnitude num den - (count : Int) + 1

theorem headD_neighbours (num den count : Nat) (x : Decimal) :
    (neighbours num den count).headD x =
      ⟨Binary64.roundDiv (scaled 10 num den (grid num den count)).1
        (scaled 10 num den (grid num den count)).2, grid num den count⟩ :=
  rfl

/-- Seventeen digits leave less than one part in `2 * 10 ^ 16`. -/
theorem headD_neighbours_near (hnum : 0 < num) (hden : 0 < den) (x : Decimal) :
    |((neighbours num den 17).headD x).value - num / den| ≤ num / den / (2 * 10 ^ 16) := by
  have hunit : (0 : ℚ) < 10 ^ grid num den 17 := by positivity
  have hpos : 0 < (scaled 10 num den (grid num den 17)).2 :=
    scaled_pos num (grid num den 17) (by decide) hden
  have hround := roundDiv_near (scaled 10 num den (grid num den 17)).1 hpos
  rw [scaled_eq, Nat.cast_ofNat] at hround
  have hgrid : (10 : ℚ) ^ grid num den 17 = 10 ^ magnitude num den / 10 ^ 16 := by
    rw [grid, ← zpow_natCast (10 : ℚ) 16, ← zpow_sub₀ (by norm_num)]
    congr 1
    push_cast
    ring
  have hlead := pow_magnitude_le hnum hden
  rw [headD_neighbours, value]
  generalize (Binary64.roundDiv _ _ : Nat) = nearest at hround ⊢
  calc |(nearest : ℚ) * 10 ^ grid num den 17 - num / den|
      = |(nearest : ℚ) - num / den / 10 ^ grid num den 17| * 10 ^ grid num den 17 := by
        rw [← abs_of_pos hunit, ← abs_mul, abs_of_pos hunit, sub_mul, div_mul_cancel₀ _ hunit.ne']
    _ ≤ 1 / 2 * 10 ^ grid num den 17 := by gcongr
    _ = 10 ^ magnitude num den / (2 * 10 ^ 16) := by rw [hgrid]; ring
    _ ≤ num / den / (2 * 10 ^ 16) := by gcongr

/-! ## The interval of a double -/

def Interval.Holds (i : Interval) (q : ℚ) : Prop :=
  if i.closed then i.low * 2 ^ i.unit ≤ q ∧ q ≤ i.high * 2 ^ i.unit
  else i.low * 2 ^ i.unit < q ∧ q < i.high * 2 ^ i.unit

theorem Interval.contains_eq {i : Interval} {x : Decimal} {n d : Nat}
    (h : scaled 2 x.ratio.1 x.ratio.2 i.unit = (n, d)) : i.contains x =
      if i.closed then decide (i.low * d ≤ n) && decide (n ≤ i.high * d)
      else decide (i.low * d < n) && decide (n < i.high * d) := by
  obtain rfl : n = _ := congrArg Prod.fst h.symm
  obtain rfl : d = _ := congrArg Prod.snd h.symm
  rfl

theorem Interval.contains_iff {i : Interval} {x : Decimal} : i.contains x = true ↔ i.Holds x.value := by
  have hunit : (0 : ℚ) < 2 ^ i.unit := by positivity
  have hden := scaled_pos x.ratio.1 i.unit (show 0 < 2 by decide) x.ratio_pos
  have heq := scaled_eq 2 x.ratio.1 x.ratio.2 i.unit
  rw [ratio_eq, Nat.cast_ofNat] at heq
  cases hr : scaled 2 x.ratio.1 x.ratio.2 i.unit with
  | mk n d =>
    rw [hr] at hden heq
    have hpos : (0 : ℚ) < d := Nat.cast_pos.mpr hden
    rw [contains_eq hr, Interval.Holds, ← le_div_iff₀ hunit, ← div_le_iff₀ hunit,
      ← lt_div_iff₀ hunit, ← div_lt_iff₀ hunit, ← heq, le_div_iff₀ hpos, div_le_iff₀ hpos,
      lt_div_iff₀ hpos, div_lt_iff₀ hpos]
    norm_cast
    split <;> rw [Bool.and_eq_true, decide_eq_true_iff, decide_eq_true_iff]

/-! ## The doubles around a double -/

section

variable {x y : Binary64} {q : ℚ}

theorem size_eq (x : Binary64) : x.size = 4 * x.significand * 2 ^ (x.exponent - 2) := by
  rw [Binary64.size, zpow_sub₀ (by norm_num)]
  ring

theorem low_intervalOf (hne : x.isZero = false) :
    (x.significand = 2 ^ 52 ∧ x.exponent ≠ Binary64.leastExponent ∧
      ((intervalOf x).low : ℚ) = 4 * x.significand - 1) ∨
    (¬(x.significand = 2 ^ 52 ∧ x.exponent ≠ Binary64.leastExponent) ∧
      ((intervalOf x).low : ℚ) = 4 * x.significand - 2) := by
  have hpos := Nat.pos_of_ne_zero (Binary64.ne_zero_of_isZero hne)
  by_cases hdenser : x.significand = 2 ^ 52 ∧ x.exponent ≠ Binary64.leastExponent
  · refine .inl ⟨hdenser.1, hdenser.2, ?_⟩
    rw [intervalOf, if_pos (by simpa using hdenser), Nat.cast_sub (by omega)]
    push_cast
    rfl
  · refine .inr ⟨hdenser, ?_⟩
    rw [intervalOf, if_neg (by simpa using hdenser), Nat.cast_sub (by omega)]
    push_cast
    rfl

theorem low_ge (hne : x.isZero = false) : (4 * x.significand - 2 : ℚ) ≤ (intervalOf x).low := by
  rcases low_intervalOf hne with ⟨-, -, h⟩ | ⟨-, h⟩ <;> rw [h]
  exact sub_le_sub_left (by norm_num) _

theorem closed_intervalOf : (intervalOf x).closed = true ↔ x.significand % 2 = 0 :=
  beq_iff_eq

/-- An end of the interval belongs to the even one of its two doubles. -/
theorem Interval.Holds.le_high (h : (intervalOf x).Holds q) :
    q ≤ (4 * x.significand + 2) * 2 ^ (x.exponent - 2) ∧
      (x.significand % 2 = 1 → q < (4 * x.significand + 2) * 2 ^ (x.exponent - 2)) := by
  have hhigh : ((intervalOf x).high : ℚ) = 4 * x.significand + 2 := by
    rw [intervalOf]
    push_cast
    rfl
  rw [Interval.Holds, hhigh] at h
  split at h
  · next hclosed =>
    rw [closed_intervalOf] at hclosed
    exact ⟨h.2, fun hodd => by omega⟩
  · exact ⟨h.2.le, fun _ => h.2⟩

theorem Interval.Holds.low_le (h : (intervalOf x).Holds q) :
    (intervalOf x).low * 2 ^ (x.exponent - 2) ≤ q ∧
      (x.significand % 2 = 1 → (intervalOf x).low * 2 ^ (x.exponent - 2) < q) := by
  rw [Interval.Holds] at h
  split at h
  · next hclosed =>
    rw [closed_intervalOf] at hclosed
    exact ⟨h.1, fun hodd => by omega⟩
  · exact ⟨h.1.le, fun _ => h.1⟩

/-- What is as near to a double as its seventeen digits rounds to it. -/
theorem holds_of_near (hx : x.IsNormal) (hne : x.isZero = false)
    (h : |q - x.size| ≤ x.size / (2 * 10 ^ 16)) : (intervalOf x).Holds q := by
  have hunit : (0 : ℚ) < 2 ^ (x.exponent - 2) := by positivity
  have hlt : (x.significand : ℚ) < 2 ^ 53 := by exact_mod_cast hx.significand_lt
  have hfine : (x.significand : ℚ) * 2 ^ (x.exponent - 2) < 10 ^ 16 * 2 ^ (x.exponent - 2) :=
    mul_lt_mul_of_pos_right (hlt.trans (by norm_num)) hunit
  obtain ⟨hbelow, habove⟩ := abs_le.mp h
  rw [size_eq] at hbelow habove
  have hlow : (intervalOf x).low * 2 ^ (x.exponent - 2) < q := by
    rcases low_intervalOf hne with ⟨hleading, -, hlow⟩ | ⟨-, hlow⟩
    · rw [hlow]
      rw [hleading] at hbelow ⊢
      push_cast at hbelow ⊢
      linarith
    · rw [hlow]
      linarith
  have hhigh : q < (intervalOf x).high * 2 ^ (x.exponent - 2) := by
    rw [intervalOf]
    push_cast
    linarith
  rw [Interval.Holds]
  split
  · exact ⟨hlow.le, hhigh.le⟩
  · exact ⟨hlow, hhigh⟩

theorem Interval.Holds.pos (hne : x.isZero = false) (h : (intervalOf x).Holds q) : 0 < q := by
  have hone : (1 : ℚ) ≤ x.significand := by
    exact_mod_cast Nat.pos_of_ne_zero (Binary64.ne_zero_of_isZero hne)
  have hlow : (0 : ℚ) < (intervalOf x).low := by
    have := low_ge hne
    linarith
  exact (mul_pos hlow (by positivity)).trans_le h.low_le.1

/-! ## No real rounds to two doubles -/

theorem not_holds_of_significand_lt (hne : y.isZero = false) (hexponent : x.exponent = y.exponent)
    (hlt : x.significand < y.significand) (hqx : (intervalOf x).Holds q) :
    ¬ (intervalOf y).Holds q := by
  intro hqy
  have hunit : (0 : ℚ) < 2 ^ (y.exponent - 2) := by positivity
  obtain ⟨hle, hodd⟩ := hqx.le_high
  obtain ⟨hge, hodd'⟩ := hqy.low_le
  rw [hexponent] at hle hodd
  have hlow := mul_le_mul_of_nonneg_right (low_ge hne) hunit.le
  obtain hnext | hlater : y.significand = x.significand + 1 ∨ x.significand + 2 ≤ y.significand := by
    omega
  · -- The end between neighbours is open to one of them.
    rw [hnext] at hlow hodd'
    push_cast at hlow
    rcases Nat.mod_two_eq_zero_or_one x.significand with hparity | hparity
    · have := hodd' (by omega)
      linarith
    · have := hodd hparity
      linarith
  · have hcast : (x.significand + 2 : ℚ) ≤ y.significand := by exact_mod_cast hlater
    have := mul_le_mul_of_nonneg_right hcast hunit.le
    linarith

theorem not_holds_of_exponent_lt (hx : x.IsNormal) (hy : y.IsNormal) (hne : y.isZero = false)
    (hlt : x.exponent < y.exponent) (hqx : (intervalOf x).Holds q) :
    ¬ (intervalOf y).Holds q := by
  intro hqy
  have hunit : (0 : ℚ) < 2 ^ (x.exponent - 2) := by positivity
  have htwice : 2 * (2 : ℚ) ^ (x.exponent - 2) ≤ 2 ^ (y.exponent - 2) := by
    rw [← zpow_one_add₀ (by norm_num)]
    exact zpow_le_zpow_right₀ (by norm_num) (by omega)
  have hnotLeast : y.exponent ≠ Binary64.leastExponent := by
    have := hx.least_le
    omega
  have hlow : (4 * 2 ^ 52 - 1 : ℚ) ≤ (intervalOf y).low := by
    have hleading := hy.leading hnotLeast
    rcases low_intervalOf hne with ⟨h, -, hlow⟩ | ⟨h, hlow⟩
    · rw [hlow, h]
      norm_num
    · have hcast : (2 ^ 52 + 1 : ℚ) ≤ y.significand := by
        have : 2 ^ 52 + 1 ≤ y.significand := by
          have : y.significand ≠ 2 ^ 52 := fun heq => h ⟨heq, hnotLeast⟩
          omega
        exact_mod_cast this
      rw [hlow]
      linarith
  have hge : (4 * 2 ^ 52 - 1 : ℚ) * (2 * 2 ^ (x.exponent - 2)) ≤ q :=
    (mul_le_mul hlow htwice (by positivity) (by positivity)).trans hqy.low_le.1
  obtain ⟨hle, hodd⟩ := hqx.le_high
  have hsignificand := hx.significand_lt
  obtain hlast | hearlier : x.significand = 2 ^ 53 - 1 ∨ x.significand + 2 ≤ 2 ^ 53 := by omega
  · -- The greatest significand is odd.
    have hless := hodd (by rw [hlast]; rfl)
    rw [hlast] at hless
    norm_num at hless hge
    linarith
  · have hcast : (x.significand + 2 : ℚ) ≤ 2 ^ 53 := by exact_mod_cast hearlier
    have := mul_le_mul_of_nonneg_right hcast hunit.le
    linarith

theorem eq_of_holds (hx : x.IsNormal) (hy : y.IsNormal) (hx0 : x.isZero = false)
    (hy0 : y.isZero = false) (hqx : (intervalOf x).Holds q) (hqy : (intervalOf y).Holds q) :
    x.significand = y.significand ∧ x.exponent = y.exponent := by
  rcases lt_trichotomy x.exponent y.exponent with hlt | heq | hgt
  · exact absurd hqy (not_holds_of_exponent_lt hx hy hy0 hlt hqx)
  · rcases lt_trichotomy x.significand y.significand with hlt' | heq' | hgt'
    · exact absurd hqy (not_holds_of_significand_lt hy0 heq hlt' hqx)
    · exact ⟨heq', heq⟩
    · exact absurd hqx (not_holds_of_significand_lt hx0 heq.symm hgt' hqy)
  · exact absurd hqx (not_holds_of_exponent_lt hy hx hx0 hgt hqy)

/-! ## The search -/

theorem contains_search {i : Interval} {num den : Nat} (more count : Nat)
    (h : i.contains ((neighbours num den (count + more)).headD ⟨0, 0⟩) = true) :
    i.contains (search i num den more count) = true := by
  induction more generalizing count with
  | zero => exact h
  | succ more ih =>
    rw [search]
    split
    · next hfound => exact List.find?_some hfound
    · refine ih (count + 1) ?_
      rwa [Nat.add_right_comm]

theorem value_stripZeros (fuel : Nat) (x : Decimal) : (stripZeros fuel x).value = x.value := by
  induction fuel generalizing x with
  | zero => rfl
  | succ fuel ih =>
    rw [stripZeros]
    split
    · next h =>
      simp only [Bool.and_eq_true, beq_iff_eq] at h
      obtain ⟨k, hk⟩ := Nat.dvd_of_mod_eq_zero h.1
      rw [ih, value, value, hk, Nat.mul_div_cancel_left k (by decide), Nat.cast_mul,
        zpow_add₀ (by norm_num), zpow_one]
      push_cast
      ring
    · rfl

/-- Among its seventeen digits at the latest the search finds a decimal that rounds to the double. -/
theorem holds_shortest (hx : x.IsNormal) (hne : x.isZero = false) :
    (intervalOf x).Holds (shortest x).value := by
  have hsignificand := Nat.pos_of_ne_zero (Binary64.ne_zero_of_isZero hne)
  have hnum : 0 < x.ratio.1 := expanded_fst_pos x.exponent (by decide) hsignificand
  have hshortest : shortest x =
      stripZeros 17 (search (intervalOf x) x.ratio.1 x.ratio.2 16 1) := by
    have hnonzero : ¬ (x.ratio.1 == 0) = true := by
      rw [beq_iff_eq]
      exact hnum.ne'
    exact if_neg hnonzero
  rw [hshortest, value_stripZeros, ← Interval.contains_iff]
  refine contains_search 16 1 (Interval.contains_iff.mpr (holds_of_near hx hne ?_))
  rw [← ratio_size]
  exact headD_neighbours_near hnum (ratio_size_pos x) _

/-- The shortest decimal tells doubles apart, but for their sign. -/
theorem eq_of_shortest_eq (hx : x.IsNormal) (hy : y.IsNormal) (hx0 : x.isZero = false)
    (hy0 : y.isZero = false) (h : (shortest x).value = (shortest y).value) :
    x.significand = y.significand ∧ x.exponent = y.exponent :=
  eq_of_holds hx hy hx0 hy0 (holds_shortest hx hx0) (h ▸ holds_shortest hy hy0)

end

end Decimal

end Lemmata
