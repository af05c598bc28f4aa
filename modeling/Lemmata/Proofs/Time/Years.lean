import Lemmata.Proofs.Time.Written

/-!
# The order of written years

Years of other than four digits have a sign, and those of five or six digits are compared digit by
digit with shorter ones. So written years are not in order like the years; `yearPlace` says in which
order they are.
-/

namespace Lemmata.Moment

variable {u w v k m n : Nat} {as bs : List Char} {y z : Int}

/-! ## Numbers of different widths -/

theorem digits_add (hw : 0 < w) (hk : 0 < k) (n : Nat) :
    digits (w + k) n = digits w (n / 10 ^ k) ++ digits k (n % 10 ^ k) := by
  induction k, hk using Nat.le_induction generalizing n with
  | base =>
    have hlast : digits 1 (n % 10) = [(n % 10).digitChar] := by
      rw [digits, Nat.toDigits_of_lt_base (Nat.mod_lt n (by decide))]
      rfl
    rw [Nat.succ_eq_add_one, Nat.zero_add, Nat.pow_one, digits_succ hw, hlast]
  | succ k hk ih =>
    have hdiv : n % 10 ^ (k + 1) / 10 = n / 10 % 10 ^ k := by
      rw [Nat.pow_succ', Nat.mod_mul_right_div_self]
    have hmod : n % 10 ^ (k + 1) % 10 = n % 10 := by
      rw [Nat.pow_succ', Nat.mod_mul_right_mod]
    rw [← Nat.add_assoc, digits_succ (by omega), ih, digits_succ hk, hdiv, hmod, Nat.div_div_eq_div_mul,
      ← Nat.pow_succ', List.append_assoc]

theorem digits_dash_lt_of_le (hw : 0 < w) (hk : 0 < k) (hm : m < 10 ^ w) (hn : n < 10 ^ (w + k))
    (h : m * 10 ^ k ≤ n) : digits w m ++ '-' :: as < digits (w + k) n ++ '-' :: bs := by
  have hpow : 0 < 10 ^ k := Nat.pow_pos (by decide)
  have hlead : n / 10 ^ k < 10 ^ w := by
    rw [Nat.pow_add] at hn
    exact (Nat.div_lt_iff_lt_mul hpow).mpr hn
  have hle : m ≤ n / 10 ^ k := (Nat.le_div_iff_mul_le hpow).mpr h
  rw [digits_add hw hk, List.append_assoc]
  refine append_lt_append (by rw [length_digits hw hm, length_digits hw hlead]) ?_
  rcases Nat.lt_or_eq_of_le hle with hlt | rfl
  · exact .inl (digits_lt_digits hw hlead hlt)
  · exact .inr ⟨rfl, cons_lt_digits (by decide) hk (Nat.mod_lt n hpow)⟩

theorem digits_dash_lt_of_lt (hw : 0 < w) (hk : 0 < k) (hm : m < 10 ^ w)
    (h : n < m * 10 ^ k) : digits (w + k) n ++ '-' :: bs < digits w m ++ '-' :: as := by
  have hlt : n / 10 ^ k < m := (Nat.div_lt_iff_lt_mul (Nat.pow_pos (by decide))).mpr h
  rw [digits_add hw hk, List.append_assoc]
  refine append_lt_append ?_ (.inl (digits_lt_digits hw hm hlt))
  rw [length_digits hw (hlt.trans hm), length_digits hw hm]

/-- Numbers with a dash behind them are compared as if all had `u` digits, and then the shorter one
is before the longer one. -/
theorem digits_dash_lt (hw : 0 < w) (hv : 0 < v) (hwu : w ≤ u) (hvu : v ≤ u) (hm : m < 10 ^ w)
    (hn : n < 10 ^ v) (h : m * 10 ^ (u - w) < n * 10 ^ (u - v) ∨
      m * 10 ^ (u - w) = n * 10 ^ (u - v) ∧ w < v) :
    digits w m ++ '-' :: as < digits v n ++ '-' :: bs := by
  have hpow : ∀ k, 0 < 10 ^ k := fun k => Nat.pow_pos (by decide)
  rcases Nat.lt_trichotomy w v with hlt | rfl | hgt
  · obtain ⟨k, rfl⟩ := Nat.exists_eq_add_of_lt hlt
    have hsplit : u - w = (k + 1) + (u - (w + k + 1)) := by omega
    rw [hsplit, Nat.pow_add, ← Nat.mul_assoc] at h
    refine digits_dash_lt_of_le hw k.succ_pos hm hn ?_
    exact Nat.le_of_mul_le_mul_right (h.elim Nat.le_of_lt fun heq => heq.1.le) (hpow _)
  · have hlt : m < n := Nat.lt_of_mul_lt_mul_right (h.resolve_right fun heq => by omega)
    refine append_lt_append (by rw [length_digits hw hm, length_digits hw hn]) ?_
    exact .inl (digits_lt_digits hw hn hlt)
  · obtain ⟨k, rfl⟩ := Nat.exists_eq_add_of_lt hgt
    have hsplit : u - v = (k + 1) + (u - (v + k + 1)) := by omega
    rw [hsplit, Nat.pow_add, ← Nat.mul_assoc] at h
    refine digits_dash_lt_of_lt hv k.succ_pos hn ?_
    exact Nat.lt_of_mul_lt_mul_right (h.resolve_right fun heq => by omega)

/-! ## Years -/

def yearSign (year : Int) : List Char :=
  if 9999 < year then ['+'] else if year < 0 then ['-'] else []

def yearWidth (year : Int) : Nat :=
  if year.natAbs < 10000 then 4 else if year.natAbs < 100000 then 5 else 6

theorem yearWidth_bounds (year : Int) : 4 ≤ yearWidth year ∧ yearWidth year ≤ 6 := by
  unfold yearWidth
  split_ifs <;> omega

theorem natAbs_lt_pow_yearWidth (h : y.natAbs < 1000000) : y.natAbs < 10 ^ yearWidth y := by
  unfold yearWidth
  split_ifs <;> omega

theorem digits_eq_digits (hwv : w ≤ v) (hn : 10 ^ v ≤ n) : digits w n = digits (v + 1) n := by
  have hlength : v < (Nat.toDigits 10 n).length := by
    by_contra hle
    rcases Nat.eq_zero_or_pos v with rfl | hv
    · exact hle Nat.length_toDigits_pos
    · have := (Nat.length_toDigits_le_iff (by decide) hv).mp (not_lt.mp hle)
      omega
  rw [digits, digits, Nat.sub_eq_zero_of_le (by omega), Nat.sub_eq_zero_of_le (by omega)]

theorem digits_yearWidth (y : Int) : digits 4 y.natAbs = digits (yearWidth y) y.natAbs := by
  unfold yearWidth
  split_ifs with hfour hfive
  · rfl
  · exact digits_eq_digits (le_refl 4) (not_lt.mp hfour)
  · exact digits_eq_digits (by decide : 4 ≤ 5) (not_lt.mp hfive)

theorem yearText_eq (y : Int) : yearText y = yearSign y ++ digits (yearWidth y) y.natAbs := by
  rw [← digits_yearWidth, yearText, yearSign]
  split_ifs with hfour hplus hminus hminus hplus <;> first | omega | skip
  · rw [List.nil_append]
    congr 1
    omega
  · rfl
  · rfl

/-- A plus is before a minus, and a minus is before all digits. -/
def yearRank (year : Int) : Nat :=
  if 9999 < year then 0 else if year < 0 then 1 else 2

theorem yearRank_of_late (h : 9999 < y) : yearRank y = 0 :=
  if_pos h

theorem yearRank_of_neg (h : y < 0) : yearRank y = 1 := by
  rw [yearRank, if_neg (by omega), if_pos h]

theorem yearRank_of_fourDigits (h : 0 ≤ y) (h' : y ≤ 9999) : yearRank y = 2 := by
  rw [yearRank, if_neg (by omega), if_neg (by omega)]

/-- Where a year is among the written ones: the sign comes first, then the digits from the first one
on, and of two years that start alike the shorter one is before the other. -/
def yearPlace (year : Int) : Nat ×ₗ Nat ×ₗ Nat :=
  toLex (yearRank year, toLex (year.natAbs * 10 ^ (6 - yearWidth year), yearWidth year))

theorem yearPlace_lt_iff : yearPlace y < yearPlace z ↔ yearRank y < yearRank z ∨
    yearRank y = yearRank z ∧
      (y.natAbs * 10 ^ (6 - yearWidth y) < z.natAbs * 10 ^ (6 - yearWidth z) ∨
        y.natAbs * 10 ^ (6 - yearWidth y) = z.natAbs * 10 ^ (6 - yearWidth z) ∧
        yearWidth y < yearWidth z) := by
  rw [yearPlace, yearPlace, Prod.Lex.toLex_lt_toLex, Prod.Lex.toLex_lt_toLex]

theorem yearSign_eq_of_rank (h : yearRank y = yearRank z) : yearSign y = yearSign z := by
  unfold yearRank at h
  unfold yearSign
  split_ifs at h ⊢ <;> first | rfl | omega

theorem yearPlace_injective (h : yearPlace y = yearPlace z) : y = z := by
  obtain ⟨hrank, hdigits⟩ := Prod.mk.inj (toLex.injective h)
  obtain ⟨hlead, hwidth⟩ := Prod.mk.inj (toLex.injective hdigits)
  rw [hwidth] at hlead
  have habs : y.natAbs = z.natAbs := Nat.eq_of_mul_eq_mul_right (Nat.pow_pos (by decide)) hlead
  unfold yearRank at hrank
  split_ifs at hrank <;> omega

theorem yearText_lt_of_rank (hz : z.natAbs < 1000000) (h : yearRank y < yearRank z) :
    yearText y ++ '-' :: as < yearText z ++ '-' :: bs := by
  have hsigns : yearSign y = ['+'] ∧ yearSign z = ['-'] ∨
      (yearSign y = ['+'] ∨ yearSign y = ['-']) ∧ yearSign z = [] := by
    unfold yearRank at h
    unfold yearSign
    split_ifs at h ⊢ <;> first | omega | simp
  have hwidth : 0 < yearWidth z := by
    have := yearWidth_bounds z
    omega
  have hdigits := natAbs_lt_pow_yearWidth hz
  rw [yearText_eq y, yearText_eq z, List.append_assoc, List.append_assoc]
  rcases hsigns with ⟨hy, hz⟩ | ⟨hy | hy, hz⟩ <;> rw [hy, hz]
  · exact List.cons_lt_cons_iff.mpr (.inl (by decide))
  · exact cons_lt_digits (by decide) hwidth hdigits
  · exact cons_lt_digits (by decide) hwidth hdigits

theorem yearText_lt_of_place (hy : y.natAbs < 1000000) (hz : z.natAbs < 1000000)
    (h : yearPlace y < yearPlace z) : yearText y ++ '-' :: as < yearText z ++ '-' :: bs := by
  rcases yearPlace_lt_iff.mp h with hrank | ⟨hrank, hdigits⟩
  · exact yearText_lt_of_rank hz hrank
  · have hwidth := yearWidth_bounds y
    have hwidth' := yearWidth_bounds z
    rw [yearText_eq y, yearText_eq z, yearSign_eq_of_rank hrank, List.append_assoc,
      List.append_assoc]
    refine List.append_left_lt ?_
    exact digits_dash_lt (by omega) (by omega) hwidth.2 hwidth'.2 (natAbs_lt_pow_yearWidth hy)
      (natAbs_lt_pow_yearWidth hz) hdigits

/-! ## Years in order -/

theorem yearPlace_lt_iff_lt (hy : y ≤ 9999) (hz : z ≤ 9999) (hsign : 0 ≤ y ∨ 0 ≤ z) :
    yearPlace y < yearPlace z ↔ y < z := by
  rw [yearPlace_lt_iff]
  rcases lt_or_ge y 0 with hneg | hpos
  · rw [yearRank_of_neg hneg, yearRank_of_fourDigits (by omega) hz]
    omega
  · rw [yearRank_of_fourDigits hpos hy]
    rcases lt_or_ge z 0 with hneg | hpos'
    · rw [yearRank_of_neg hneg]
      omega
    · have hwidth : yearWidth y = 4 ∧ yearWidth z = 4 := by
        unfold yearWidth
        constructor <;> exact if_pos (by omega)
      rw [yearRank_of_fourDigits hpos' hz, hwidth.1, hwidth.2]
      omega

theorem yearPlace_lt_of_late (hy : 9999 < y) (hz : z ≤ 9999) : yearPlace y < yearPlace z := by
  rw [yearPlace_lt_iff, yearRank_of_late hy]
  rcases lt_or_ge z 0 with hneg | hpos
  · rw [yearRank_of_neg hneg]
    exact .inl (by decide)
  · rw [yearRank_of_fourDigits hpos hz]
    exact .inl (by decide)

end Lemmata.Moment
