import Lemmata.Time.Moment
import Mathlib.Tactic.Ring
import Mathlib.Tactic.SplitIfs

/-! # Later days have later dates -/

namespace Lemmata.Date

def IsBefore (a b : Date) : Prop :=
  a.year < b.year ∨ a.year = b.year ∧ (a.month < b.month ∨ a.month = b.month ∧ a.day < b.day)

/-! ## Years from March to March -/

/-- The number of days from the first of March of the year 0 to that of the given year. -/
def marchFirst (year : Int) : Int :=
  365 * year + year / 4 - year / 100 + year / 400

theorem marchFirst_le {m n : Int} (h : m ≤ n) : marchFirst m ≤ marchFirst n := by
  unfold marchFirst
  omega

def ofMarchDay (year : Int) (day : Nat) : Date :=
  let monthFromMarch := (5 * day + 2) / 153
  let month := if monthFromMarch < 10 then monthFromMarch + 3 else monthFromMarch - 9
  { year := year + if month ≤ 2 then 1 else 0
    month
    day := day - (153 * monthFromMarch + 2) / 5 + 1 }

/-- A day of an era by its centuries, its cycles of four years, its years and its days. Only the
last year of a cycle has a leap day, and the last cycle of a century has none but for the last
century. -/
structure EraDay (century cycle year day : Nat) : Prop where
  century_le : century ≤ 3
  cycle_le : cycle ≤ 24
  year_le : year ≤ 3
  day_le : day ≤ 364 ∨ day = 365 ∧ year = 3 ∧ (cycle < 24 ∨ century = 3)

theorem exists_eraDay {n : Nat} (h : n < 146097) :
    ∃ c q r d, EraDay c q r d ∧ n = 36524 * c + 1461 * q + 365 * r + d := by
  obtain ⟨c, x, hc, hx, rfl⟩ :
      ∃ c x, c ≤ 3 ∧ (x < 36524 ∨ c = 3 ∧ x = 36524) ∧ n = 36524 * c + x :=
    ⟨min (n / 36524) 3, n - 36524 * min (n / 36524) 3, by omega, by omega, by omega⟩
  obtain ⟨q, y, hq, hy, rfl⟩ : ∃ q y, q ≤ 24 ∧ y < 1461 ∧ x = 1461 * q + y :=
    ⟨x / 1461, x % 1461, by omega, by omega, by omega⟩
  exact ⟨c, q, min (y / 365) 3, y - 365 * min (y / 365) 3, ⟨hc, hq, by omega, by omega⟩, by omega⟩

theorem EraDay.yearOfEra_eq {n c q r d : Nat} (h : EraDay c q r d)
    (hn : n = 36524 * c + 1461 * q + 365 * r + d) :
    (n - n / 1460 + n / 36524 - n / 146096) / 365 = 100 * c + 4 * q + r := by
  obtain ⟨hc, hq, hr, hd⟩ := h
  have hcentury : n / 36524 = c + n / 146096 := by
    rcases (by omega : 1461 * q + 365 * r + d < 36524 ∨ n = 146096 ∧ c = 3) with hx | ⟨rfl, rfl⟩
    · rw [Nat.div_eq_of_lt (by omega : n < 146096)]
      exact Nat.div_eq_of_lt_le (by omega) (by omega)
    · rfl
  -- The leap days so far, or one more in the last days of a cycle.
  rcases Nat.lt_or_ge (24 * c + q + 365 * r + d) 1460 with hearly | hlate
  · have hcycle : n / 1460 = 25 * c + q := Nat.div_eq_of_lt_le (by omega) (by omega)
    exact Nat.div_eq_of_lt_le (by omega) (by omega)
  · have hcycle : n / 1460 = 25 * c + q + 1 := Nat.div_eq_of_lt_le (by omega) (by omega)
    exact Nat.div_eq_of_lt_le (by omega) (by omega)

theorem EraDay.firstOfYear_eq {c q r d : Nat} (h : EraDay c q r d) :
    365 * (100 * c + 4 * q + r) + (100 * c + 4 * q + r) / 4 - (100 * c + 4 * q + r) / 100 =
      36524 * c + 1461 * q + 365 * r := by
  obtain ⟨-, hq, hr, -⟩ := h
  omega

theorem marchFirst_eq (era : Int) {c q r d : Nat} (h : EraDay c q r d) :
    marchFirst (400 * era + (100 * c + 4 * q + r)) =
      146097 * era + (36524 * c + 1461 * q + 365 * r) ∧
    146097 * era + (36524 * c + 1461 * q + 365 * r + d) <
      marchFirst (400 * era + (100 * c + 4 * q + r) + 1) := by
  obtain ⟨hc, hq, hr, hd⟩ := h
  unfold marchFirst
  omega

theorem exists_marchDay (days : Int) : ∃ (year : Int) (day : Nat), day ≤ 365 ∧
    days + 719468 = marchFirst year + day ∧ days + 719468 < marchFirst (year + 1) ∧
    ofDays days = ofMarchDay year day := by
  obtain ⟨era, n, hn, hsum⟩ : ∃ (era : Int) (n : Nat), n < 146097 ∧
      days + 719468 = 146097 * era + n :=
    ⟨(days + 719468) / 146097, ((days + 719468) % 146097).toNat, by omega, by omega⟩
  have hera : (days + 719468).fdiv 146097 = era := by
    rw [Int.fdiv_eq_ediv_of_nonneg _ (by decide)]
    omega
  have hday : (days + 719468 - era * 146097).toNat = n := by omega
  obtain ⟨c, q, r, d, h, rfl⟩ := exists_eraDay hn
  obtain ⟨hfirst, hnext⟩ := marchFirst_eq era h
  refine ⟨400 * era + (100 * c + 4 * q + r), d, ?_, ?_, ?_, ?_⟩
  · have := h.day_le
    omega
  · omega
  · omega
  · simp only [ofDays, ofMarchDay, hera, hday, h.yearOfEra_eq rfl, h.firstOfYear_eq,
      Nat.add_sub_cancel_left]
    congr 1
    push_cast
    ring

theorem ofMarchDay_bounds (year : Int) {day : Nat} (h : day ≤ 365) :
    1 ≤ (ofMarchDay year day).month ∧ (ofMarchDay year day).month ≤ 12 ∧
      (ofMarchDay year day).day ≤ 31 := by
  simp only [ofMarchDay]
  split_ifs <;> omega

theorem ofMarchDay_isBefore {m n : Int} {d e : Nat} (hd : d ≤ 365) (he : e ≤ 365)
    (h : m < n ∨ m = n ∧ d < e) : (ofMarchDay m d).IsBefore (ofMarchDay n e) := by
  simp only [ofMarchDay, IsBefore]
  split_ifs <;> omega

theorem isBefore_ofDays {m n : Int} (h : m < n) : (ofDays m).IsBefore (ofDays n) := by
  obtain ⟨y, d, hd, hm, hm', heq⟩ := exists_marchDay m
  obtain ⟨z, e, he, hn, hn', heq'⟩ := exists_marchDay n
  rw [heq, heq']
  refine ofMarchDay_isBefore hd he ?_
  rcases lt_trichotomy y z with hlt | rfl | hgt
  · exact .inl hlt
  · exact .inr ⟨rfl, by omega⟩
  · have := marchFirst_le hgt
    omega

theorem year_ofDays_le {m n : Int} (h : m ≤ n) : (ofDays m).year ≤ (ofDays n).year := by
  rcases Int.lt_or_eq_of_le h with hlt | rfl
  · rcases isBefore_ofDays hlt with hyear | ⟨hyear, -⟩ <;> omega
  · exact le_refl _

theorem ofDays_bounds (days : Int) : (ofDays days).month < 100 ∧ (ofDays days).day < 100 := by
  obtain ⟨y, d, hd, -, -, heq⟩ := exists_marchDay days
  have := ofMarchDay_bounds y hd
  rw [heq]
  omega

end Lemmata.Date
