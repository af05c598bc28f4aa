import Lemmata.Proofs.Time.Calendar
import Mathlib.Data.Prod.Lex
import Mathlib.Tactic.NormNum

/-! # Written moments are in order like the moments -/

namespace Lemmata.Moment

/-! ## Fields of a fixed width -/

theorem append_lt_append {as bs cs ds : List Char} (hlength : as.length = bs.length)
    (h : as < bs ∨ as = bs ∧ cs < ds) : as ++ cs < bs ++ ds := by
  rcases h with h | ⟨rfl, h⟩
  · induction as generalizing bs with
    | nil =>
      rw [List.eq_nil_of_length_eq_zero hlength.symm] at h
      exact absurd h (List.lt_irrefl [])
    | cons a as ih =>
      obtain _ | ⟨b, bs⟩ := bs
      · cases hlength
      · rw [List.cons_append, List.cons_append, List.cons_lt_cons_iff]
        rw [List.cons_lt_cons_iff] at h
        exact h.imp_right fun ⟨heq, hlt⟩ => ⟨heq, ih (Nat.succ.inj hlength) hlt⟩
  · exact List.append_left_lt h

variable {w m n : Nat} {x : Char} {as bs : List Char}

theorem digitChar_lt_digitChar (hn : n < 10) (h : m < n) : m.digitChar < n.digitChar := by
  change m.digitChar.toNat < n.digitChar.toNat
  rw [Nat.toNat_digitChar_of_lt_ten (h.trans hn), Nat.toNat_digitChar_of_lt_ten hn]
  omega

theorem length_digits (hw : 0 < w) (h : n < 10 ^ w) : (digits w n).length = w := by
  have hfound : (Nat.toDigits 10 n).length ≤ w := (Nat.length_toDigits_le_iff (by decide) hw).mpr h
  rw [digits, List.length_append, List.length_replicate]
  omega

theorem isDigit_of_mem_digits {c : Char} (h : c ∈ digits w n) : c.isDigit = true := by
  rcases List.mem_append.mp h with hzero | hdigit
  · rw [List.eq_of_mem_replicate hzero]
    rfl
  · exact Nat.isDigit_of_mem_toDigits (by decide) (by decide) hdigit

theorem digits_succ (hw : 0 < w) (n : Nat) :
    digits (w + 1) n = digits w (n / 10) ++ [(n % 10).digitChar] := by
  rw [digits, Nat.toDigits_eq_if (by decide)]
  split
  · next hn =>
    obtain ⟨v, rfl⟩ := Nat.exists_eq_add_of_lt hw
    rw [digits, Nat.div_eq_of_lt hn, Nat.mod_eq_of_lt hn, Nat.toDigits_zero]
    simp [List.replicate_succ']
  · rw [digits, List.length_append, List.length_singleton, Nat.add_sub_add_right,
      List.append_assoc]

theorem digits_lt_digits (hw : 0 < w) (hn : n < 10 ^ w) (h : m < n) : digits w m < digits w n := by
  induction w, hw using Nat.le_induction generalizing m n with
  | base =>
    have hn : n < 10 := hn
    rw [digits, digits, Nat.toDigits_of_lt_base hn, Nat.toDigits_of_lt_base (h.trans hn)]
    exact List.cons_lt_cons_iff.mpr (.inl (digitChar_lt_digitChar hn h))
  | succ w hw ih =>
    rw [digits_succ hw, digits_succ hw]
    have hn' : n / 10 < 10 ^ w := by
      rw [Nat.pow_succ] at hn
      omega
    have hlength : (digits w (m / 10)).length = (digits w (n / 10)).length := by
      rw [length_digits hw hn', length_digits hw (by omega)]
    refine append_lt_append hlength ?_
    rcases Nat.lt_or_ge (m / 10) (n / 10) with hlt | hge
    · exact .inl (ih hn' hlt)
    · have heq : m / 10 = n / 10 := by omega
      rw [heq]
      have hlt : (m % 10).digitChar < (n % 10).digitChar :=
        digitChar_lt_digitChar (by omega) (by omega)
      exact .inr ⟨rfl, List.cons_lt_cons_iff.mpr (.inl hlt)⟩

theorem digits_append_lt (hw : 0 < w) (hm : m < 10 ^ w) (hn : n < 10 ^ w)
    (h : m < n ∨ m = n ∧ as < bs) : digits w m ++ x :: as < digits w n ++ x :: bs := by
  refine append_lt_append (by rw [length_digits hw hm, length_digits hw hn]) ?_
  rcases h with h | ⟨rfl, h⟩
  · exact .inl (digits_lt_digits hw hn h)
  · exact .inr ⟨rfl, List.cons_lt_cons_iff.mpr (.inr ⟨rfl, h⟩)⟩

theorem lt_of_isDigit {c : Char} (hx : x < '0') (h : c.isDigit = true) : x < c := by
  simp only [Char.isDigit, ge_iff_le, Bool.and_eq_true, decide_eq_true_eq] at h
  exact UInt32.lt_of_lt_of_le hx h.1

theorem cons_lt_digits (hx : x < '0') (hw : 0 < w) (hn : n < 10 ^ w) :
    x :: as < digits w n ++ bs := by
  have hlength := length_digits hw hn
  cases hdigits : digits w n with
  | nil =>
    rw [hdigits, List.length_nil] at hlength
    omega
  | cons c cs =>
    have hc : c.isDigit = true := isDigit_of_mem_digits (hdigits ▸ List.mem_cons_self)
    exact List.cons_lt_cons_iff.mpr (.inl (lt_of_isDigit hx hc))

/-- A sign is before all digits, so a year before the year 0 is before all years of four digits. -/
theorem yearText_append_lt {y z : Int} (hz : 0 ≤ z) (hz' : z ≤ 9999)
    (h : y < z ∨ y = z ∧ as < bs) : yearText y ++ x :: as < yearText z ++ x :: bs := by
  have hzText : yearText z = digits 4 z.toNat := if_pos ⟨hz, hz'⟩
  by_cases hy : 0 ≤ y
  · have hyText : yearText y = digits 4 y.toNat := if_pos ⟨hy, by omega⟩
    rw [hyText, hzText]
    refine digits_append_lt (by decide) (by omega) (by omega) ?_
    exact h.imp (by omega) (.imp_left (congrArg Int.toNat))
  · have hyText : yearText y = '-' :: digits 4 y.natAbs := by
      rw [yearText, if_neg (by omega), if_pos (by omega)]
    rw [hyText, hzText, List.cons_append]
    exact cons_lt_digits (by decide) (by decide) (by omega)

/-! ## Moments to the microsecond -/

/-- What is kept of a moment when it is written. -/
def tick (m : Moment) : Int ×ₗ Nat :=
  toLex (m.second, m.nano / 1000)

/-- A leap second is the last of its minute. -/
def IsProper (m : Moment) : Prop :=
  m.nano < 1000000000 ∨ m.nano < 2000000000 ∧ m.secondOfDay % 60 = 59

/-- A moment that a clock can show, in a year of four digits. -/
structure InFourDigits (m : Moment) : Prop where
  isProper : m.IsProper
  year_nonneg : 0 ≤ m.date.year
  year_le : m.date.year ≤ 9999

variable {a b : Moment}

theorem secondOfDay_eq (m : Moment) : (m.secondOfDay : Int) = m.second % 86400 := by
  rw [secondOfDay, secondsPerDay, Int.fmod_eq_emod_of_nonneg _ (by decide)]
  omega

theorem day_eq (m : Moment) : m.second.fdiv secondsPerDay = m.second / 86400 :=
  Int.fdiv_eq_ediv_of_nonneg _ (by decide)

theorem year_le_of_second_le (h : a.second ≤ b.second) : a.date.year ≤ b.date.year := by
  refine Date.year_ofDays_le ?_
  rw [day_eq, day_eq]
  omega

theorem year_le_of_tick_le (h : a.tick ≤ b.tick) : a.date.year ≤ b.date.year := by
  refine year_le_of_second_le ?_
  rcases Prod.Lex.toLex_le_toLex.mp h with hlt | ⟨heq, -⟩
  · exact hlt.le
  · exact heq.le

/-! ## The written form -/

def clockChars (m : Moment) : List Char :=
  digits 2 (m.secondOfDay / 3600) ++ ':' :: (digits 2 (m.secondOfDay / 60 % 60) ++ ':' ::
    (digits 2 m.secondOfMinute ++ '.' :: (digits 6 m.microsecond ++ ['Z'])))

def sinceYear (m : Moment) : List Char :=
  digits 2 m.date.month ++ '-' :: (digits 2 m.date.day ++ 'T' :: m.clockChars)

theorem chars_eq (m : Moment) : m.chars = yearText m.date.year ++ '-' :: m.sinceYear := by
  simp only [chars, secondChars, sinceYear, clockChars, List.append_assoc, List.cons_append]

theorem clockChars_lt_of_fields (ha : a.nano < 2000000000) (hb : b.nano < 2000000000)
    (h : a.secondOfDay / 60 < b.secondOfDay / 60 ∨
      a.secondOfDay / 60 = b.secondOfDay / 60 ∧ (a.secondOfMinute < b.secondOfMinute ∨
        a.secondOfMinute = b.secondOfMinute ∧ a.microsecond < b.microsecond)) :
    a.clockChars < b.clockChars := by
  have hday : a.secondOfDay < 86400 ∧ b.secondOfDay < 86400 := by
    have := a.secondOfDay_eq
    have := b.secondOfDay_eq
    omega
  have hsecond : a.secondOfMinute < 100 ∧ b.secondOfMinute < 100 := by
    unfold secondOfMinute
    omega
  have hmicrosecond : a.microsecond < 10 ^ 6 ∧ b.microsecond < 10 ^ 6 := by
    unfold microsecond
    omega
  unfold clockChars
  have hfields : a.secondOfDay / 3600 < b.secondOfDay / 3600 ∨
      a.secondOfDay / 3600 = b.secondOfDay / 3600 ∧
      (a.secondOfDay / 60 % 60 < b.secondOfDay / 60 % 60 ∨
      a.secondOfDay / 60 % 60 = b.secondOfDay / 60 % 60 ∧
      (a.secondOfMinute < b.secondOfMinute ∨
      a.secondOfMinute = b.secondOfMinute ∧ a.microsecond < b.microsecond)) := by
    omega
  refine digits_append_lt (by decide) (by omega) (by omega) (hfields.imp_right (.imp_right ?_))
  intro hminute
  refine digits_append_lt (by decide) (by omega) (by omega) (hminute.imp_right (.imp_right ?_))
  intro hsecond'
  refine digits_append_lt (by decide) hsecond.1 hsecond.2 (hsecond'.imp_right (.imp_right ?_))
  exact fun h => digits_append_lt (by decide) hmicrosecond.1 hmicrosecond.2 (.inl h)

theorem IsProper.nano_lt (h : a.IsProper) : a.nano < 2000000000 := by
  unfold IsProper at h
  omega

theorem clockChars_lt (ha : a.IsProper) (hb : b.IsProper) (h : a.secondOfDay < b.secondOfDay ∨
    a.secondOfDay = b.secondOfDay ∧ a.nano / 1000 < b.nano / 1000) :
    a.clockChars < b.clockChars := by
  refine clockChars_lt_of_fields ha.nano_lt hb.nano_lt ?_
  unfold IsProper at ha hb
  unfold secondOfMinute microsecond
  -- The last second of a minute can be a leap second, and counts on to the sixty-first.
  omega

theorem sinceYear_lt (h : a.date.month < b.date.month ∨ a.date.month = b.date.month ∧
    (a.date.day < b.date.day ∨ a.date.day = b.date.day ∧ a.clockChars < b.clockChars)) :
    a.sinceYear < b.sinceYear := by
  have ha : a.date.month < 100 ∧ a.date.day < 100 := Date.ofDays_bounds _
  have hb : b.date.month < 100 ∧ b.date.day < 100 := Date.ofDays_bounds _
  unfold sinceYear
  refine digits_append_lt (by decide) ha.1 hb.1 (h.imp_right (.imp_right fun hday => ?_))
  exact digits_append_lt (by decide) ha.2 hb.2 hday

theorem chars_lt (hyear : 0 ≤ b.date.year) (hyear' : b.date.year ≤ 9999)
    (h : a.date.IsBefore b.date ∨ a.date = b.date ∧ a.clockChars < b.clockChars) :
    a.chars < b.chars := by
  have hfields : a.date.year < b.date.year ∨ a.date.year = b.date.year ∧
      (a.date.month < b.date.month ∨ a.date.month = b.date.month ∧
      (a.date.day < b.date.day ∨ a.date.day = b.date.day ∧ a.clockChars < b.clockChars)) := by
    rcases h with (h | ⟨hy, h | ⟨hm, h⟩⟩) | ⟨heq, h⟩
    · exact .inl h
    · exact .inr ⟨hy, .inl h⟩
    · exact .inr ⟨hy, .inr ⟨hm, .inl h⟩⟩
    · rw [heq]
      exact .inr ⟨rfl, .inr ⟨rfl, .inr ⟨rfl, h⟩⟩⟩
  rw [chars_eq, chars_eq]
  exact yearText_append_lt hyear hyear' (hfields.imp_right (.imp_right sinceYear_lt))

theorem text_lt_text (ha : a.IsProper) (hb : b.InFourDigits) (h : a.tick < b.tick) :
    a.text < b.text := by
  have hday := a.secondOfDay_eq
  have hday' := b.secondOfDay_eq
  rw [String.lt_iff, text, text, String.toList_ofList, String.toList_ofList]
  refine chars_lt hb.year_nonneg hb.year_le ?_
  rw [tick, tick, Prod.Lex.toLex_lt_toLex] at h
  rcases lt_or_ge (a.second / 86400) (b.second / 86400) with hlt | hge
  · left
    rw [date, date, day_eq, day_eq]
    exact Date.isBefore_ofDays hlt
  · right
    have heq : a.second / 86400 = b.second / 86400 := by omega
    refine ⟨by rw [date, date, day_eq, day_eq, heq], clockChars_lt ha hb.isProper ?_⟩
    omega

theorem text_eq_of_tick_eq (h : a.tick = b.tick) : a.text = b.text := by
  obtain ⟨hsecond, hnano⟩ : a.second = b.second ∧ a.nano / 1000 = b.nano / 1000 :=
    Prod.mk.inj (toLex.injective h)
  have hleap : a.nano / 1000000000 = b.nano / 1000000000 := by omega
  have hmicrosecond : a.nano % 1000000000 / 1000 = b.nano % 1000000000 / 1000 := by omega
  simp only [text, chars, secondChars, secondOfMinute, microsecond, secondOfDay, date, hsecond,
    hleap, hmicrosecond]

/-- As text, a moment of a year of four digits is before another one just when it is so in time,
however far in the past the other one lies. -/
theorem text_lt_text_iff (ha : a.InFourDigits) (hb : b.IsProper) (hyear : b.date.year ≤ 9999) :
    a.text < b.text ↔ a.tick < b.tick := by
  constructor
  · intro h
    by_contra hge
    rcases lt_or_eq_of_le (not_lt.mp hge) with hlt | heq
    · exact absurd h (String.lt_asymm (text_lt_text hb ha hlt))
    · rw [text_eq_of_tick_eq heq] at h
      exact String.lt_irrefl _ h
  · intro h
    have hle := year_le_of_tick_le h.le
    exact text_lt_text ha.isProper ⟨hb, ha.year_nonneg.trans hle, hyear⟩ h

end Lemmata.Moment
