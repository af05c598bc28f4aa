import Lemmata.Proofs.Store.PlanEntries
import Lemmata.Proofs.Text.ByteOrder
import Lemmata.Proofs.Time.Years

/-! # The order of written accesses over the whole calendar -/

namespace Lemmata

namespace Moment

variable {a b : Moment}

/-- A moment of the calendar. A leap second can follow any second here. -/
structure InRange (m : Moment) : Prop where
  nano_lt : m.nano < 2000000000
  isInCalendar : m.isInCalendar = true

/-- Where a moment is among the written ones. In a minute it counts with the second that is written
for it. -/
def place (m : Moment) : (Nat ×ₗ Nat ×ₗ Nat) ×ₗ Int ×ₗ Nat ×ₗ Nat :=
  toLex (yearPlace m.date.year, toLex (m.second / 60, toLex (m.secondOfMinute, m.microsecond)))

theorem place_lt_iff : a.place < b.place ↔ yearPlace a.date.year < yearPlace b.date.year ∨
    yearPlace a.date.year = yearPlace b.date.year ∧ (a.second / 60 < b.second / 60 ∨
      a.second / 60 = b.second / 60 ∧ (a.secondOfMinute < b.secondOfMinute ∨
        a.secondOfMinute = b.secondOfMinute ∧ a.microsecond < b.microsecond)) := by
  rw [place, place, Prod.Lex.toLex_lt_toLex, Prod.Lex.toLex_lt_toLex, Prod.Lex.toLex_lt_toLex]

/-! ## The written form -/

theorem natAbs_year_lt (h : a.InRange) : a.date.year.natAbs < 1000000 := by
  obtain ⟨hfirst, hlast⟩ := of_decide_eq_true h.isInCalendar
  have hearly : (⟨least, 0⟩ : Moment).date.year ≤ a.date.year := year_le_of_second_le hfirst
  have hlate : a.date.year ≤ (⟨greatest, 0⟩ : Moment).date.year := year_le_of_second_le hlast
  have hbounds : (⟨least, 0⟩ : Moment).date.year = -262143 ∧
      (⟨greatest, 0⟩ : Moment).date.year = 262142 := ⟨rfl, rfl⟩
  omega

theorem minuteOfDay_eq (m : Moment) : ((m.secondOfDay / 60 : Nat) : Int) = m.second / 60 % 1440 := by
  have := m.secondOfDay_eq
  omega

theorem date_eq_of_minute_eq (h : a.second / 60 = b.second / 60) : a.date = b.date := by
  rw [date, date, day_eq, day_eq]
  congr 1
  omega

theorem sinceYear_lt_of_minute (ha : a.InRange) (hb : b.InRange)
    (hyear : a.date.year = b.date.year) (h : a.second / 60 < b.second / 60 ∨
      a.second / 60 = b.second / 60 ∧ (a.secondOfMinute < b.secondOfMinute ∨
        a.secondOfMinute = b.secondOfMinute ∧ a.microsecond < b.microsecond)) :
    a.sinceYear < b.sinceYear := by
  refine sinceYear_lt ?_
  rcases lt_or_ge (a.second / 86400) (b.second / 86400) with hlt | hge
  · have hbefore : a.date.IsBefore b.date := by
      rw [date, date, day_eq, day_eq]
      exact Date.isBefore_ofDays hlt
    rcases hbefore with hless | ⟨-, hmonth | ⟨hmonth, hday⟩⟩
    · omega
    · exact .inl hmonth
    · exact .inr ⟨hmonth, .inl hday⟩
  · have hday : a.second / 86400 = b.second / 86400 := by omega
    have hdate : a.date = b.date := by rw [date, date, day_eq, day_eq, hday]
    refine .inr ⟨by rw [hdate], .inr ⟨by rw [hdate], ?_⟩⟩
    refine clockChars_lt_of_fields ha.nano_lt hb.nano_lt ?_
    have := a.minuteOfDay_eq
    have := b.minuteOfDay_eq
    omega

theorem text_lt_of_place_lt (ha : a.InRange) (hb : b.InRange) (h : a.place < b.place) :
    a.text < b.text := by
  rw [String.lt_iff, text, text, String.toList_ofList, String.toList_ofList, chars_eq, chars_eq]
  rcases place_lt_iff.mp h with hplace | ⟨hplace, hfields⟩
  · exact yearText_lt_of_place (natAbs_year_lt ha) (natAbs_year_lt hb) hplace
  · have hyear := yearPlace_injective hplace
    rw [hyear]
    exact List.append_left_lt (List.cons_lt_cons_iff.mpr
      (.inr ⟨rfl, sinceYear_lt_of_minute ha hb hyear hfields⟩))

theorem text_eq_of_place_eq (h : a.place = b.place) : a.text = b.text := by
  obtain ⟨-, hfields⟩ := Prod.mk.inj (toLex.injective h)
  obtain ⟨hminute, hfields⟩ := Prod.mk.inj (toLex.injective hfields)
  obtain ⟨hsecond, hmicrosecond⟩ := Prod.mk.inj (toLex.injective hfields)
  have hday : a.secondOfDay / 60 = b.secondOfDay / 60 := by
    have := a.minuteOfDay_eq
    have := b.minuteOfDay_eq
    omega
  have hhour : a.secondOfDay / 3600 = b.secondOfDay / 3600 := by omega
  rw [text, text, chars, chars, secondChars, secondChars, date_eq_of_minute_eq hminute, hday, hhour,
    hsecond, hmicrosecond]

theorem text_lt_iff_place_lt (ha : a.InRange) (hb : b.InRange) :
    a.text < b.text ↔ a.place < b.place := by
  refine ⟨fun h => ?_, text_lt_of_place_lt ha hb⟩
  by_contra hge
  rcases lt_or_eq_of_le (not_lt.mp hge) with hlt | heq
  · exact String.lt_asymm h (text_lt_of_place_lt hb ha hlt)
  · rw [text_eq_of_place_eq heq] at h
    exact String.lt_irrefl _ h

/-! ## Places and moments -/

/-- In a year the written moments are in order, if leap seconds come only where they belong. -/
theorem place_lt_iff_tick_lt (ha : a.IsProper) (hb : b.IsProper)
    (hyear : a.date.year = b.date.year) : a.place < b.place ↔ a.tick < b.tick := by
  have hday := a.secondOfDay_eq
  have hday' := b.secondOfDay_eq
  rw [place_lt_iff, hyear, tick, tick, Prod.Lex.toLex_lt_toLex]
  unfold secondOfMinute microsecond
  unfold IsProper at ha hb
  simp only [lt_irrefl, false_or, true_and]
  omega

/-- Whether two moments are in the same order as their texts. -/
def InOrder (a b : Moment) : Prop :=
  Utf8.encode a.text < Utf8.encode b.text ↔ a.tick < b.tick

theorem tick_lt_iff_year_lt (h : a.date.year ≠ b.date.year) :
    a.tick < b.tick ↔ a.date.year < b.date.year := by
  refine ⟨fun hlt => lt_of_le_of_ne (year_le_of_tick_le hlt.le) h, fun hlt => ?_⟩
  by_contra hge
  exact absurd (year_le_of_tick_le (not_lt.mp hge)) (not_le.mpr hlt)

theorem place_lt_iff_yearPlace_lt (h : a.date.year ≠ b.date.year) :
    a.place < b.place ↔ yearPlace a.date.year < yearPlace b.date.year := by
  rw [place_lt_iff]
  exact or_iff_left fun hsame => h (yearPlace_injective hsame.1)

/-- Only the years can be out of order. -/
theorem inOrder_iff (ha : a.InRange) (hb : b.InRange) (ha' : a.IsProper) (hb' : b.IsProper) :
    InOrder a b ↔
      (a.date.year < b.date.year ↔ yearPlace a.date.year < yearPlace b.date.year) := by
  rw [InOrder, Utf8.encode_lt_iff, text_lt_iff_place_lt ha hb]
  by_cases hyear : a.date.year = b.date.year
  · rw [place_lt_iff_tick_lt ha' hb' hyear, hyear]
    simp
  · rw [place_lt_iff_yearPlace_lt hyear, tick_lt_iff_year_lt hyear]
    exact Iff.comm

theorem InFourDigits.inOrder_iff (ha : a.InRange) (hb : b.InRange) (ha' : a.InFourDigits)
    (hb' : b.IsProper) : InOrder a b ↔ b.date.year ≤ 9999 := by
  rw [Moment.inOrder_iff ha hb ha'.isProper hb']
  rcases le_or_gt b.date.year 9999 with hle | hlate
  · exact iff_of_true (yearPlace_lt_iff_lt ha'.year_le hle (.inl ha'.year_nonneg)).symm hle
  · have hbefore := yearPlace_lt_of_late hlate ha'.year_le
    refine iff_of_false (fun h => ?_) (not_le.mpr hlate)
    exact lt_asymm hbefore (h.mp (ha'.year_le.trans_lt hlate))

/-- The texts of any two moments of the calendar are in order like their places. These are in order
like the moments themselves, unless the years differ and are not in order as they are written: so a
moment of a year of four digits is in order with all moments up to the year 9999, and with none
after it. A row goes when its access has a place before that of the cutoff. -/
theorem written_order (ha : a.InRange) (hb : b.InRange) :
    (Utf8.encode a.text < Utf8.encode b.text ↔ a.place < b.place) ∧
    (a.IsProper → b.IsProper → (InOrder a b ↔
      (a.date.year < b.date.year ↔ yearPlace a.date.year < yearPlace b.date.year))) ∧
    (a.InFourDigits → b.IsProper → (InOrder a b ↔ b.date.year ≤ 9999)) ∧
    ∀ (s : Store) (row : PlanRow), row ∈ s.plans.rows → row.lastAccess = a.text →
      (row ∈ (s.prune b).1.plans.rows ↔ b.place ≤ a.place) := by
  refine ⟨?_, inOrder_iff ha hb, InFourDigits.inOrder_iff ha hb, fun s row hrow haccess => ?_⟩
  · rw [Utf8.encode_lt_iff, text_lt_iff_place_lt ha hb]
  · have hkept : row ∈ (s.prune b).1.plans.rows ↔ ¬ a.text < b.text := by
      simp [Store.prune, PlanRow.isOlderThan, hrow, haccess]
    rw [hkept, text_lt_iff_place_lt ha hb, not_lt]

/-! ### A cutoff at the start of the year 10000 -/

def access : Moment := ⟨1700000000, 0⟩

def lateCutoff : Moment := ⟨253402300800, 0⟩

example : lateCutoff.text = "+10000-01-01T00:00:00.000000Z" := by decide +kernel

def keptRow : PlanRow :=
  .ofExecuted access
    { planId := "p", planHash := "h", references := [], durationMs := 0, fromCache := false }

theorem written_order_lateCutoff :
    access.tick < lateCutoff.tick ∧ ¬ InOrder access lateCutoff ∧
    keptRow ∈ ({ Store.empty with plans := ⟨[keptRow]⟩ }.prune lateCutoff).1.plans.rows := by
  have hproper : access.IsProper := .inl (by decide)
  have hfour : access.InFourDigits := ⟨hproper, by decide, by decide⟩
  have hrange : access.InRange := ⟨by decide, by decide⟩
  have hrange' : lateCutoff.InRange := ⟨by decide, by decide⟩
  obtain ⟨hbytes, hyears, hfourDigits, hprune⟩ := written_order hrange hrange'
  have hlate : ¬ lateCutoff.date.year ≤ 9999 := by decide
  have hplace : lateCutoff.place ≤ access.place :=
    (place_lt_iff.mpr (.inl (yearPlace_lt_of_late (not_le.mp hlate) hfour.year_le))).le
  refine ⟨?_, ?_, ?_⟩
  · exact Prod.Lex.toLex_lt_toLex.mpr (.inl (by decide))
  · exact mt (hfourDigits hfour (.inl (by decide))).mp hlate
  · exact (hprune _ keptRow List.mem_cons_self rfl).mpr hplace

end Moment

end Lemmata
