import Lemmata.Proofs.Decimal.Shortest
import Lemmata.Proofs.Json.Literals

/-! # Numbers are told apart by their text -/

namespace Lemmata.Json.Number

open Reader

variable {t digits fraction : List Char}

/-! ## The exact value of a text -/

def exponentValue : List Char → Int
  | 'e' :: '+' :: digits => Nat.ofDigitChars 10 digits 0
  | 'e' :: '-' :: digits => -Nat.ofDigitChars 10 digits 0
  | _ => 0

theorem exponentValue_nil : exponentValue [] = 0 :=
  rfl

/-- The value of a numeral without its sign, not rounded. -/
def numeralValue (cs : List Char) : ℚ :=
  match cs.dropWhile isDigit with
  | '.' :: rest =>
    Nat.ofDigitChars 10 (cs.takeWhile isDigit ++ rest.takeWhile isDigit) 0 *
      10 ^ (exponentValue (rest.dropWhile isDigit) - (rest.takeWhile isDigit).length)
  | rest => Nat.ofDigitChars 10 (cs.takeWhile isDigit) 0 * 10 ^ exponentValue rest

theorem numeralValue_whole (hdigits : ∀ c ∈ digits, isDigit c = true) (ht : ExponentText t) :
    numeralValue (digits ++ t) = Nat.ofDigitChars 10 digits 0 * 10 ^ exponentValue t := by
  have htake := takeWhile_digits_exponent hdigits ht .nil
  have hdrop := dropWhile_digits_exponent hdigits ht .nil
  rw [List.append_nil] at htake hdrop
  rw [numeralValue, htake, hdrop]
  cases ht <;> rfl

theorem numeralValue_point (hdigits : ∀ c ∈ digits, isDigit c = true)
    (hfraction : ∀ c ∈ fraction, isDigit c = true) (ht : ExponentText t) :
    numeralValue (digits ++ '.' :: (fraction ++ t)) =
      Nat.ofDigitChars 10 (digits ++ fraction) 0 * 10 ^ (exponentValue t - fraction.length) := by
  have hpoint : isDigit '.' = false := by decide
  have htake := takeWhile_digits_exponent hfraction ht .nil
  have hdrop := dropWhile_digits_exponent hfraction ht .nil
  rw [List.append_nil] at htake hdrop
  simp only [numeralValue, takeWhile_stop hdigits hpoint, dropWhile_stop hdigits hpoint, htake, hdrop]

theorem ofDigitChars_zeros_append (n : Int) (digits : List Char) :
    Nat.ofDigitChars 10 (zeros n ++ digits) 0 = Nat.ofDigitChars 10 digits 0 := by
  rw [zeros, Nat.ofDigitChars_append, Nat.ofDigitChars_replicate_zero, Nat.mul_zero]

theorem ofDigitChars_append_zeros (digits : List Char) (n : Nat) :
    (Nat.ofDigitChars 10 (digits ++ zeros n) 0 : ℚ) = Nat.ofDigitChars 10 digits 0 * 10 ^ n := by
  rw [zeros, Int.toNat_natCast, Nat.ofDigitChars_append, Nat.ofDigitChars_replicate_zero]
  push_cast
  ring

theorem numeralValue_tenths (hdigits : ∀ c ∈ digits, isDigit c = true) :
    numeralValue (digits ++ ['.', '0']) = Nat.ofDigitChars 10 digits 0 := by
  have hzero : ∀ c ∈ zeros (1 : Nat), isDigit c = true := isDigit_zeros
  have hvalue := numeralValue_point hdigits hzero .none
  rw [ofDigitChars_append_zeros, exponentValue_nil] at hvalue
  refine hvalue.trans ?_
  rw [zeros, List.length_replicate]
  norm_num
  ring

theorem numeralValue_positional (hdigits : ∀ c ∈ digits, isDigit c = true) (before : Int) :
    numeralValue (positional digits before) =
      Nat.ofDigitChars 10 digits 0 * 10 ^ (before - digits.length) := by
  unfold positional
  split
  · next hbefore =>
    have hzero : ∀ c ∈ ['0'], isDigit c = true := List.forall_mem_singleton.mpr rfl
    have hfraction : ∀ c ∈ zeros (-before) ++ digits, isDigit c = true := by
      intro c hc
      rcases List.mem_append.mp hc with hc | hc
      · exact isDigit_zeros c hc
      · exact hdigits c hc
    have hvalue := numeralValue_point hzero hfraction .none
    have hlength : (0 : Int) - (zeros (-before) ++ digits).length = before - digits.length := by
      rw [List.length_append, zeros, List.length_replicate]
      omega
    have hlead : Nat.ofDigitChars 10 ('0' :: (zeros (-before) ++ digits)) 0 =
        Nat.ofDigitChars 10 digits 0 := by
      rw [Nat.ofDigitChars_cons]
      exact ofDigitChars_zeros_append _ _
    rw [List.append_nil, List.singleton_append, List.singleton_append, exponentValue_nil, hlength,
      hlead] at hvalue
    exact hvalue
  · next hbefore =>
    obtain ⟨k, rfl⟩ := Int.eq_ofNat_of_zero_le (show 0 ≤ before by omega)
    dsimp only
    rw [Int.toNat_natCast]
    rcases Nat.lt_or_ge k digits.length with hlt | hge
    · -- The point stands among the digits.
      have hzeros : zeros (k - digits.length) = [] := by
        rw [zeros, Int.toNat_of_nonpos (by omega)]
        rfl
      have hdrop : (digits.drop k).isEmpty = false := by
        rw [List.isEmpty_eq_false_iff, ne_eq, List.drop_eq_nil_iff]
        omega
      have hexponent : (0 : Int) - (digits.length - k : Nat) = k - digits.length := by omega
      have hvalue := numeralValue_point (fun c hc => hdigits c (List.mem_of_mem_take (i := k) hc))
        (fun c hc => hdigits c (List.mem_of_mem_drop (i := k) hc)) .none
      rw [List.append_nil, List.take_append_drop, List.length_drop, exponentValue_nil,
        hexponent] at hvalue
      rw [hzeros, hdrop, List.append_nil, if_neg (by decide)]
      exact hvalue
    · -- Zeros fill up to the point, and one stands behind it.
      obtain ⟨n, rfl⟩ : ∃ n, k = digits.length + n := ⟨k - digits.length, by omega⟩
      have hn : ((digits.length + n : Nat) : Int) - digits.length = n := by omega
      have hwhole : ∀ c ∈ digits ++ zeros n, isDigit c = true := by
        intro c hc
        rcases List.mem_append.mp hc with hc | hc
        · exact hdigits c hc
        · exact isDigit_zeros c hc
      rw [List.take_of_length_le (by omega), List.drop_of_length_le (by omega), hn,
        if_pos (by rfl), numeralValue_tenths hwhole, ofDigitChars_append_zeros, zpow_natCast]

theorem exponentValue_magnitude (magnitude : Int) :
    exponentValue ('e' :: (if 0 ≤ magnitude then '+' else '-') ::
      Nat.toDigits 10 magnitude.natAbs) = magnitude := by
  split <;> rw [exponentValue, Nat.ofDigitChars_ten_toDigits] <;> omega

theorem numeralValue_scientific (hne : digits ≠ []) (hdigits : ∀ c ∈ digits, isDigit c = true)
    (magnitude : Int) :
    numeralValue (scientific digits magnitude) =
      Nat.ofDigitChars 10 digits 0 * 10 ^ (magnitude + 1 - digits.length) := by
  obtain ⟨c, rest, rfl⟩ := List.exists_cons_of_ne_nil hne
  obtain ⟨hc, hrest⟩ := List.forall_mem_cons.mp hdigits
  have hfirst : ∀ d ∈ [c], isDigit d = true := List.forall_mem_singleton.mpr hc
  have hexponent := exponentText_magnitude magnitude
  cases hfraction : rest.isEmpty with
  | true =>
    obtain rfl := List.isEmpty_iff.mp hfraction
    have hvalue := numeralValue_whole hfirst hexponent
    have hone : magnitude + 1 - [c].length = magnitude := Int.add_sub_cancel magnitude 1
    rw [exponentValue_magnitude] at hvalue
    rw [hone]
    exact hvalue
  | false =>
    have hvalue := numeralValue_point hfirst hrest hexponent
    have hlength : magnitude + 1 - (c :: rest).length = magnitude - rest.length := by
      rw [List.length_cons]
      omega
    rw [exponentValue_magnitude, ← hlength] at hvalue
    have htext : scientific (c :: rest) magnitude = [c] ++ '.' :: (rest ++ 'e' ::
        (if 0 ≤ magnitude then '+' else '-') :: Nat.toDigits 10 magnitude.natAbs) := by
      simp [scientific, hfraction]
    rw [htext]
    exact hvalue

/-! ## Signs -/

theorem append_sign_inj {a b : Bool} {t u : List Char} (ht : Numeral t) (hu : Numeral u)
    (h : (if a then ['-'] else []) ++ t = (if b then ['-'] else []) ++ u) : a = b ∧ t = u := by
  obtain ⟨c, cs, rfl, hc⟩ := ht.head
  obtain ⟨d, ds, rfl, hd⟩ := hu.head
  have hminus : isDigit '-' = false := by decide
  cases a <;> cases b
  · exact ⟨rfl, h⟩
  · obtain rfl : c = '-' := (List.cons.inj h).1
    rw [hc] at hminus
    cases hminus
  · obtain rfl : '-' = d := (List.cons.inj h).1
    rw [hd] at hminus
    cases hminus
  · exact ⟨rfl, (List.cons.inj h).2⟩

/-! ## Doubles -/

theorem point_mem_positional (digits : List Char) (before : Int) : '.' ∈ positional digits before := by
  unfold positional
  split <;> simp

theorem letter_mem_scientific (digits : List Char) (magnitude : Int) :
    'e' ∈ scientific digits magnitude := by
  simp [scientific]

/-- The text of a double without its sign. -/
structure Spells (x : Binary64) (t : List Char) : Prop where
  numeral : Numeral t
  marked : '.' ∈ t ∨ 'e' ∈ t
  value : numeralValue t = if x.isZero then 0 else (Decimal.shortest x).value

theorem realText_eq (x : Binary64) :
    ∃ t, Spells x t ∧ realText x = (if x.negative then ['-'] else []) ++ t := by
  unfold realText
  dsimp only
  split
  · next hzero =>
    have hdigits : ∀ c ∈ ['0'], isDigit c = true := List.forall_mem_singleton.mpr rfl
    refine ⟨['0', '.', '0'], ⟨?_, .inl (by decide), ?_⟩, rfl⟩
    · exact .point (List.cons_ne_nil _ _) hdigits hdigits .none
    · rw [if_pos hzero]
      exact (numeralValue_tenths hdigits).trans Nat.cast_zero
  · next hzero =>
    have hne : Nat.toDigits 10 (Decimal.shortest x).digits ≠ [] := Nat.toDigits_ne_nil
    have hdigits : ∀ c ∈ Nat.toDigits 10 (Decimal.shortest x).digits, isDigit c = true :=
      fun c hc => isDigit_of_mem_toDigits hc
    refine ⟨_, ⟨?_, ?_, ?_⟩, rfl⟩
    · split
      · exact numeral_positional hne hdigits
      · exact numeral_scientific hne hdigits
    · split
      · exact .inl (point_mem_positional _ _)
      · exact .inr (letter_mem_scientific _ _)
    · rw [if_neg hzero, Decimal.value]
      split
      · rw [numeralValue_positional hdigits, Nat.ofDigitChars_ten_toDigits]
        congr 2
        omega
      · rw [numeralValue_scientific hne hdigits, Nat.ofDigitChars_ten_toDigits]
        congr 2
        omega

theorem eq_of_spells {x y : Binary64} (hx : x.IsNormal) (hy : y.IsNormal) (hxt : Spells x t)
    (hyt : Spells y t) : x.significand = y.significand ∧ x.exponent = y.exponent := by
  have hvalue := hxt.value.symm.trans hyt.value
  have hzero : ∀ z : Binary64, z.IsNormal → z.isZero = true →
      z.significand = 0 ∧ z.exponent = Binary64.leastExponent := by
    intro z hz h
    have hsignificand := beq_iff_eq.mp h
    refine ⟨hsignificand, ?_⟩
    by_contra hne
    have := hz.leading hne
    omega
  cases hx0 : x.isZero <;> cases hy0 : y.isZero <;> rw [hx0, hy0] at hvalue
  · exact Decimal.eq_of_shortest_eq hx hy hx0 hy0 hvalue
  · exact absurd hvalue ((Decimal.holds_shortest hx hx0).pos hx0).ne'
  · exact absurd hvalue ((Decimal.holds_shortest hy hy0).pos hy0).ne
  · obtain ⟨hx1, hx2⟩ := hzero x hx hx0
    obtain ⟨hy1, hy2⟩ := hzero y hy hy0
    exact ⟨hx1.trans hy1.symm, hx2.trans hy2.symm⟩

/-! ## All numbers -/

/-- An integer, or one of the numbers that a double can hold. -/
def IsNormal : Number → Prop
  | integer _ => True
  | real x => x.IsNormal

theorem integerText_eq (n : Int) :
    integerText n = (if decide (n < 0) then ['-'] else []) ++ Nat.toDigits 10 n.natAbs := by
  simp only [integerText, decide_eq_true_eq]

theorem integerText_inj {m n : Int} (h : integerText m = integerText n) : m = n := by
  rw [integerText_eq, integerText_eq] at h
  obtain ⟨hsign, hdigits⟩ := append_sign_inj (numeral_toDigits _) (numeral_toDigits _) h
  have habs : m.natAbs = n.natAbs := by
    rw [← @Nat.ofDigitChars_ten_toDigits m.natAbs, hdigits, Nat.ofDigitChars_ten_toDigits]
  have hneg := decide_eq_decide.mp hsign
  omega

/-- A double is written with a point or an exponent, an integer is not. -/
theorem integerText_ne_realText (n : Int) (x : Binary64) : integerText n ≠ realText x := by
  intro h
  obtain ⟨t, ht, htext⟩ := realText_eq x
  rw [integerText_eq, htext] at h
  obtain ⟨-, rfl⟩ := append_sign_inj (numeral_toDigits _) ht.numeral h
  rcases ht.marked with hmark | hmark
  · exact absurd (isDigit_of_mem_toDigits hmark) (by decide)
  · exact absurd (isDigit_of_mem_toDigits hmark) (by decide)

theorem realText_inj {x y : Binary64} (hx : x.IsNormal) (hy : y.IsNormal)
    (h : realText x = realText y) : x = y := by
  obtain ⟨t, ht, htext⟩ := realText_eq x
  obtain ⟨u, hu, hutext⟩ := realText_eq y
  rw [htext, hutext] at h
  obtain ⟨hsign, rfl⟩ := append_sign_inj ht.numeral hu.numeral h
  obtain ⟨hsignificand, hexponent⟩ := eq_of_spells hx hy ht hu
  cases x
  cases y
  cases hsign
  cases hsignificand
  cases hexponent
  rfl

theorem text_inj {m n : Number} (hm : m.IsNormal) (hn : n.IsNormal) (h : m.text = n.text) :
    m = n := by
  cases m with
  | integer m =>
    cases n with
    | integer n => exact congrArg integer (integerText_inj h)
    | real y => exact absurd h (integerText_ne_realText m y)
  | real x =>
    cases n with
    | integer n => exact absurd h.symm (integerText_ne_realText n x)
    | real y => exact congrArg real (realText_inj hm hn h)

end Lemmata.Json.Number
