import Lemmata.Json.Reader
import Lemmata.Json.Text
import Mathlib.Tactic.SplitIfs

/-! # Literals are read where they were written -/

namespace Lemmata.Json.Reader

variable {t rest : List Char} {negative : Bool}

/-! ## Digits -/

/-- What may follow a value inside another one, or at the end. -/
inductive Delimited : List Char → Prop
  | nil : Delimited []
  | comma (cs : List Char) : Delimited (',' :: cs)
  | bracket (cs : List Char) : Delimited (']' :: cs)
  | brace (cs : List Char) : Delimited ('\x7d' :: cs)

theorem isDigit_of_mem_toDigits {n : Nat} {c : Char} (h : c ∈ Nat.toDigits 10 n) :
    isDigit c = true := by
  have hdigit := Nat.isDigit_of_mem_toDigits (by decide) (by decide) h
  simpa [isDigit, Char.isDigit, Char.le_def, UInt32.le_iff_toNat_le] using hdigit

theorem takeWhile_isDigit {digits rest : List Char} (hdigits : ∀ c ∈ digits, isDigit c = true)
    (hrest : Delimited rest) : (digits ++ rest).takeWhile isDigit = digits := by
  rw [List.takeWhile_append_of_pos hdigits]
  cases hrest <;> simp [isDigit]

theorem dropWhile_isDigit {digits rest : List Char} (hdigits : ∀ c ∈ digits, isDigit c = true)
    (hrest : Delimited rest) : (digits ++ rest).dropWhile isDigit = rest := by
  rw [List.dropWhile_append_of_pos hdigits]
  cases hrest <;> simp [isDigit]

theorem le_ofDigitChars (digits : List Char) (n : Nat) : n ≤ Nat.ofDigitChars 10 digits n := by
  rw [Nat.ofDigitChars_eq_ofDigitChars_zero]
  have hpos : 0 < 10 ^ digits.length := Nat.pow_pos (by decide)
  have := Nat.le_mul_of_pos_left n hpos
  omega

theorem appendDigits_eq {digits : List Char} {n : Nat}
    (h : Nat.ofDigitChars 10 digits n ≤ greatestSignificand) :
    appendDigits n digits = (Nat.ofDigitChars 10 digits n, []) := by
  induction digits generalizing n with
  | nil => rfl
  | cons c rest ih =>
    have hnext : n * 10 + digitValue c = 10 * n + (c.toNat - '0'.toNat) := by
      rw [Nat.mul_comm]
      rfl
    rw [Nat.ofDigitChars_cons] at h ⊢
    have hle := le_ofDigitChars rest (10 * n + (c.toNat - '0'.toNat))
    simp only [appendDigits, hnext]
    rw [if_neg (by omega), ih h]

theorem eq_zero_of_head?_toDigits {n : Nat} (h : (Nat.toDigits 10 n).head? = some '0') : n = 0 := by
  induction n using Nat.strongRecOn with
  | ind n ih =>
    rw [Nat.toDigits_eq_if (by decide)] at h
    split at h
    · simpa using h
    · next hlarge =>
      cases hdigits : Nat.toDigits 10 (n / 10) with
      | nil => exact absurd hdigits Nat.toDigits_ne_nil
      | cons c rest =>
        have hzero := ih (n / 10) (by omega) (by simpa [hdigits] using h)
        omega

/-! ## Integers -/

theorem unsigned_toDigits {negative : Bool} {n : Nat} {rest : List Char}
    (hn : n ≤ greatestSignificand) (hrest : Delimited rest) :
    unsigned negative (Nat.toDigits 10 n ++ rest) =
      (integerNumber negative n).map fun number => (number, rest) := by
  have hdigits : ∀ c ∈ Nat.toDigits 10 n, isDigit c = true := fun c hc => isDigit_of_mem_toDigits hc
  have hlead : (Nat.toDigits 10 n).head? = some '0' → (Nat.toDigits 10 n).length = 1 := by
    intro h
    rw [eq_zero_of_head?_toDigits h]
    rfl
  have happend : appendDigits 0 (Nat.toDigits 10 n) = (n, []) := by
    rw [appendDigits_eq (by rwa [Nat.ofDigitChars_ten_toDigits]), Nat.ofDigitChars_ten_toDigits]
  unfold unsigned
  simp only [takeWhile_isDigit hdigits hrest, dropWhile_isDigit hdigits hrest, happend]
  rw [if_neg]
  · cases hrest <;> cases integerNumber negative n <;> rfl
  · simp only [Bool.or_eq_true, List.isEmpty_iff, Nat.toDigits_ne_nil, Bool.and_eq_true,
      beq_iff_eq, decide_eq_true_eq, false_or, not_and]
    intro h
    have := hlead h
    omega

theorem numberAt_integerText {n : Int} {rest : List Char} (hle : Number.leastInteger ≤ n)
    (hge : n ≤ Number.greatestInteger) (hrest : Delimited rest) :
    numberAt (Number.integerText n ++ rest) = some (.integer n, rest) := by
  unfold Number.leastInteger at hle
  unfold Number.greatestInteger at hge
  have hrange : n.natAbs ≤ greatestSignificand := by
    unfold greatestSignificand
    omega
  unfold Number.integerText
  split
  · next hneg =>
    simp only [List.cons_append, List.nil_append, numberAt]
    rw [unsigned_toDigits hrange hrest]
    have hnumber : integerNumber true n.natAbs = some (.integer n) := by
      unfold integerNumber
      rw [if_neg (by decide), if_neg (by simp; omega)]
      congr 2
      omega
    rw [hnumber]
    rfl
  · next hnonneg =>
    have hunsigned : numberAt (Nat.toDigits 10 n.natAbs ++ rest) =
        unsigned false (Nat.toDigits 10 n.natAbs ++ rest) := by
      cases hdigits : Nat.toDigits 10 n.natAbs with
      | nil => exact absurd hdigits Nat.toDigits_ne_nil
      | cons c cs =>
        have hc : isDigit c = true := isDigit_of_mem_toDigits (hdigits ▸ List.mem_cons_self)
        rw [List.cons_append, numberAt]
        rintro cs' ⟨rfl, rfl⟩
        simp [isDigit] at hc
    rw [List.nil_append, hunsigned, unsigned_toDigits hrange hrest]
    have hnumber : integerNumber false n.natAbs = some (.integer n) := by
      unfold integerNumber
      rw [if_pos (by decide)]
      congr 2
      omega
    rw [hnumber]
    rfl

/-! ## Numbers of any kind -/

theorem takeWhile_stop {digits cs : List Char} {c : Char}
    (hdigits : ∀ c ∈ digits, isDigit c = true) (hc : isDigit c = false) :
    (digits ++ c :: cs).takeWhile isDigit = digits := by
  rw [List.takeWhile_append_of_pos hdigits]
  simp [hc]

theorem dropWhile_stop {digits cs : List Char} {c : Char}
    (hdigits : ∀ c ∈ digits, isDigit c = true) (hc : isDigit c = false) :
    (digits ++ c :: cs).dropWhile isDigit = c :: cs := by
  rw [List.dropWhile_append_of_pos hdigits]
  simp [hc]

/-- The end of a number, from the exponent on. -/
inductive ExponentText : List Char → Prop
  | none : ExponentText []
  | some {sign : Char} {digits : List Char} (hsign : sign = '+' ∨ sign = '-')
      (hdigits : ∀ c ∈ digits, isDigit c = true) : ExponentText ('e' :: sign :: digits)

/-- A number without its sign. -/
inductive Numeral : List Char → Prop
  | whole {digits exponent : List Char} (hne : digits ≠ [])
      (hdigits : ∀ c ∈ digits, isDigit c = true) (hexponent : ExponentText exponent) :
      Numeral (digits ++ exponent)
  | point {digits fraction exponent : List Char} (hne : digits ≠ [])
      (hdigits : ∀ c ∈ digits, isDigit c = true) (hfraction : ∀ c ∈ fraction, isDigit c = true)
      (hexponent : ExponentText exponent) : Numeral (digits ++ '.' :: (fraction ++ exponent))

def leaving {α : Type} (rest : List Char) (found : Option (α × List Char)) :
    Option (α × List Char) :=
  found.map fun p => (p.1, rest)

theorem exponentOf?_append {sign : Char} {digits : List Char} (hsign : sign = '+' ∨ sign = '-')
    (hdigits : ∀ c ∈ digits, isDigit c = true) (hrest : Delimited rest) :
    exponentOf? (sign :: (digits ++ rest)) = leaving rest (exponentOf? (sign :: digits)) := by
  have htake := takeWhile_isDigit hdigits hrest
  have hdrop := dropWhile_isDigit hdigits hrest
  have htake' := takeWhile_isDigit hdigits .nil
  have hdrop' := dropWhile_isDigit hdigits .nil
  rw [List.append_nil] at htake' hdrop'
  rcases hsign with rfl | rfl <;>
  · simp only [exponentOf?, htake, hdrop, htake', hdrop', leaving]
    split <;> rfl

theorem withExponent_delimited (significand : Nat) (exponent : Int) (hrest : Delimited rest) :
    withExponent negative significand exponent rest =
      (realOfParts negative significand exponent).map fun n => (n, rest) := by
  unfold withExponent
  cases hrest <;> dsimp only <;> cases realOfParts negative significand exponent <;> rfl

theorem withExponent_append {significand : Nat} {exponent : Int} (ht : ExponentText t)
    (hrest : Delimited rest) :
    withExponent negative significand exponent (t ++ rest) =
      leaving rest (withExponent negative significand exponent t) := by
  cases ht with
  | none =>
    rw [List.nil_append, withExponent_delimited _ _ hrest, withExponent_delimited _ _ .nil, leaving,
      Option.map_map]
    rfl
  | @some sign digits hsign hdigits =>
    simp only [withExponent, List.cons_append, exponentOf?_append hsign hdigits hrest, leaving]
    cases exponentOf? (sign :: digits) with
    | none => rfl
    | some found =>
      simp only [Option.map_some, Option.bind_eq_bind, Option.bind_some]
      cases realOfParts negative significand (exponent + found.1) <;> rfl

theorem takeWhile_digits_exponent {digits : List Char} (hdigits : ∀ c ∈ digits, isDigit c = true)
    (ht : ExponentText t) (hrest : Delimited rest) :
    (digits ++ (t ++ rest)).takeWhile isDigit = digits := by
  cases ht with
  | none => exact takeWhile_isDigit hdigits hrest
  | some => exact takeWhile_stop hdigits (by decide)

theorem dropWhile_digits_exponent {digits : List Char} (hdigits : ∀ c ∈ digits, isDigit c = true)
    (ht : ExponentText t) (hrest : Delimited rest) :
    (digits ++ (t ++ rest)).dropWhile isDigit = t ++ rest := by
  cases ht with
  | none => exact dropWhile_isDigit hdigits hrest
  | some => exact dropWhile_stop hdigits (by decide)

theorem withFraction_append {significand : Nat} {exponent : Int} {fraction : List Char}
    (hfraction : ∀ c ∈ fraction, isDigit c = true) (ht : ExponentText t)
    (hrest : Delimited rest) :
    withFraction negative significand exponent (fraction ++ (t ++ rest)) =
      leaving rest (withFraction negative significand exponent (fraction ++ t)) := by
  have htake := takeWhile_digits_exponent hfraction ht .nil
  have hdrop := dropWhile_digits_exponent hfraction ht .nil
  rw [List.append_nil] at htake hdrop
  simp only [withFraction, takeWhile_digits_exponent hfraction ht hrest,
    dropWhile_digits_exponent hfraction ht hrest, htake, hdrop]
  split
  · rfl
  · exact withExponent_append ht hrest

theorem unsigned_append (ht : Numeral t) (hrest : Delimited rest) :
    unsigned negative (t ++ rest) = leaving rest (unsigned negative t) := by
  cases ht with
  | @whole digits exponent _ hdigits hexponent =>
    have htake := takeWhile_digits_exponent hdigits hexponent .nil
    have hdrop := dropWhile_digits_exponent hdigits hexponent .nil
    rw [List.append_nil] at htake hdrop
    rw [List.append_assoc]
    simp only [unsigned, takeWhile_digits_exponent hdigits hexponent hrest,
      dropWhile_digits_exponent hdigits hexponent hrest, htake, hdrop]
    split
    · rfl
    · cases hexponent with
      | some hsign hexponent => exact withExponent_append (.some hsign hexponent) hrest
      | none =>
        obtain ⟨significand, left⟩ := appendDigits 0 digits
        rw [List.nil_append]
        cases left with
        | nil => cases hrest <;> cases integerNumber negative significand <;> rfl
        | cons c left =>
          cases hrest <;> cases realOfParts negative significand (c :: left).length <;> rfl
  | @point digits fraction exponent _ hdigits hfraction hexponent =>
    have hpoint : isDigit '.' = false := by decide
    rw [List.append_assoc, List.cons_append, List.append_assoc]
    simp only [unsigned, takeWhile_stop hdigits hpoint, dropWhile_stop hdigits hpoint]
    split
    · rfl
    · exact withFraction_append hfraction hexponent hrest

theorem Numeral.head (ht : Numeral t) : ∃ c cs, t = c :: cs ∧ isDigit c = true := by
  have hdigit : ∀ digits cs : List Char, digits ≠ [] → (∀ c ∈ digits, isDigit c = true) →
      ∃ c cs', digits ++ cs = c :: cs' ∧ isDigit c = true := by
    intro digits cs hne hdigits
    obtain ⟨c, rest, rfl⟩ := List.exists_cons_of_ne_nil hne
    exact ⟨c, rest ++ cs, rfl, hdigits c List.mem_cons_self⟩
  cases ht with
  | whole hne hdigits _ => exact hdigit _ _ hne hdigits
  | point hne hdigits _ _ => exact hdigit _ _ hne hdigits

theorem numberAt_digit {c : Char} (cs : List Char) (hc : isDigit c = true) :
    numberAt (c :: cs) = unsigned false (c :: cs) := by
  rw [numberAt]
  rintro cs' ⟨rfl, rfl⟩
  simp [isDigit] at hc

theorem numeral_toDigits (n : Nat) : Numeral (Nat.toDigits 10 n) := by
  have hne : Nat.toDigits 10 n ≠ [] := Nat.toDigits_ne_nil
  simpa using Numeral.whole hne (fun c hc => isDigit_of_mem_toDigits hc) .none

theorem isDigit_zeros {n : Int} : ∀ c ∈ Number.zeros n, isDigit c = true := by
  intro c hc
  rw [Number.zeros, List.mem_replicate] at hc
  rw [hc.2]
  decide

theorem numeral_positional {digits : List Char} {places : Int} (hne : digits ≠ [])
    (hdigits : ∀ c ∈ digits, isDigit c = true) : Numeral (Number.positional digits places) := by
  unfold Number.positional
  split
  · have hfraction : ∀ c ∈ Number.zeros (-places) ++ digits, isDigit c = true := by
      intro c hc
      rcases List.mem_append.mp hc with hc | hc
      · exact isDigit_zeros c hc
      · exact hdigits c hc
    have hzero : ∀ c ∈ ['0'], isDigit c = true := List.forall_mem_singleton.mpr rfl
    simpa using Numeral.point (List.cons_ne_nil _ _) hzero hfraction .none
  · next hplaces =>
    have hwhole : digits.take places.toNat ++ Number.zeros (places - digits.length) ≠ [] := by
      obtain ⟨c, rest, rfl⟩ := List.exists_cons_of_ne_nil hne
      obtain ⟨k, hk⟩ : ∃ k, places.toNat = k + 1 := ⟨places.toNat - 1, by omega⟩
      simp [hk]
    have hdigit : ∀ c ∈ digits.take places.toNat ++ Number.zeros (places - digits.length),
        isDigit c = true := by
      intro c hc
      rcases List.mem_append.mp hc with hc | hc
      · exact hdigits c (List.mem_of_mem_take hc)
      · exact isDigit_zeros c hc
    have hfraction : ∀ c ∈ if (digits.drop places.toNat).isEmpty then ['0']
        else digits.drop places.toNat, isDigit c = true := by
      intro c hc
      split at hc
      · rw [List.mem_singleton.mp hc]
        decide
      · exact hdigits c (List.mem_of_mem_drop hc)
    simpa using Numeral.point hwhole hdigit hfraction .none

theorem exponentText_magnitude (magnitude : Int) :
    ExponentText ('e' :: (if 0 ≤ magnitude then '+' else '-') ::
      Nat.toDigits 10 magnitude.natAbs) := by
  refine .some ?_ fun c hc => isDigit_of_mem_toDigits hc
  split
  · exact .inl rfl
  · exact .inr rfl

theorem numeral_scientific {digits : List Char} {magnitude : Int} (hne : digits ≠ [])
    (hdigits : ∀ c ∈ digits, isDigit c = true) :
    Numeral (Number.scientific digits magnitude) := by
  have hexponent := exponentText_magnitude magnitude
  have hfirst : digits.take 1 ≠ [] := by
    obtain ⟨c, rest, rfl⟩ := List.exists_cons_of_ne_nil hne
    simp
  have htake : ∀ c ∈ digits.take 1, isDigit c = true := fun c hc =>
    hdigits c (List.mem_of_mem_take hc)
  have hdrop : ∀ c ∈ digits.drop 1, isDigit c = true := fun c hc =>
    hdigits c (List.mem_of_mem_drop hc)
  unfold Number.scientific
  dsimp only
  split
  · rw [List.append_nil]
    exact .whole hfirst htake hexponent
  · rw [List.append_assoc, List.cons_append]
    exact .point hfirst htake hdrop hexponent

theorem numeral_text (n : Number) : ∃ t, Numeral t ∧ (n.text = t ∨ n.text = '-' :: t) := by
  cases n with
  | integer n =>
    refine ⟨_, numeral_toDigits n.natAbs, ?_⟩
    rw [Number.text, Number.integerText]
    split
    · exact .inr rfl
    · exact .inl rfl
  | real x =>
    have hsign : ∀ t, (if x.negative = true then ['-'] else []) ++ t = t ∨
        (if x.negative = true then ['-'] else []) ++ t = '-' :: t := by
      intro t
      split
      · exact .inr rfl
      · exact .inl rfl
    rw [Number.text, Number.realText]
    dsimp only
    split
    · refine ⟨['0', '.', '0'], ?_, hsign _⟩
      have hzero : ∀ c ∈ ['0'], isDigit c = true := List.forall_mem_singleton.mpr rfl
      exact .point (List.cons_ne_nil _ _) hzero hzero .none
    · refine ⟨_, ?_, hsign _⟩
      have hne : Nat.toDigits 10 (Decimal.shortest x).digits ≠ [] := Nat.toDigits_ne_nil
      have hdigits : ∀ c ∈ Nat.toDigits 10 (Decimal.shortest x).digits, isDigit c = true :=
        fun c hc => isDigit_of_mem_toDigits hc
      split
      · exact numeral_positional hne hdigits
      · exact numeral_scientific hne hdigits

theorem head_text (n : Number) : ∃ c cs, n.text = c :: cs ∧ (c = '-' ∨ isDigit c = true) := by
  obtain ⟨t, ht, htext | htext⟩ := numeral_text n
  · obtain ⟨c, cs, rfl, hc⟩ := ht.head
    exact ⟨c, cs, htext, .inr hc⟩
  · exact ⟨'-', t, htext, .inl rfl⟩

/-- What stands behind a number has no part in it. -/
theorem numberAt_text (n : Number) (hrest : Delimited rest) :
    numberAt (n.text ++ rest) = leaving rest (numberAt n.text) := by
  obtain ⟨t, ht, htext | htext⟩ := numeral_text n
  · obtain ⟨c, cs, rfl, hc⟩ := ht.head
    rw [htext, numberAt_digit cs hc, List.cons_append, numberAt_digit _ hc, ← List.cons_append,
      unsigned_append ht hrest]
  · rw [htext, List.cons_append, numberAt, numberAt, unsigned_append ht hrest]

/-! ## Strings -/

theorem unit?_control : ∀ n < 0x20,
    unit? '0' '0' (Hex.digit (n / 16)) (Hex.digit (n % 16)) = some n := by
  decide

theorem stringAfter_control {c : Char} (done rest : List Char) (h : c.toNat < 0x20) :
    stringAfter done ('\\' :: 'u' :: '0' :: '0' :: Hex.digit (c.toNat / 16) ::
      Hex.digit (c.toNat % 16) :: rest) = stringAfter (c :: done) rest := by
  have hleading : isLeading c.toNat = false := by
    simp [isLeading]
    omega
  have htrailing : isTrailing c.toNat = false := by
    simp [isTrailing]
    omega
  rw [stringAfter]
  simp [unit?_control c.toNat h, hleading, htrailing, Char.ofNat_toNat]

theorem stringAfter_plain {c : Char} (done rest : List Char) (hquote : c ≠ '"')
    (hslash : c ≠ '\\') (h : ¬ c.toNat < 0x20) :
    stringAfter done (c :: rest) = stringAfter (c :: done) rest := by
  rw [stringAfter.eq_def]
  split
  · next hcs => cases hcs
  · next hcs =>
    cases hcs
    exact absurd rfl hquote
  · next hcs =>
    cases hcs
    exact absurd rfl hslash
  · next hcs =>
    cases hcs
    exact absurd rfl hslash
  · next hcs =>
    cases hcs
    simp [h, hslash]

theorem stringAfter_escape (c : Char) (done rest : List Char) :
    stringAfter done (escape c ++ rest) = stringAfter (c :: done) rest := by
  unfold escape
  split_ifs with hquote hslash hb hf hn hr ht hcontrol
  · subst hquote; rfl
  · subst hslash; rfl
  · subst hb; rfl
  · subst hf; rfl
  · subst hn; rfl
  · subst hr; rfl
  · subst ht; rfl
  · exact stringAfter_control done rest hcontrol
  · exact stringAfter_plain done rest hquote hslash hcontrol

theorem stringAfter_escaped (cs done rest : List Char) :
    stringAfter done (cs.flatMap escape ++ '"' :: rest) =
      some (String.ofList (done.reverse ++ cs), rest) := by
  induction cs generalizing done with
  | nil => simp [stringAfter]
  | cons c cs ih =>
    rw [List.flatMap_cons, List.append_assoc, stringAfter_escape, ih]
    simp

theorem quoted_append (s : String) (rest : List Char) :
    quoted s ++ rest = '"' :: (s.toList.flatMap escape ++ '"' :: rest) := by
  simp [quoted]

theorem stringAfter_quoted (s : String) (rest : List Char) :
    stringAfter [] (s.toList.flatMap escape ++ '"' :: rest) = some (s, rest) := by
  rw [stringAfter_escaped]
  simp

end Lemmata.Json.Reader
