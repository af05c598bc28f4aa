import Lemmata.Text.Utf8

/-! # Texts in order are in order as bytes -/

namespace Lemmata.Utf8

/-! ## Single bytes -/

theorem ofNat_lt_ofNat {m n : Nat} (hm : m < 256) (hn : n < 256) :
    UInt8.ofNat m < UInt8.ofNat n ↔ m < n := by
  rw [UInt8.lt_iff_toNat_lt, UInt8.toNat_ofNat', UInt8.toNat_ofNat', Nat.mod_eq_of_lt hm,
    Nat.mod_eq_of_lt hn]

theorem ofNat_eq_ofNat {m n : Nat} (hm : m < 256) (hn : n < 256) :
    UInt8.ofNat m = UInt8.ofNat n ↔ m = n := by
  rw [← UInt8.toNat_inj, UInt8.toNat_ofNat', UInt8.toNat_ofNat', Nat.mod_eq_of_lt hm,
    Nat.mod_eq_of_lt hn]

/-! ## Characters -/

/-- One to four bytes, with six bits in each but the first. -/
theorem utf8EncodeChar_cases (c : Char) :
    (c.toNat < 0x80 ∧ String.utf8EncodeChar c = [.ofNat c.toNat]) ∨
    (0x80 ≤ c.toNat ∧ c.toNat < 0x800 ∧ String.utf8EncodeChar c =
      [.ofNat (c.toNat / 64 + 192), .ofNat (c.toNat % 64 + 128)]) ∨
    (0x800 ≤ c.toNat ∧ c.toNat < 0x10000 ∧ String.utf8EncodeChar c =
      [.ofNat (c.toNat / 4096 + 224), .ofNat (c.toNat / 64 % 64 + 128),
        .ofNat (c.toNat % 64 + 128)]) ∨
    (0x10000 ≤ c.toNat ∧ c.toNat < 0x110000 ∧ String.utf8EncodeChar c =
      [.ofNat (c.toNat / 262144 + 240), .ofNat (c.toNat / 4096 % 64 + 128),
        .ofNat (c.toNat / 64 % 64 + 128), .ofNat (c.toNat % 64 + 128)]) := by
  have hlimit : c.val.toNat < 0x110000 := by
    rcases c.valid with h | h <;> omega
  simp only [String.utf8EncodeChar, Char.toNat]
  generalize c.val.toNat = n at hlimit
  split
  · exact .inl ⟨by omega, rfl⟩
  · split
    · exact .inr (.inl ⟨by omega, by omega, by rw [Nat.mod_eq_of_lt (by omega : n / 64 < 32)]⟩)
    · split
      · exact .inr (.inr (.inl ⟨by omega, by omega,
          by rw [Nat.mod_eq_of_lt (by omega : n / 4096 < 16)]⟩))
      · exact .inr (.inr (.inr ⟨by omega, by omega,
          by rw [Nat.mod_eq_of_lt (by omega : n / 262144 < 8)]⟩))

theorem nil_lt_append (c : Char) (bs : List UInt8) : [] < String.utf8EncodeChar c ++ bs := by
  rcases utf8EncodeChar_cases c with ⟨-, h⟩ | ⟨-, -, h⟩ | ⟨-, -, h⟩ | ⟨-, -, h⟩ <;>
    rw [h] <;>
    exact List.nil_lt_cons _ _

theorem append_lt_append {c d : Char} (h : c < d) (as bs : List UInt8) :
    String.utf8EncodeChar c ++ as < String.utf8EncodeChar d ++ bs := by
  have hlt : c.toNat < d.toNat := UInt32.lt_iff_toNat_lt.mp h
  have hc := utf8EncodeChar_cases c
  have hd := utf8EncodeChar_cases d
  generalize c.toNat = m at *
  generalize d.toNat = n at *
  -- Of two lengths the shorter one has the lesser lead byte; of one length omega finds the byte.
  rcases hc with ⟨hm, hc⟩ | ⟨hm, hm', hc⟩ | ⟨hm, hm', hc⟩ | ⟨hm, hm', hc⟩ <;>
    rcases hd with ⟨hn, hd⟩ | ⟨hn, hn', hd⟩ | ⟨hn, hn', hd⟩ | ⟨hn, hn', hd⟩ <;>
    first
    | omega
    | rw [hc, hd]
      simp only [List.cons_append, List.nil_append, List.cons_lt_cons_iff]
      simp (disch := omega) only [ofNat_lt_ofNat, ofNat_eq_ofNat]
      omega

/-! ## Texts -/

theorem flatMap_lt_flatMap {cs ds : List Char} (h : cs < ds) :
    cs.flatMap String.utf8EncodeChar < ds.flatMap String.utf8EncodeChar := by
  induction h with
  | nil => exact nil_lt_append _ _
  | rel hlt => exact append_lt_append hlt _ _
  | cons _ ih => exact List.append_left_lt ih

theorem encode_lt_iff {s t : String} : encode s < encode t ↔ s < t := by
  have hmono : ∀ {s t : String}, s < t → encode s < encode t := fun h =>
    flatMap_lt_flatMap (String.lt_iff.mp h)
  refine ⟨fun h => Decidable.byContradiction fun hge => ?_, hmono⟩
  rcases Std.le_iff_lt_or_eq.mp (String.not_lt.mp hge) with hlt | rfl
  · exact List.lt_asymm h (hmono hlt)
  · exact List.lt_irrefl _ h

end Lemmata.Utf8
