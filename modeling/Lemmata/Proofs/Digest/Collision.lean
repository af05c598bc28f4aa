import Lemmata.Plan.Basic
import Lemmata.Proofs.Json.Canonical

/-! # Digests tell values apart unless they collide -/

namespace Lemmata

/-! ## The texts around a digest lose nothing -/

theorem Hex.digit_inj {m n : Nat} (hm : m < 16) (hn : n < 16) (h : digit m = digit n) : m = n := by
  have hall : ∀ m n : Fin 16, digit m = digit n → m = n := by decide
  exact congrArg Fin.val (hall ⟨m, hm⟩ ⟨n, hn⟩ h)

theorem Hex.encode_inj {as bs : List UInt8} (h : encode as = encode bs) : as = bs := by
  replace h := String.ofList_inj.mp h
  induction as generalizing bs with
  | nil =>
    cases bs with
    | nil => rfl
    | cons b bs => cases h
  | cons a as ih =>
    cases bs with
    | nil => cases h
    | cons b bs =>
      obtain ⟨hhigh, hlow, hrest⟩ : digit (a.toNat / 16) = digit (b.toNat / 16) ∧
          digit (a.toNat % 16) = digit (b.toNat % 16) ∧ _ = _ := by simpa using h
      have ha := a.toNat_lt
      have hb := b.toNat_lt
      have hdiv := digit_inj (by omega) (by omega) hhigh
      have hmod := digit_inj (by omega) (by omega) hlow
      have hbyte : a = b := UInt8.toNat_inj.mp (by omega)
      rw [hbyte, ih hrest]

theorem Utf8.encode_inj {s t : String} (h : encode s = encode t) : s = t := by
  have hbytes : s.toList.utf8Encode = t.toList.utf8Encode := congrArg List.toByteArray h
  rw [String.utf8Encode_toList, String.utf8Encode_toList] at hbytes
  exact String.toByteArray_inj.mp hbytes

/-! ## Digests -/

namespace Json

variable {v w : Json}

/-- The digests of the two canonical texts do not collide. -/
def NoCollision (v w : Json) : Prop :=
  Sha256.digest (Utf8.encode v.canonical) = Sha256.digest (Utf8.encode w.canonical) →
    Utf8.encode v.canonical = Utf8.encode w.canonical

theorem encode_canonical (h : v.sorted = w) :
    Utf8.encode v.canonical = w.chars.flatMap String.utf8EncodeChar := by
  rw [canonical, h, text, Utf8.encode, String.toList_ofList]

/-- For values whose sorted forms are written out, the two digests are a matter of computing. -/
theorem NoCollision.of_sorted {v' w' : Json} (hv : v.sorted = v') (hw : w.sorted = w')
    (h : Sha256.digest (v'.chars.flatMap String.utf8EncodeChar) ≠
      Sha256.digest (w'.chars.flatMap String.utf8EncodeChar)) : NoCollision v w := by
  intro hdigest
  rw [encode_canonical hv, encode_canonical hw] at hdigest
  exact absurd hdigest h

theorem NoCollision.of_canonical_eq (h : v.canonical = w.canonical) : NoCollision v w :=
  fun _ => congrArg Utf8.encode h

theorem NoCollision.digest_eq_iff (h : NoCollision v w) :
    v.digest = w.digest ↔ v.canonical = w.canonical := by
  constructor
  · intro hdigest
    exact Utf8.encode_inj (h (Hex.encode_inj hdigest))
  · intro hcanonical
    rw [digest, digest, hcanonical]

end Json

end Lemmata
