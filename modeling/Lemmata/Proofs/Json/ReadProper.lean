import Lemmata.Proofs.Decimal.Rounding
import Lemmata.Proofs.Json.Intact
import Lemmata.Proofs.Json.Unambiguous

/-! # Whatever is read is proper, with its members in order -/

namespace Lemmata.Json

/-- A proper value that sorting leaves as it is. -/
structure Regular (v : Json) : Prop where
  proper : v.Proper
  sorted_eq : v.sorted = v

theorem Regular.array {vs : List Json} (h : ∀ v ∈ vs, v.Regular) : (Json.array vs).Regular where
  proper := .array fun v hv => (h v hv).proper
  sorted_eq := by
    have hitems : vs.map sorted = vs.map id := List.map_congr_left fun v hv => (h v hv).sorted_eq
    rw [sorted_array, hitems, List.map_id]

theorem Regular.object {ms : List (String × Json)} (hascending : ms.Pairwise fun m n => m.1 < n.1)
    (h : ∀ m ∈ ms, m.2.Regular) : (Json.object ms).Regular where
  proper :=
    .object (List.pairwise_map.mpr (hascending.imp String.ne_of_lt)) fun m hm => (h m hm).proper
  sorted_eq := by
    have hmembers : sortedMembers ms = ms.map id := by
      rw [sortedMembers_eq_map]
      exact List.map_congr_left fun m hm => Prod.ext rfl (h m hm).sorted_eq
    rw [List.map_id] at hmembers
    exact sorted_object_of_perm (.of_eq hmembers) (List.pairwise_map.mpr hascending)

namespace Reader

variable {negative : Bool} {significand fuel room : Nat} {exponent : Int} {x y : Binary64}
variable {n : Number} {v : Json} {cs rest : List Char}

/-! ## Numbers -/

theorem isNormal_scaleDown (hx : x.IsNormal) (h : scaleDown fuel x exponent = some y) :
    y.IsNormal := by
  induction fuel generalizing x exponent with
  | zero =>
    cases h
    exact hx
  | succ fuel ih =>
    rw [scaleDown] at h
    split at h
    · cases h
      exact hx
    · split at h <;> simp only [Option.bind_eq_bind, Option.bind_eq_some_iff] at h
      · obtain ⟨power, hpower, z, hz, h⟩ := h
        exact ih (Binary64.isNormal_div? (Binary64.powerOfTen?_ne_zero hpower) hz) h
      · obtain ⟨power, hpower, h⟩ := h
        exact Binary64.isNormal_div? (Binary64.powerOfTen?_ne_zero hpower) h

theorem isNormal_signed (negative : Bool) (h : x.IsNormal) :
    (Number.real (if negative = true then x.neg else x)).IsNormal := by
  cases negative
  · exact h
  · exact h.neg

theorem isNormal_realOfParts (h : realOfParts negative significand exponent = some n) :
    n.IsNormal := by
  simp only [realOfParts, Option.bind_eq_bind, Option.bind_eq_some_iff] at h
  obtain ⟨x, hx, h⟩ := h
  have hnormal := Binary64.isNormal_ofNat? hx
  split at h
  · obtain ⟨scaled, hscaled, hn⟩ := Option.bind_eq_some_iff.mp h
    cases hn
    exact isNormal_signed negative (isNormal_scaleDown hnormal hscaled)
  · split at h
    · simp only [Option.bind_eq_some_iff] at h
      obtain ⟨power, -, scaled, hscaled, hn⟩ := h
      cases hn
      exact isNormal_signed negative (Binary64.isNormal_mul? hscaled)
    · split at h <;> cases h
      exact isNormal_signed negative hnormal

theorem isNormal_withExponent
    (h : withExponent negative significand exponent cs = some (n, rest)) : n.IsNormal := by
  unfold withExponent at h
  split at h <;> simp only [Option.bind_eq_bind, Option.bind_eq_some_iff] at h
  · obtain ⟨_, -, m, hm, hn⟩ := h
    cases hn
    exact isNormal_realOfParts hm
  · obtain ⟨_, -, m, hm, hn⟩ := h
    cases hn
    exact isNormal_realOfParts hm
  · obtain ⟨m, hm, hn⟩ := h
    cases hn
    exact isNormal_realOfParts hm

theorem isNormal_withFraction
    (h : withFraction negative significand exponent cs = some (n, rest)) : n.IsNormal := by
  simp only [withFraction] at h
  split at h
  · cases h
  · exact isNormal_withExponent h

theorem isNormal_integerNumber (h : integerNumber negative significand = some n) : n.IsNormal := by
  unfold integerNumber at h
  split_ifs at h
  · cases h
    trivial
  · exact isNormal_realOfParts h
  · cases h
    trivial

theorem isNormal_unsigned (h : unsigned negative cs = some (n, rest)) : n.IsNormal := by
  simp only [unsigned] at h
  split at h
  · cases h
  · split at h
    · exact isNormal_withFraction h
    · exact isNormal_withExponent h
    · exact isNormal_withExponent h
    · split at h <;> simp only [Option.bind_eq_bind, Option.bind_eq_some_iff] at h
      · obtain ⟨m, hm, hn⟩ := h
        cases hn
        exact isNormal_integerNumber hm
      · obtain ⟨m, hm, hn⟩ := h
        cases hn
        exact isNormal_realOfParts hm

theorem isNormal_numberAt (h : numberAt cs = some (n, rest)) : n.IsNormal := by
  unfold numberAt at h
  split at h
  · exact isNormal_unsigned h
  · exact isNormal_unsigned h

/-! ## Values -/

structure RegularMembers (ms : List (String × Json)) : Prop where
  ascending : ms.Pairwise fun m n => m.1 < n.1
  values : ∀ m ∈ ms, m.2.Regular

theorem RegularMembers.insertMember {ms : List (String × Json)} (h : RegularMembers ms)
    (key : String) (hv : v.Regular) : RegularMembers (insertMember key v ms) where
  ascending := pairwise_insertMember h.ascending
  values := by
    intro m hm
    rcases mem_insertMember hm with rfl | hm
    · exact hv
    · exact h.values m hm

/-- By induction on the fuel, for values, items and members at once. -/
theorem regular_read (fuel : Nat) :
    (∀ room cs v rest, value fuel room cs = some (v, rest) → v.Regular) ∧
    (∀ room done cs v rest, (∀ w ∈ done, Json.Regular w) → items fuel room done cs = some (v, rest) →
      v.Regular) ∧
    (∀ room done cs v rest, RegularMembers done → members fuel room done cs = some (v, rest) →
      v.Regular) := by
  induction fuel with
  | zero =>
    refine ⟨fun _ _ _ _ h => ?_, fun _ _ _ _ _ _ h => ?_, fun _ _ _ _ _ _ h => ?_⟩ <;> cases h
  | succ fuel ih =>
    obtain ⟨ihvalue, ihitems, ihmembers⟩ := ih
    refine ⟨fun room cs v rest h => ?_, fun room done cs v rest hdone h => ?_,
      fun room done cs v rest hdone h => ?_⟩
    · rw [value] at h
      split at h
      · cases h
        exact ⟨.null, rfl⟩
      · cases h
        exact ⟨.bool true, rfl⟩
      · cases h
        exact ⟨.bool false, rfl⟩
      · obtain ⟨read, -, hv⟩ := Option.map_eq_some_iff.mp h
        cases hv
        exact ⟨.string _, rfl⟩
      · split at h
        · cases h
        · split at h
          · cases h
            exact .array (List.forall_mem_nil _)
          · exact ihitems _ _ _ _ _ (List.forall_mem_nil _) h
      · split at h
        · cases h
        · split at h
          · cases h
            exact .object .nil (List.forall_mem_nil _)
          · exact ihmembers _ _ _ _ _ ⟨.nil, List.forall_mem_nil _⟩ h
      · obtain ⟨⟨n, _⟩, hn, hv⟩ := Option.map_eq_some_iff.mp h
        cases hv
        exact ⟨.number (isNormal_numberAt hn), rfl⟩
    · rw [items] at h
      split at h
      · cases h
      · next w _ hw =>
        have hall : ∀ u ∈ w :: done, u.Regular :=
          List.forall_mem_cons.mpr ⟨ihvalue _ _ _ _ hw, hdone⟩
        split at h
        · exact ihitems _ _ _ _ _ hall h
        · cases h
          exact .array fun u hu => hall u (List.mem_reverse.mp hu)
        · cases h
    · rw [members] at h
      split at h
      · split at h
        · cases h
        · split at h
          · split at h
            · cases h
            · next key _ _ _ _ _ _ w _ hw =>
              have hall := hdone.insertMember key (ihvalue _ _ _ _ hw)
              split at h
              · exact ihmembers _ _ _ _ _ hall h
              · cases h
                exact .object hall.ascending hall.values
              · cases h
          · cases h
      · cases h

end Reader

variable {text text' : String} {w : Json}

/-- Whatever is read is a value as it can be, with the members of its objects in order. -/
theorem regular_of_parse? (h : parse? text = some v) : v.Regular := by
  unfold parse? Reader.parseChars? at h
  split at h
  · next hvalue =>
    split at h
    · cases h
      exact (Reader.regular_read _).1 _ _ _ _ hvalue
    · cases h
  · cases h

theorem canonical_of_parse? (h : parse? text = some v) : v.canonical = v.text := by
  rw [canonical, (regular_of_parse? h).sorted_eq]

/-- Of values that were read, only equal ones have the same canonical text: their members are in
order already. -/
theorem canonical_eq_iff_of_parse? (hv : parse? text = some v) (hw : parse? text' = some w) :
    v.canonical = w.canonical ↔ v = w := by
  have hv := regular_of_parse? hv
  have hw := regular_of_parse? hw
  rw [canonical_eq_iff_sorted_eq hv.proper hw.proper, hv.sorted_eq, hw.sorted_eq]

end Lemmata.Json
