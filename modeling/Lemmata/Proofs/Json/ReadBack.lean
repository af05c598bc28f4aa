import Lemmata.Proofs.Json.Literals
import Mathlib.Tactic.Tauto

/-! # What a reader makes of a written value -/

namespace Lemmata.Json

/-! ## Values as they are read -/

/-- The number as a reader gives it: one that is not an integer may be rounded. -/
def Number.reread (n : Number) : Number :=
  match Reader.numberAt n.text with
  | some (m, _) => m
  | none => n

mutual
/-- Every number can be read. -/
def isLegible : Json → Bool
  | .number n => (Reader.numberAt n.text).isSome
  | .array items => areLegible items
  | .object members => haveLegible members
  | _ => true

def areLegible : List Json → Bool
  | [] => true
  | v :: rest => isLegible v && areLegible rest

def haveLegible : List (String × Json) → Bool
  | [] => true
  | (_, v) :: rest => isLegible v && haveLegible rest
end

mutual
/-- The value as a reader gives it: the members of each object by key, the last value of a key. -/
def reread : Json → Json
  | .number n => .number n.reread
  | .array items => .array (rereadItems items)
  | .object members => .object (rereadMembers [] members)
  | v => v

def rereadItems : List Json → List Json
  | [] => []
  | v :: rest => reread v :: rereadItems rest

def rereadMembers (done : List (String × Json)) : List (String × Json) → List (String × Json)
  | [] => done
  | (key, v) :: rest => rereadMembers (insertMember key (reread v) done) rest
end

/-! ### Values without a rounded number -/

mutual
/-- No number is rounded when it is written and read. -/
def isExact : Json → Bool
  | .number (.integer n) => decide (Number.leastInteger ≤ n ∧ n ≤ Number.greatestInteger)
  | .number (.real _) => false
  | .array items => areExact items
  | .object members => haveExact members
  | _ => true

def areExact : List Json → Bool
  | [] => true
  | v :: rest => isExact v && areExact rest

def haveExact : List (String × Json) → Bool
  | [] => true
  | (_, v) :: rest => isExact v && haveExact rest
end

mutual
/-- The value with the members of each object by key, the last value of a key. -/
def tidy : Json → Json
  | .array items => .array (tidyItems items)
  | .object members => .object (tidyMembers [] members)
  | v => v

def tidyItems : List Json → List Json
  | [] => []
  | v :: rest => tidy v :: tidyItems rest

def tidyMembers (done : List (String × Json)) : List (String × Json) → List (String × Json)
  | [] => done
  | (key, v) :: rest => tidyMembers (insertMember key (tidy v) done) rest
end

/-! ### The two agree where nothing is rounded -/

theorem numberAt_of_isExact {n : Number} (h : (Json.number n).isExact = true) :
    Reader.numberAt n.text = some (n, []) := by
  cases n with
  | real x => cases h
  | integer n =>
    obtain ⟨hle, hge⟩ : Number.leastInteger ≤ n ∧ n ≤ Number.greatestInteger := by
      simpa [isExact] using h
    have hread := Reader.numberAt_integerText hle hge .nil
    rwa [List.append_nil] at hread

mutual
theorem isLegible_of_isExact : ∀ v : Json, v.isExact = true → v.isLegible = true
  | .null, _ | .bool _, _ | .string _, _ => rfl
  | .number n, h => by rw [isLegible, numberAt_of_isExact h, Option.isSome_some]
  | .array vs, h => areLegible_of_areExact vs h
  | .object ms, h => haveLegible_of_haveExact ms h

theorem areLegible_of_areExact : ∀ vs : List Json, areExact vs = true → areLegible vs = true
  | [], _ => rfl
  | v :: vs, h => by
    obtain ⟨hv, hvs⟩ : v.isExact = true ∧ areExact vs = true := by simpa [areExact] using h
    rw [areLegible, isLegible_of_isExact v hv, areLegible_of_areExact vs hvs, Bool.and_self]

theorem haveLegible_of_haveExact :
    ∀ ms : List (String × Json), haveExact ms = true → haveLegible ms = true
  | [], _ => rfl
  | (_, v) :: ms, h => by
    obtain ⟨hv, hms⟩ : v.isExact = true ∧ haveExact ms = true := by simpa [haveExact] using h
    rw [haveLegible, isLegible_of_isExact v hv, haveLegible_of_haveExact ms hms, Bool.and_self]
end

mutual
theorem reread_eq_tidy : ∀ v : Json, v.isExact = true → v.reread = v.tidy
  | .null, _ | .bool _, _ | .string _, _ => rfl
  | .number n, h => by
    rw [reread, Number.reread, numberAt_of_isExact h]
    rfl
  | .array vs, h => congrArg Json.array (rereadItems_eq_tidyItems vs h)
  | .object ms, h => congrArg Json.object (rereadMembers_eq_tidyMembers ms [] h)

theorem rereadItems_eq_tidyItems :
    ∀ vs : List Json, areExact vs = true → rereadItems vs = tidyItems vs
  | [], _ => rfl
  | v :: vs, h => by
    obtain ⟨hv, hvs⟩ : v.isExact = true ∧ areExact vs = true := by simpa [areExact] using h
    rw [rereadItems, tidyItems, reread_eq_tidy v hv, rereadItems_eq_tidyItems vs hvs]

theorem rereadMembers_eq_tidyMembers : ∀ (ms done : List (String × Json)), haveExact ms = true →
    rereadMembers done ms = tidyMembers done ms
  | [], _, _ => rfl
  | (_, v) :: ms, done, h => by
    obtain ⟨hv, hms⟩ : v.isExact = true ∧ haveExact ms = true := by simpa [haveExact] using h
    rw [rereadMembers, tidyMembers, reread_eq_tidy v hv, rereadMembers_eq_tidyMembers ms _ hms]
end

namespace Reader

/-! ## How texts begin -/

theorem skipBlank_cons {c : Char} {cs : List Char} (h : isBlank c = false) :
    skipBlank (c :: cs) = c :: cs := by
  simp [skipBlank, h]

theorem delimited_charsItems (vs : List Json) (rest : List Char) :
    Delimited (charsItems vs ++ rest) := by
  cases vs with
  | nil => exact .bracket _
  | cons v vs => exact .comma _

theorem delimited_charsMembers (ms : List (String × Json)) (rest : List Char) :
    Delimited (charsMembers ms ++ rest) := by
  cases ms with
  | nil => exact .brace _
  | cons m ms => exact .comma _

theorem digit_cases {c : Char} (h : isDigit c = true) : c = '0' ∨ c = '1' ∨ c = '2' ∨ c = '3' ∨
    c = '4' ∨ c = '5' ∨ c = '6' ∨ c = '7' ∨ c = '8' ∨ c = '9' := by
  simp only [isDigit, Bool.and_eq_true, decide_eq_true_eq, Char.le_def, UInt32.le_iff_toNat_le] at h
  have hall : ∀ k, 48 ≤ k ∧ k ≤ 57 → c.toNat = k → c = Char.ofNat k := by
    intro k _ hk
    rw [← hk, Char.ofNat_toNat]
  obtain ⟨hlow, hhigh⟩ := h
  change 48 ≤ c.toNat at hlow
  change c.toNat ≤ 57 at hhigh
  have hk : c.toNat = 48 ∨ c.toNat = 49 ∨ c.toNat = 50 ∨ c.toNat = 51 ∨ c.toNat = 52 ∨
      c.toNat = 53 ∨ c.toNat = 54 ∨ c.toNat = 55 ∨ c.toNat = 56 ∨ c.toNat = 57 := by omega
  rcases hk with h | h | h | h | h | h | h | h | h | h <;>
    simp [hall _ (by decide) h]

theorem value_number {c : Char} (fuel room : Nat) (cs : List Char)
    (h : c = '-' ∨ isDigit c = true) :
    value (fuel + 1) room (c :: cs) =
      (numberAt (c :: cs)).map fun (n, rest) => (.number n, rest) := by
  rcases h with rfl | h
  · rfl
  · rcases digit_cases h with rfl | rfl | rfl | rfl | rfl | rfl | rfl | rfl | rfl | rfl <;> rfl

theorem head_chars (v : Json) : ∃ c cs, v.chars = c :: cs ∧ isBlank c = false ∧ c ≠ ']' := by
  cases v with
  | null => exact ⟨_, _, rfl, by decide, by decide⟩
  | bool b => cases b <;> exact ⟨_, _, rfl, by decide, by decide⟩
  | string s => exact ⟨_, _, rfl, by decide, by decide⟩
  | array vs => cases vs <;> exact ⟨_, _, rfl, by decide, by decide⟩
  | object ms => rcases ms with _ | ⟨⟨key, v⟩, ms⟩ <;> exact ⟨_, _, rfl, by decide, by decide⟩
  | number n =>
    obtain ⟨c, cs, htext, hc⟩ := head_text n
    refine ⟨c, cs, htext, ?_⟩
    rcases hc with rfl | hc
    · decide
    · rcases digit_cases hc with rfl | rfl | rfl | rfl | rfl | rfl | rfl | rfl | rfl | rfl <;>
        decide

/-! ## Reading what was written -/

theorem value_array {fuel room : Nat} {c : Char} {cs : List Char} (hblank : isBlank c = false)
    (hclose : c ≠ ']') :
    value (fuel + 1) (room + 1) ('[' :: c :: cs) = items fuel room [] (c :: cs) := by
  rw [value, skipBlank_cons (by decide : isBlank '[' = false)]
  simp only [skipBlank_cons hblank]
  split
  · next h =>
    cases h
    exact absurd rfl hclose
  · rfl

theorem items_succ {fuel room : Nat} {done : List Json} {cs rest : List Char} {v : Json}
    (h : value fuel room cs = some (v, rest)) :
    items (fuel + 1) room done cs =
      match skipBlank rest with
      | ',' :: rest => items fuel room (v :: done) rest
      | ']' :: rest => some (.array (v :: done).reverse, rest)
      | _ => none := by
  rw [items]
  generalize value fuel room cs = found at h ⊢
  subst h
  rfl

theorem items_none {fuel room : Nat} {done : List Json} {cs : List Char}
    (h : value fuel room cs = none) : items (fuel + 1) room done cs = none := by
  rw [items]
  generalize value fuel room cs = found at h ⊢
  subst h
  rfl

theorem members_eq {fuel room : Nat} {done : List (String × Json)} {key : String}
    {cs : List Char} : members (fuel + 1) room done (quoted key ++ ':' :: cs) =
      match value fuel room cs with
      | none => none
      | some (v, rest) =>
        match skipBlank rest with
        | ',' :: rest => members fuel room (insertMember key v done) rest
        | '\x7d' :: rest => some (.object (insertMember key v done), rest)
        | _ => none := by
  have hcolon : skipBlank (':' :: cs) = ':' :: cs := skipBlank_cons (by decide)
  rw [quoted_append, members, skipBlank_cons (by decide)]
  simp only [stringAfter_quoted]
  rw [hcolon]
  rfl

theorem members_succ {fuel room : Nat} {done : List (String × Json)} {key : String}
    {cs rest : List Char} {v : Json} (h : value fuel room cs = some (v, rest)) :
    members (fuel + 1) room done (quoted key ++ ':' :: cs) =
      match skipBlank rest with
      | ',' :: rest => members fuel room (insertMember key v done) rest
      | '\x7d' :: rest => some (.object (insertMember key v done), rest)
      | _ => none := by
  rw [members_eq, h]

theorem members_none {fuel room : Nat} {done : List (String × Json)} {key : String}
    {cs : List Char} (h : value fuel room cs = none) :
    members (fuel + 1) room done (quoted key ++ ':' :: cs) = none := by
  rw [members_eq, h]

theorem tail_charsItems (v : Json) (vs : List Json) :
    (charsItems (v :: vs)).tail = v.chars ++ charsItems vs := rfl

theorem tail_charsMembers (key : String) (v : Json) (ms : List (String × Json)) :
    (charsMembers ((key, v) :: ms)).tail = quoted key ++ ':' :: (v.chars ++ charsMembers ms) := by
  simp [charsMembers]

theorem length_charsItems_pos (vs : List Json) : 0 < (charsItems vs).length := by
  cases vs <;> simp [charsItems]

theorem length_charsMembers_pos (ms : List (String × Json)) : 0 < (charsMembers ms).length := by
  cases ms <;> simp [charsMembers]

mutual
/-- A value is read exactly if it is not too deep and its numbers can be read. -/
theorem value_chars : ∀ (v : Json) (fuel room : Nat) (rest : List Char),
    2 * v.chars.length ≤ fuel → Delimited rest → value fuel room (v.chars ++ rest) =
      if v.depth ≤ room ∧ v.isLegible = true then some (v.reread, rest) else none
  | v, 0, room, rest, hfuel, _ => by
    obtain ⟨c, cs, hchars, -⟩ := head_chars v
    simp [hchars] at hfuel
  | .null, fuel + 1, room, rest, _, _ => (if_pos ⟨Nat.zero_le _, rfl⟩).symm
  | .bool true, fuel + 1, room, rest, _, _ => (if_pos ⟨Nat.zero_le _, rfl⟩).symm
  | .bool false, fuel + 1, room, rest, _, _ => (if_pos ⟨Nat.zero_le _, rfl⟩).symm
  | .number n, fuel + 1, room, rest, _, hrest => by
    obtain ⟨c, cs, htext, hc⟩ := head_text n
    have hread := numberAt_text n hrest
    have hvalue : value (fuel + 1) room (n.text ++ rest) =
        (numberAt (n.text ++ rest)).map fun (n, rest) => (.number n, rest) := by
      rw [htext, List.cons_append, value_number fuel room _ hc]
    change value (fuel + 1) room (n.text ++ rest) = _
    rw [hvalue, hread]
    cases hnumber : numberAt n.text with
    | none => simp [isLegible, hnumber, leaving]
    | some found => simp [depth, isLegible, reread, Number.reread, hnumber, leaving]
  | .string s, fuel + 1, room, rest, _, _ => by
    have hstart : value (fuel + 1) room ((Json.string s).chars ++ rest) =
        (stringAfter [] (s.toList.flatMap escape ++ '"' :: rest)).map
          fun (s, rest) => (.string s, rest) := by
      simp only [chars, quoted, List.cons_append, List.append_assoc, List.nil_append]
      rfl
    rw [hstart, stringAfter_quoted]
    exact (if_pos ⟨Nat.zero_le _, rfl⟩).symm
  | .array vs, fuel + 1, 0, rest, _, _ => by
    rw [if_neg fun h => Nat.not_succ_le_zero _ h.1]
    cases vs <;> rfl
  | .array [], fuel + 1, room + 1, rest, _, _ =>
    (if_pos ⟨Nat.succ_le_succ (Nat.zero_le _), rfl⟩).symm
  | .array (v :: vs), fuel + 1, room + 1, rest, hfuel, _ => by
    obtain ⟨c, cs, hchars, hblank, hclose⟩ := head_chars v
    have hread := items_chars (v :: vs) fuel room [] rest (by simp)
      (by simp only [chars, charsItems, List.length_cons, List.length_append] at hfuel ⊢; omega)
    simp only [chars, charsItems, List.tail_cons, List.cons_append, List.append_assoc] at hread ⊢
    rw [hchars, List.cons_append] at hread ⊢
    rw [value_array hblank hclose, hread]
    simp only [depth, isLegible, Nat.add_le_add_iff_right]
    rfl
  | .object ms, fuel + 1, 0, rest, _, _ => by
    rw [if_neg fun h => Nat.not_succ_le_zero _ h.1]
    rcases ms with _ | ⟨⟨key, v⟩, ms⟩ <;> rfl
  | .object [], fuel + 1, room + 1, rest, _, _ =>
    (if_pos ⟨Nat.succ_le_succ (Nat.zero_le _), rfl⟩).symm
  | .object ((key, v) :: ms), fuel + 1, room + 1, rest, hfuel, _ => by
    have hread := members_chars ((key, v) :: ms) fuel room [] rest (by simp)
      (by simp only [chars, charsMembers, List.length_cons, List.length_append] at hfuel ⊢; omega)
    have hstart : ∀ cs, value (fuel + 1) (room + 1) ('\x7b' :: (quoted key ++ cs)) =
        members fuel room [] (quoted key ++ cs) := fun _ => rfl
    simp only [chars, charsMembers, List.tail_cons, List.cons_append, List.append_assoc] at hread ⊢
    rw [hstart, hread]
    simp only [depth, isLegible, Nat.add_le_add_iff_right]
    rfl

theorem items_chars : ∀ (vs : List Json) (fuel room : Nat) (done : List Json) (rest : List Char),
    vs ≠ [] → 2 * (charsItems vs).length ≤ fuel + 2 →
    items fuel room done ((charsItems vs).tail ++ rest) =
      if depthItems vs ≤ room ∧ areLegible vs = true then
        some (.array (done.reverse ++ rereadItems vs), rest)
      else none
  | [], _, _, _, _, hne, _ => absurd rfl hne
  | v :: vs, fuel, room, done, rest, _, hfuel => by
    have hpos := length_charsItems_pos vs
    simp only [charsItems, List.length_cons, List.length_append] at hfuel
    match fuel with
    | 0 => omega
    | fuel + 1 =>
      have hread := value_chars v fuel room (charsItems vs ++ rest) (by omega)
        (delimited_charsItems vs rest)
      rw [tail_charsItems, List.append_assoc]
      by_cases hv : v.depth ≤ room ∧ v.isLegible = true
      · rw [if_pos hv] at hread
        rw [items_succ hread]
        match vs with
        | [] =>
          change some (Json.array (v.reread :: done).reverse, rest) = _
          simp [depthItems, areLegible, rereadItems, hv]
        | w :: ws =>
          have hnext := items_chars (w :: ws) fuel room (v.reread :: done) rest (by simp) (by omega)
          change items fuel room (v.reread :: done) ((charsItems (w :: ws)).tail ++ rest) = _
          rw [hnext]
          have hboth : depthItems (v :: w :: ws) ≤ room ∧ areLegible (v :: w :: ws) = true ↔
              depthItems (w :: ws) ≤ room ∧ areLegible (w :: ws) = true := by
            rw [depthItems, areLegible, Nat.max_le, Bool.and_eq_true]
            tauto
          simp only [hboth, rereadItems, List.reverse_cons, List.append_assoc, List.cons_append,
            List.nil_append]
      · rw [if_neg hv] at hread
        rw [items_none hread, if_neg]
        rw [depthItems, areLegible, Nat.max_le, Bool.and_eq_true]
        tauto

theorem members_chars : ∀ (ms : List (String × Json)) (fuel room : Nat)
    (done : List (String × Json)) (rest : List Char), ms ≠ [] →
    2 * (charsMembers ms).length ≤ fuel + 2 →
    members fuel room done ((charsMembers ms).tail ++ rest) =
      if depthMembers ms ≤ room ∧ haveLegible ms = true then
        some (.object (rereadMembers done ms), rest)
      else none
  | [], _, _, _, _, hne, _ => absurd rfl hne
  | (key, v) :: ms, fuel, room, done, rest, _, hfuel => by
    have hpos := length_charsMembers_pos ms
    simp only [charsMembers, List.length_cons, List.length_append] at hfuel
    match fuel with
    | 0 => omega
    | fuel + 1 =>
      have hread := value_chars v fuel room (charsMembers ms ++ rest) (by omega)
        (delimited_charsMembers ms rest)
      rw [tail_charsMembers, List.append_assoc, List.cons_append, List.append_assoc]
      by_cases hv : v.depth ≤ room ∧ v.isLegible = true
      · rw [if_pos hv] at hread
        rw [members_succ hread]
        match ms with
        | [] =>
          change some (Json.object (insertMember key v.reread done), rest) = _
          simp [depthMembers, haveLegible, rereadMembers, hv]
        | (k, w) :: ws =>
          have hnext := members_chars ((k, w) :: ws) fuel room (insertMember key v.reread done) rest
            (by simp) (by omega)
          change members fuel room (insertMember key v.reread done)
            ((charsMembers ((k, w) :: ws)).tail ++ rest) = _
          rw [hnext]
          have hboth : depthMembers ((key, v) :: (k, w) :: ws) ≤ room ∧
              haveLegible ((key, v) :: (k, w) :: ws) = true ↔
              depthMembers ((k, w) :: ws) ≤ room ∧ haveLegible ((k, w) :: ws) = true := by
            rw [depthMembers, haveLegible, Nat.max_le, Bool.and_eq_true]
            tauto
          simp only [hboth]
          rfl
      · rw [if_neg hv] at hread
        rw [members_none hread, if_neg]
        rw [depthMembers, haveLegible, Nat.max_le, Bool.and_eq_true]
        tauto
end

theorem parseChars?_chars (v : Json) : parseChars? v.chars =
    if v.depth ≤ nestingLimit ∧ v.isLegible = true then some v.reread else none := by
  have hread := value_chars v (enoughFuel v.chars) nestingLimit []
    (by unfold enoughFuel; omega) .nil
  rw [List.append_nil] at hread
  rw [parseChars?, hread]
  by_cases h : v.depth ≤ nestingLimit ∧ v.isLegible = true
  · rw [if_pos h, if_pos h]
    rfl
  · rw [if_neg h, if_neg h]

end Reader

/-- What is written is read back unless it is too deep. -/
theorem parse?_text_eq (v : Json) : parse? v.text =
    if v.depth ≤ Reader.nestingLimit ∧ v.isLegible = true then some v.reread else none := by
  rw [parse?, text, String.toList_ofList]
  exact Reader.parseChars?_chars v

theorem parse?_text {v : Json} (hexact : v.isExact = true)
    (hdepth : v.depth ≤ Reader.nestingLimit) : parse? v.text = some v.tidy := by
  rw [parse?_text_eq, if_pos ⟨hdepth, isLegible_of_isExact v hexact⟩, reread_eq_tidy v hexact]

end Lemmata.Json
