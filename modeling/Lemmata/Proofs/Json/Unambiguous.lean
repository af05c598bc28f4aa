import Lemmata.Proofs.Json.Canonical
import Lemmata.Proofs.Json.NumberText
import Mathlib.Data.List.Forall2
import Mathlib.Data.List.Perm.Basic

/-! # Values have the same canonical text up to the order of members, and only then -/

namespace Lemmata.Json

variable {v w : Json} {vs ws : List Json} {ms ns : List (String × Json)} {rest rest' : List Char}

/-! ## Values -/

/-- What a value can be: no object has a key twice, and a number that is no integer is one that a
double can hold. -/
inductive Proper : Json → Prop
  | null : Proper .null
  | bool (b : Bool) : Proper (.bool b)
  | number {n : Number} (hnormal : n.IsNormal) : Proper (.number n)
  | string (s : String) : Proper (.string s)
  | array {vs : List Json} (hitems : ∀ v ∈ vs, Proper v) : Proper (.array vs)
  | object {ms : List (String × Json)} (hkeys : (ms.map Prod.fst).Nodup)
      (hmembers : ∀ m ∈ ms, Proper m.2) : Proper (.object ms)

/-- Equal up to the order of the members of objects, at every depth. Numbers are equal as data: an
integer is no double, and zero is not minus zero. -/
inductive Same : Json → Json → Prop
  | null : Same .null .null
  | bool (b : Bool) : Same (.bool b) (.bool b)
  | number (n : Number) : Same (.number n) (.number n)
  | string (s : String) : Same (.string s) (.string s)
  | array {vs ws : List Json} (hitems : List.Forall₂ Same vs ws) : Same (.array vs) (.array ws)
  | object {ms ns ns' : List (String × Json)} (hkeys : ms.map Prod.fst = ns'.map Prod.fst)
      (hvalues : List.Forall₂ Same (ms.map Prod.snd) (ns'.map Prod.snd)) (horder : ns'.Perm ns) :
      Same (.object ms) (.object ns)

theorem Proper.sorted (h : v.Proper) : v.sorted.Proper := by
  induction v using inductParts with
  | null | bool | number | string => exact h
  | array vs ih =>
    cases h with
    | array hitems =>
      rw [sorted_array]
      refine .array fun w hw => ?_
      obtain ⟨v, hv, rfl⟩ := List.mem_map.mp hw
      exact ih v hv (hitems v hv)
  | object ms ih =>
    cases h with
    | object hkeys hmembers =>
      rw [Json.sorted]
      refine .object ?_ fun m hm => ?_
      · rw [((List.mergeSort_perm _ keyLe).map Prod.fst).nodup_iff, keys_sortedMembers]
        exact hkeys
      · obtain ⟨n, hn, rfl⟩ := mem_sortedMembers_mergeSort.mp hm
        exact ih n hn (hmembers n hn)

/-! ## Where a text ends -/

def mark : Json → Char
  | .null => 'n'
  | .bool _ => 't'
  | .number _ => '0'
  | .string _ => '"'
  | .array _ => '['
  | .object _ => '\x7b'

def markOf (c : Char) : Char :=
  if c = '-' ∨ Reader.isDigit c = true then '0'
  else if c = 'f' then 't'
  else c

theorem chars_eq_cons (v : Json) : ∃ c cs, v.chars = c :: cs ∧ markOf c = v.mark := by
  cases v with
  | null => exact ⟨_, _, rfl, rfl⟩
  | bool b => cases b <;> exact ⟨_, _, rfl, rfl⟩
  | number n =>
    obtain ⟨c, cs, htext, hc⟩ := Reader.head_text n
    exact ⟨c, cs, htext, if_pos hc⟩
  | string s => exact ⟨_, _, rfl, rfl⟩
  | array vs => cases vs <;> exact ⟨_, _, rfl, rfl⟩
  | object ms => cases ms <;> exact ⟨_, _, rfl, rfl⟩

theorem mark_eq (h : v.chars ++ rest = w.chars ++ rest') : v.mark = w.mark := by
  obtain ⟨c, cs, hv, hc⟩ := chars_eq_cons v
  obtain ⟨d, ds, hw, hd⟩ := chars_eq_cons w
  rw [hv, hw] at h
  rw [← hc, ← hd, (List.cons.inj h).1]

theorem chars_append_ne_bracket : v.chars ++ rest ≠ ']' :: rest' := by
  intro h
  obtain ⟨c, cs, hv, -, hc⟩ := Reader.head_chars v
  rw [hv, List.cons_append] at h
  exact hc (List.cons.inj h).1

theorem quoted_append_inj {s t : String} (h : quoted s ++ rest = quoted t ++ rest') :
    s = t ∧ rest = rest' := by
  rw [Reader.quoted_append, Reader.quoted_append] at h
  have hread := congrArg (Reader.stringAfter []) (List.cons.inj h).2
  rw [Reader.stringAfter_quoted, Reader.stringAfter_quoted] at hread
  exact Prod.mk.inj (Option.some.inj hread)

/-! ### Numbers -/

def isNumeric (c : Char) : Bool :=
  Reader.isDigit c || c == '-' || c == '+' || c == '.' || c == 'e'

theorem isNumeric_of_isDigit {c : Char} (h : Reader.isDigit c = true) : isNumeric c = true := by
  simp [isNumeric, h]

theorem isNumeric_exponentText {t : List Char} (ht : Reader.ExponentText t) :
    ∀ c ∈ t, isNumeric c = true := by
  cases ht with
  | none => exact List.forall_mem_nil _
  | @some sign digits hsign hdigits =>
    refine List.forall_mem_cons.mpr ⟨rfl, List.forall_mem_cons.mpr ⟨?_, ?_⟩⟩
    · rcases hsign with rfl | rfl <;> rfl
    · exact fun c hc => isNumeric_of_isDigit (hdigits c hc)

theorem isNumeric_numeral {t : List Char} (ht : Reader.Numeral t) : ∀ c ∈ t, isNumeric c = true := by
  cases ht with
  | whole hne hdigits hexponent =>
    refine List.forall_mem_append.mpr ⟨?_, isNumeric_exponentText hexponent⟩
    exact fun c hc => isNumeric_of_isDigit (hdigits c hc)
  | point hne hdigits hfraction hexponent =>
    refine List.forall_mem_append.mpr ⟨?_, List.forall_mem_cons.mpr ⟨rfl, ?_⟩⟩
    · exact fun c hc => isNumeric_of_isDigit (hdigits c hc)
    · refine List.forall_mem_append.mpr ⟨?_, isNumeric_exponentText hexponent⟩
      exact fun c hc => isNumeric_of_isDigit (hfraction c hc)

theorem takeWhile_isNumeric (n : Number) (hrest : Reader.Delimited rest) :
    (n.text ++ rest).takeWhile isNumeric = n.text := by
  have hnumeric : ∀ c ∈ n.text, isNumeric c = true := by
    obtain ⟨t, ht, htext | htext⟩ := Reader.numeral_text n <;> rw [htext]
    · exact isNumeric_numeral ht
    · exact List.forall_mem_cons.mpr ⟨rfl, isNumeric_numeral ht⟩
  have hstop : rest.takeWhile isNumeric = [] := by
    cases hrest <;> rfl
  rw [List.takeWhile_append_of_pos hnumeric, hstop, List.append_nil]

theorem text_append_inj {m n : Number} (hrest : Reader.Delimited rest)
    (hrest' : Reader.Delimited rest') (h : m.text ++ rest = n.text ++ rest') :
    m.text = n.text ∧ rest = rest' := by
  have htext : m.text = n.text := by
    rw [← takeWhile_isNumeric m hrest, h, takeWhile_isNumeric n hrest']
  rw [htext] at h
  exact ⟨htext, List.append_cancel_left h⟩

/-! ## A text begins with at most one value -/

/-- The text of the value can be cut off. -/
def CutsOff (v : Json) : Prop :=
  ∀ w rest rest', w.Proper → Reader.Delimited rest → Reader.Delimited rest' →
    v.chars ++ rest = w.chars ++ rest' → v = w ∧ rest = rest'

/-! ### Arrays -/

theorem chars_array_cons (v : Json) (vs : List Json) (rest : List Char) :
    (Json.array (v :: vs)).chars ++ rest = '[' :: (v.chars ++ (charsItems vs ++ rest)) := by
  simp [chars]

theorem charsItems_cons (v : Json) (vs : List Json) (rest : List Char) :
    charsItems (v :: vs) ++ rest = ',' :: (v.chars ++ (charsItems vs ++ rest)) := by
  simp [charsItems]

theorem CutsOff.item (hv : v.CutsOff) (hw : w.Proper)
    (h : v.chars ++ (charsItems vs ++ rest) = w.chars ++ (charsItems ws ++ rest')) :
    v = w ∧ charsItems vs ++ rest = charsItems ws ++ rest' :=
  hv w _ _ hw (Reader.delimited_charsItems vs rest) (Reader.delimited_charsItems ws rest') h

theorem charsItems_inj (hvs : ∀ v ∈ vs, v.CutsOff) (hws : ∀ w ∈ ws, w.Proper)
    (h : charsItems vs ++ rest = charsItems ws ++ rest') : vs = ws ∧ rest = rest' := by
  induction vs generalizing ws with
  | nil =>
    cases ws with
    | nil => exact ⟨rfl, (List.cons.inj h).2⟩
    | cons w ws => cases (List.cons.inj h).1
  | cons v vs ih =>
    cases ws with
    | nil => cases (List.cons.inj h).1
    | cons w ws =>
      obtain ⟨hv, hvs'⟩ := List.forall_mem_cons.mp hvs
      obtain ⟨hw, hws'⟩ := List.forall_mem_cons.mp hws
      rw [charsItems_cons, charsItems_cons] at h
      obtain ⟨rfl, htail⟩ := hv.item hw (List.cons.inj h).2
      obtain ⟨rfl, hrest⟩ := ih hvs' hws' htail
      exact ⟨rfl, hrest⟩

theorem CutsOff.array (hvs : ∀ v ∈ vs, v.CutsOff) (hws : ∀ w ∈ ws, w.Proper)
    (h : (Json.array vs).chars ++ rest = (Json.array ws).chars ++ rest') :
    vs = ws ∧ rest = rest' := by
  cases vs with
  | nil =>
    cases ws with
    | nil => exact ⟨rfl, (List.cons.inj (List.cons.inj h).2).2⟩
    | cons w ws =>
      rw [chars_array_cons] at h
      exact absurd (List.cons.inj h).2.symm chars_append_ne_bracket
  | cons v vs =>
    cases ws with
    | nil =>
      rw [chars_array_cons] at h
      exact absurd (List.cons.inj h).2 chars_append_ne_bracket
    | cons w ws =>
      obtain ⟨hv, hvs'⟩ := List.forall_mem_cons.mp hvs
      obtain ⟨hw, hws'⟩ := List.forall_mem_cons.mp hws
      rw [chars_array_cons, chars_array_cons] at h
      obtain ⟨rfl, htail⟩ := hv.item hw (List.cons.inj h).2
      obtain ⟨rfl, hrest⟩ := charsItems_inj hvs' hws' htail
      exact ⟨rfl, hrest⟩

/-! ### Objects -/

theorem chars_object_cons (m : String × Json) (ms : List (String × Json)) (rest : List Char) :
    (Json.object (m :: ms)).chars ++ rest =
      '\x7b' :: (quoted m.1 ++ ':' :: (m.2.chars ++ (charsMembers ms ++ rest))) := by
  simp [chars]

theorem charsMembers_cons (m : String × Json) (ms : List (String × Json)) (rest : List Char) :
    charsMembers (m :: ms) ++ rest =
      ',' :: (quoted m.1 ++ ':' :: (m.2.chars ++ (charsMembers ms ++ rest))) := by
  simp [charsMembers]

theorem CutsOff.member {m n : String × Json} (hm : m.2.CutsOff) (hn : n.2.Proper)
    (h : quoted m.1 ++ ':' :: (m.2.chars ++ (charsMembers ms ++ rest)) =
      quoted n.1 ++ ':' :: (n.2.chars ++ (charsMembers ns ++ rest'))) :
    m = n ∧ charsMembers ms ++ rest = charsMembers ns ++ rest' := by
  obtain ⟨hkey, htail⟩ := quoted_append_inj h
  obtain ⟨hvalue, hrest⟩ := hm n.2 _ _ hn (Reader.delimited_charsMembers ms rest)
    (Reader.delimited_charsMembers ns rest') (List.cons.inj htail).2
  exact ⟨Prod.ext hkey hvalue, hrest⟩

theorem charsMembers_inj (hms : ∀ m ∈ ms, m.2.CutsOff) (hns : ∀ n ∈ ns, n.2.Proper)
    (h : charsMembers ms ++ rest = charsMembers ns ++ rest') : ms = ns ∧ rest = rest' := by
  induction ms generalizing ns with
  | nil =>
    cases ns with
    | nil => exact ⟨rfl, (List.cons.inj h).2⟩
    | cons n ns => cases (List.cons.inj h).1
  | cons m ms ih =>
    cases ns with
    | nil => cases (List.cons.inj h).1
    | cons n ns =>
      obtain ⟨hm, hms'⟩ := List.forall_mem_cons.mp hms
      obtain ⟨hn, hns'⟩ := List.forall_mem_cons.mp hns
      rw [charsMembers_cons, charsMembers_cons] at h
      obtain ⟨rfl, htail⟩ := hm.member hn (List.cons.inj h).2
      obtain ⟨rfl, hrest⟩ := ih hms' hns' htail
      exact ⟨rfl, hrest⟩

theorem CutsOff.object (hms : ∀ m ∈ ms, m.2.CutsOff) (hns : ∀ n ∈ ns, n.2.Proper)
    (h : (Json.object ms).chars ++ rest = (Json.object ns).chars ++ rest') :
    ms = ns ∧ rest = rest' := by
  cases ms with
  | nil =>
    cases ns with
    | nil => exact ⟨rfl, (List.cons.inj (List.cons.inj h).2).2⟩
    | cons n ns =>
      rw [chars_object_cons, Reader.quoted_append] at h
      cases (List.cons.inj (List.cons.inj h).2).1
  | cons m ms =>
    cases ns with
    | nil =>
      rw [chars_object_cons, Reader.quoted_append] at h
      cases (List.cons.inj (List.cons.inj h).2).1
    | cons n ns =>
      obtain ⟨hm, hms'⟩ := List.forall_mem_cons.mp hms
      obtain ⟨hn, hns'⟩ := List.forall_mem_cons.mp hns
      rw [chars_object_cons, chars_object_cons] at h
      obtain ⟨rfl, htail⟩ := hm.member hn (List.cons.inj h).2
      obtain ⟨rfl, hrest⟩ := charsMembers_inj hms' hns' htail
      exact ⟨rfl, hrest⟩

/-! ### All values -/

theorem Proper.cutsOff (h : v.Proper) : v.CutsOff := by
  induction v using inductParts with
  | null =>
    intro w rest rest' hw hrest hrest' heq
    cases w with
    | null => exact ⟨rfl, List.append_cancel_left heq⟩
    | _ => cases mark_eq heq
  | bool b =>
    intro w rest rest' hw hrest hrest' heq
    cases w with
    | bool c =>
      cases b <;> cases c
      · exact ⟨rfl, List.append_cancel_left heq⟩
      · cases (List.cons.inj heq).1
      · cases (List.cons.inj heq).1
      · exact ⟨rfl, List.append_cancel_left heq⟩
    | _ => cases mark_eq heq
  | number m =>
    intro w rest rest' hw hrest hrest' heq
    cases w with
    | number n =>
      cases h with
      | number hm =>
        cases hw with
        | number hn =>
          obtain ⟨htext, hrest⟩ := text_append_inj hrest hrest' heq
          exact ⟨congrArg Json.number (Number.text_inj hm hn htext), hrest⟩
    | _ => cases mark_eq heq
  | string s =>
    intro w rest rest' hw hrest hrest' heq
    cases w with
    | string t =>
      obtain ⟨rfl, hrest⟩ := quoted_append_inj heq
      exact ⟨rfl, hrest⟩
    | _ => cases mark_eq heq
  | array vs ih =>
    intro w rest rest' hw hrest hrest' heq
    cases w with
    | array ws =>
      cases h with
      | array hvs =>
        cases hw with
        | array hws =>
          obtain ⟨rfl, hrest⟩ := CutsOff.array (fun v hv => ih v hv (hvs v hv)) hws heq
          exact ⟨rfl, hrest⟩
    | _ => cases mark_eq heq
  | object ms ih =>
    intro w rest rest' hw hrest hrest' heq
    cases w with
    | object ns =>
      cases h with
      | object _ hms =>
        cases hw with
        | object _ hns =>
          obtain ⟨rfl, hrest⟩ := CutsOff.object (fun m hm => ih m hm (hms m hm)) hns heq
          exact ⟨rfl, hrest⟩
    | _ => cases mark_eq heq

theorem chars_inj (hv : v.Proper) (hw : w.Proper) (h : v.chars = w.chars) : v = w := by
  have heq : v.chars ++ [] = w.chars ++ [] := congrArg (· ++ []) h
  exact (hv.cutsOff w [] [] hw .nil .nil heq).1

/-! ## Sorting forgets the order of members, and nothing else -/

theorem values_sortedMembers (ms : List (String × Json)) :
    (sortedMembers ms).map Prod.snd = (ms.map Prod.snd).map sorted := by
  rw [sortedMembers_eq_map, List.map_map, List.map_map]
  rfl

theorem sortedMembers_eq_iff : sortedMembers ms = sortedMembers ns ↔
    ms.map Prod.fst = ns.map Prod.fst ∧
      (ms.map Prod.snd).map sorted = (ns.map Prod.snd).map sorted := by
  rw [← keys_sortedMembers ms, ← keys_sortedMembers ns, ← values_sortedMembers ms,
    ← values_sortedMembers ns]
  constructor
  · intro h
    exact ⟨congrArg (List.map Prod.fst) h, congrArg (List.map Prod.snd) h⟩
  · rintro ⟨hkeys, hvalues⟩
    exact (List.zip_of_prod hkeys hvalues).trans (List.zip_of_prod rfl rfl).symm

theorem map_sorted_eq (hvs : ∀ v ∈ vs, ∀ w ∈ ws, Same v w → v.sorted = w.sorted)
    (h : List.Forall₂ Same vs ws) : vs.map sorted = ws.map sorted := by
  induction h with
  | nil => rfl
  | cons hsame _ ih =>
    have htail := ih fun v hv w hw => hvs v (List.mem_cons_of_mem _ hv) w (List.mem_cons_of_mem _ hw)
    have hhead := hvs _ List.mem_cons_self _ List.mem_cons_self hsame
    rw [List.map_cons, List.map_cons, hhead, htail]

theorem forall₂_same (hvs : ∀ v ∈ vs, ∀ w, v.sorted = w.sorted → Same v w)
    (h : vs.map sorted = ws.map sorted) : List.Forall₂ Same vs ws := by
  induction vs generalizing ws with
  | nil =>
    rw [List.map_nil, eq_comm, List.map_eq_nil_iff] at h
    rw [h]
    exact .nil
  | cons v vs ih =>
    cases ws with
    | nil => cases h
    | cons w ws =>
      obtain ⟨hhead, htail⟩ := List.cons.inj h
      obtain ⟨hv, hvs⟩ := List.forall_mem_cons.mp hvs
      exact .cons (hv w hhead) (ih hvs htail)

theorem Same.sorted_eq (hw : w.Proper) (h : Same v w) : v.sorted = w.sorted := by
  induction v using inductParts generalizing w with
  | null | bool | number | string =>
    cases h
    rfl
  | array vs ih =>
    cases h with
    | array hitems =>
      cases hw with
      | array hws =>
        rw [sorted_array, sorted_array]
        exact congrArg Json.array
          (map_sorted_eq (fun v hv w hw hsame => ih v hv (hws w hw) hsame) hitems)
  | object ms ih =>
    cases h with
    | @object ms ns ns' hkeys hvalues horder =>
      cases hw with
      | object hdistinct hns =>
        have hvalues' : (ms.map Prod.snd).map Json.sorted = (ns'.map Prod.snd).map Json.sorted := by
          refine map_sorted_eq (fun v hv w hw hsame => ?_) hvalues
          obtain ⟨m, hm, rfl⟩ := List.mem_map.mp hv
          obtain ⟨n, hn, rfl⟩ := List.mem_map.mp hw
          exact ih m hm (hns n (horder.mem_iff.mp hn)) hsame
        have hperm : (sortedMembers ms).Perm ((sortedMembers ns).mergeSort keyLe) := by
          rw [sortedMembers_eq_iff.mpr ⟨hkeys, hvalues'⟩, sortedMembers_eq_map, sortedMembers_eq_map]
          exact (horder.map _).trans (List.mergeSort_perm _ keyLe).symm
        rw [sorted_object_of_perm hperm (List.pairwise_map.mpr (pairwise_sortedMembers hdistinct)),
          Json.sorted]

theorem Same.of_sorted_eq (h : v.sorted = w.sorted) : Same v w := by
  induction v using inductParts generalizing w with
  | null =>
    cases w with
    | null => exact .null
    | _ => cases h
  | bool b =>
    cases w with
    | bool c =>
      cases h
      exact .bool b
    | _ => cases h
  | number n =>
    cases w with
    | number m =>
      cases h
      exact .number n
    | _ => cases h
  | string s =>
    cases w with
    | string t =>
      cases h
      exact .string s
    | _ => cases h
  | array vs ih =>
    cases w with
    | array ws =>
      rw [sorted_array, sorted_array, Json.array.injEq] at h
      exact .array (forall₂_same (fun v hv w hsame => ih v hv hsame) h)
    | _ => cases h
  | object ms ih =>
    cases w with
    | object ns =>
      rw [Json.sorted, Json.sorted, Json.object.injEq] at h
      have hperm : (sortedMembers ms).Perm (sortedMembers ns) :=
        (List.mergeSort_perm _ keyLe).symm.trans (h ▸ List.mergeSort_perm _ keyLe)
      -- The members of the other object, in the order of these.
      have hns : List.Forall₂ (fun m n => m = (n.1, n.2.sorted)) (sortedMembers ns) ns := by
        rw [sortedMembers_eq_map, List.forall₂_map_left_iff, List.forall₂_same]
        exact fun n _ => rfl
      obtain ⟨ns', hns', horder⟩ := List.perm_comp_forall₂ hperm hns
      have hsorted : sortedMembers ms = sortedMembers ns' := by
        rw [sortedMembers_eq_map ns']
        rwa [← List.forall₂_map_right_iff (f := fun n : String × Json => (n.1, n.2.sorted)),
          List.forall₂_eq_eq_eq] at hns'
      obtain ⟨hkeys, hvalues⟩ := sortedMembers_eq_iff.mp hsorted
      refine .object hkeys (forall₂_same (fun v hv w hsame => ?_) hvalues) horder
      obtain ⟨m, hm, rfl⟩ := List.mem_map.mp hv
      exact ih m hm hsame
    | _ => cases h

theorem same_iff_sorted_eq (hw : w.Proper) : Same v w ↔ v.sorted = w.sorted :=
  ⟨Same.sorted_eq hw, .of_sorted_eq⟩

/-! ## Canonical texts -/

theorem canonical_eq_iff_sorted_eq (hv : v.Proper) (hw : w.Proper) :
    v.canonical = w.canonical ↔ v.sorted = w.sorted := by
  constructor
  · intro h
    exact chars_inj hv.sorted hw.sorted (String.ofList_inj.mp h)
  · intro h
    rw [canonical, canonical, h]

/-- The canonical texts of two values agree exactly if the values do, up to the order of the members
of objects at every depth. -/
theorem canonical_eq_iff_same (hv : v.Proper) (hw : w.Proper) :
    v.canonical = w.canonical ↔ Same v w := by
  rw [canonical_eq_iff_sorted_eq hv hw, same_iff_sorted_eq hw]

theorem Same.exists_member {m : String × Json} (h : Same (.object ms) (.object ns)) (hm : m ∈ ms) :
    ∃ w, (m.1, w) ∈ ns ∧ Same m.2 w := by
  cases h with
  | @object _ _ ns' hkeys hvalues horder =>
    obtain ⟨i, hi, rfl⟩ := List.getElem_of_mem hm
    have hlength : ms.length = ns'.length := by simpa using congrArg List.length hkeys
    have hi' : i < ns'.length := hlength ▸ hi
    have hkey : ms[i].1 = ns'[i].1 := by
      have hat := List.getElem_of_eq hkeys (by rwa [List.length_map])
      rwa [List.getElem_map, List.getElem_map] at hat
    have hvalue : Same ms[i].2 ns'[i].2 := by
      have hat := hvalues.get (by rwa [List.length_map]) (by rwa [List.length_map])
      simpa using hat
    refine ⟨ns'[i].2, ?_, hvalue⟩
    rw [hkey]
    exact horder.subset (List.getElem_mem hi')

/-! ### An entry, the same with its members the other way round, and another one -/

def sense : List (String × Json) :=
  [("gloss", .string "\"wolf\"\n"), ("weight", .number (.real ⟨false, 3 * 2 ^ 51, -52⟩))]

def entry (count : Int) : List (String × Json) :=
  [("lemma", .string "λύκος"), ("senses", .array [.object sense, .null]),
    ("count", .number (.integer count))]

def turnedEntry : List (String × Json) :=
  [("count", .number (.integer (-3))), ("senses", .array [.object sense.reverse, .null]),
    ("lemma", .string "λύκος")]

theorem proper_sense : ∀ m ∈ sense, m.2.Proper := by
  have hweight : Binary64.IsNormal ⟨false, 3 * 2 ^ 51, -52⟩ :=
    ⟨by decide, by decide, by decide, fun _ => by decide⟩
  simp only [sense, List.forall_mem_cons]
  exact ⟨.string _, .number hweight, List.forall_mem_nil _⟩

theorem proper_senses {ms : List (String × Json)} (h : ms.Perm sense) :
    (Json.array [.object ms, .null]).Proper := by
  have hkeys : (ms.map Prod.fst).Nodup := (h.map Prod.fst).nodup_iff.mpr (by decide)
  refine .array (List.forall_mem_cons.mpr ⟨.object hkeys fun m hm => ?_, ?_⟩)
  · exact proper_sense m (h.mem_iff.mp hm)
  · exact List.forall_mem_singleton.mpr .null

theorem proper_entry (count : Int) : (object (entry count)).Proper := by
  have hkeys : ["lemma", "senses", "count"].Nodup := by decide
  refine .object hkeys ?_
  simp only [entry, List.forall_mem_cons]
  exact ⟨.string _, proper_senses (.refl _), .number trivial, List.forall_mem_nil _⟩

theorem turned_canonical :
    ((object (entry (-3))).Proper ∧ (object turnedEntry).Proper ∧
      (object (entry (-3))).canonical = (object turnedEntry).canonical) ∧
    (object (entry 2)).Proper ∧ (object (entry 2)).canonical ≠ (object turnedEntry).canonical := by
  have hturned : (object turnedEntry).Proper := by
    refine .object (by decide) ?_
    simp only [turnedEntry, List.forall_mem_cons]
    exact ⟨.number trivial, proper_senses (List.reverse_perm _), .string _, List.forall_mem_nil _⟩
  have hsenses : Same (.array [.object sense, .null]) (.array [.object sense.reverse, .null]) := by
    have hvalues : List.Forall₂ Same (sense.map Prod.snd) (sense.map Prod.snd) :=
      .cons (.string _) (.cons (.number _) .nil)
    exact .array (.cons (.object rfl hvalues (List.reverse_perm _).symm) (.cons .null .nil))
  have hsame : Same (object (entry (-3))) (object turnedEntry) := by
    have hkeys : (entry (-3)).map Prod.fst = turnedEntry.reverse.map Prod.fst := rfl
    exact .object hkeys (.cons (.string _) (.cons hsenses (.cons (.number _) .nil)))
      (List.reverse_perm _)
  refine ⟨⟨proper_entry _, hturned, (canonical_eq_iff_same (proper_entry _) hturned).mpr hsame⟩,
    proper_entry _, ?_⟩
  rw [ne_eq, canonical_eq_iff_same (proper_entry _) hturned]
  intro hother
  obtain ⟨w, hw, hcount⟩ := hother.exists_member (m := ("count", .number (.integer 2)))
    (by simp [entry])
  obtain rfl : w = .number (.integer (-3)) := by simpa [turnedEntry] using hw
  cases hcount

end Lemmata.Json
