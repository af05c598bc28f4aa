import Lemmata.Proofs.Store.Legible
import Lemmata.Proofs.Store.Saves
import Lemmata.Proofs.Text.ByteOrder

/-! # The tables of effects are maps, with listings by what was consumed -/

namespace Lemmata

/-! ## Saves -/

def Stage.table : Stage → String
  | .fetch => "raw_responses"
  | .extract => "extractions"
  | .derive => "derivations"
  | .claim => "claims"

/-- What the effect is listed under: its call for a response, else the effect that it consumed. -/
def Effect.listedUnder : Effect → String
  | raw e => e.callId
  | extraction e => e.responseId
  | derivation e => e.extractionId
  | claim e => e.derivationId

namespace Save

variable {saves : List Save} {x y : Save} {stage : Stage} {id : String}

def latest? (saves : List Save) (stage : Stage) (id : String) : Option Save :=
  (saves.filter fun x => x.effect.stage = stage ∧ x.effect.id = id).getLast?

def ids (saves : List Save) (stage : Stage) : Finset String :=
  ((saves.filter fun x => x.effect.stage = stage).map fun x => x.effect.id).toFinset

def IdBefore (x y : Save) : Prop :=
  Utf8.encode x.effect.id < Utf8.encode y.effect.id

def Before (stage : Stage) (x y : Save) : Prop :=
  match stage with
  | .fetch => x.now.second < y.now.second ∨ x.now.second = y.now.second ∧ IdBefore x y
  | _ => IdBefore x y

theorem latest?_append (saves : List Save) (x : Save) (stage : Stage) (id : String) :
    latest? (saves ++ [x]) stage id =
      if x.effect.stage = stage ∧ x.effect.id = id then some x else latest? saves stage id := by
  unfold latest?
  rw [List.filter_append]
  split
  · next h => simp [h]
  · next h => simp [h]

theorem of_latest? (h : latest? saves stage id = some x) :
    x ∈ saves ∧ x.effect.stage = stage ∧ x.effect.id = id := by
  simpa using List.mem_of_getLast? h

/-- The current effects of the stage that are listed under the ID, each once and in order. -/
structure Listing (saves : List Save) (stage : Stage) (id : String) (current : List Save) :
    Prop where
  mem_iff : ∀ x, x ∈ current ↔
    latest? saves stage x.effect.id = some x ∧ x.effect.listedUnder = id
  ordered : current.Pairwise (Before stage)

theorem mem_ids :
    id ∈ ids saves stage ↔ ∃ x ∈ saves, x.effect.stage = stage ∧ x.effect.id = id := by
  simp [ids, and_assoc]

end Save

namespace Store

def ofSaves (saves : List Save) : Store :=
  empty.saveAll saves

theorem ofSaves_eq (saves : List Save) : ofSaves saves = empty.putAll (.ofSaves saves []) :=
  saveAll_eq_putAll empty saves

def list (s : Store) (stage : Stage) (id : String) : Except Failure (List Effect) :=
  match stage with
  | .fetch => (s.rawsOfCall id).map (·.map .raw)
  | .extract => (s.extractionsOfResponse id).map (·.map .extraction)
  | .derive => (s.derivationsOfExtraction id).map (·.map .derivation)
  | .claim => (s.claimsOfDerivation id).map (·.map .claim)

end Store

/-! ## One kind of rows -/

namespace Save

variable {α : Type} {rowOf : Save → Option α} {current : List Save} {rows : List α}

theorem exists_of_rows {P : Save → Prop}
    (hrows : ∀ r ∈ rows, ∃ x, P x ∧ rowOf x = some r) :
    ∃ current : List Save, current.map rowOf = rows.map some ∧ ∀ x ∈ current, P x := by
  induction rows with
  | nil => exact ⟨[], rfl, nofun⟩
  | cons r rest ih =>
    obtain ⟨x, hx, hr⟩ := hrows r List.mem_cons_self
    obtain ⟨current, hrest, hcurrent⟩ := ih fun q hq => hrows q (List.mem_cons_of_mem _ hq)
    exact ⟨x :: current, by rw [List.map_cons, hr, hrest, List.map_cons],
      List.forall_mem_cons.mpr ⟨hx, hcurrent⟩⟩

theorem pairwise_of_rows {R : α → α → Prop} {S : Save → Save → Prop}
    (hRS : ∀ x y r q, rowOf x = some r → rowOf y = some q → R r q → S x y)
    (hrows : current.map rowOf = rows.map some) (hordered : rows.Pairwise R) :
    current.Pairwise S := by
  have hsome : (rows.map some).Pairwise fun a b => ∃ r q, a = some r ∧ b = some q ∧ R r q :=
    List.pairwise_map.mpr (hordered.imp fun {r q} hrq => ⟨r, q, rfl, rfl, hrq⟩)
  rw [← hrows, List.pairwise_map] at hsome
  exact hsome.imp fun {x y} ⟨r, q, hr, hq, hrq⟩ => hRS x y r q hr hq hrq

end Save

section

variable {α β : Type} [Keyed α] {stage : Stage} {rowOf : Save → Option α} {column : α → String}
variable {read : α → Except Failure β} {wrap : β → Effect} {saves : List Save}

/-- The rows hold the effects of a stage, with a column for what an effect is listed under. -/
structure HoldsStage (stage : Stage) (rowOf : Save → Option α) (column : α → String)
    (read : α → Except Failure β) (wrap : β → Effect) : Prop where
  isSome_iff : ∀ x, (rowOf x).isSome = true ↔ x.effect.stage = stage
  key_eq : ∀ x r, rowOf x = some r → Keyed.key r = x.effect.id
  column_eq : ∀ x r, rowOf x = some r → column r = x.effect.listedUnder
  read_eq : ∀ x r, rowOf x = some r → x.effect.Legible →
    (read r).map wrap = .ok x.effect.reread

namespace HoldsStage

variable (h : HoldsStage stage rowOf column read wrap)

include h

theorem exists_row {x : Save} (hx : x.effect.stage = stage) : ∃ r, rowOf x = some r :=
  Option.isSome_iff_exists.mp ((h.isSome_iff x).mpr hx)

theorem stage_eq {x : Save} {r : α} (hr : rowOf x = some r) : x.effect.stage = stage :=
  (h.isSome_iff x).mp (Option.isSome_of_eq_some hr)

theorem get?_eq (saves : List Save) (id : String) :
    (Table.empty.putAll (saves.filterMap rowOf)).get? id =
      (Save.latest? saves stage id).bind rowOf := by
  induction saves using List.reverseRecOn with
  | nil => rfl
  | append_singleton saves x ih =>
    rw [List.filterMap_append, Save.latest?_append]
    by_cases hstage : x.effect.stage = stage
    · obtain ⟨r, hr⟩ := h.exists_row hstage
      have hkey := h.key_eq x r hr
      rw [List.filterMap_cons_some hr, List.filterMap_nil, Table.putAll_concat]
      by_cases hid : x.effect.id = id
      · rw [if_pos ⟨hstage, hid⟩, Option.bind_some, hr, ← hid, ← hkey, Table.get?_put_self]
      · rw [if_neg fun hboth => hid hboth.2, Table.get?_put_of_ne (hkey ▸ hid), ih]
    · have hnone : rowOf x = none := by
        rw [← Option.not_isSome_iff_eq_none, h.isSome_iff]
        exact hstage
      rw [List.filterMap_cons_none hnone, List.filterMap_nil, List.append_nil,
        if_neg fun hboth => hstage hboth.1, ih]

theorem mem_rows_iff {r : α} : r ∈ (Table.empty.putAll (saves.filterMap rowOf)).rows ↔
    ∃ x, Save.latest? saves stage x.effect.id = some x ∧ rowOf x = some r := by
  rw [Table.mem_rows_iff (Table.nodup_keys_putAll_empty _), h.get?_eq,
    Option.bind_eq_some_iff]
  constructor
  · rintro ⟨x, hlatest, hr⟩
    obtain ⟨-, -, hid⟩ := Save.of_latest? hlatest
    exact ⟨x, by rwa [hid], hr⟩
  · rintro ⟨x, hlatest, hr⟩
    exact ⟨x, by rwa [h.key_eq x r hr], hr⟩

theorem read_get (hlegible : ∀ x ∈ saves, x.effect.Legible) (id : String) :
    (Store.readRow read ((Table.empty.putAll (saves.filterMap rowOf)).get? id)).map (·.map wrap) =
      .ok ((Save.latest? saves stage id).map fun x => x.effect.reread) := by
  rw [h.get?_eq]
  cases hlatest : Save.latest? saves stage id with
  | none => rfl
  | some x =>
    obtain ⟨hmem, hstage, -⟩ := Save.of_latest? hlatest
    obtain ⟨r, hr⟩ := h.exists_row hstage
    have hread := h.read_eq x r hr (hlegible x hmem)
    rw [Option.bind_some, hr, Store.readRow, Option.map_some]
    cases hfound : read r with
    | error failure =>
      rw [hfound] at hread
      cases hread
    | ok e =>
      rw [hfound] at hread
      exact congrArg (Except.map some) hread

/-! ### Listings -/

theorem read_rows {current : List Save} {rows : List α}
    (hlegible : ∀ x ∈ current, x.effect.Legible) (hrows : current.map rowOf = rows.map some) :
    (rows.mapM read).map (·.map wrap) = .ok (current.map fun x => x.effect.reread) := by
  induction current generalizing rows with
  | nil =>
    rw [List.map_nil, eq_comm, List.map_eq_nil_iff] at hrows
    subst hrows
    rfl
  | cons x current ih =>
    obtain ⟨r, rows, rfl⟩ : ∃ r rest, rows = r :: rest := by
      cases rows with
      | nil => cases hrows
      | cons r rest => exact ⟨r, rest, rfl⟩
    obtain ⟨hr, hrest⟩ := List.cons.inj hrows
    have hread := h.read_eq x r hr (hlegible x List.mem_cons_self)
    have hlater := ih (fun y hy => hlegible y (List.mem_cons_of_mem _ hy)) hrest
    rw [List.mapM_cons]
    cases hfound : read r with
    | error failure =>
      rw [hfound] at hread
      cases hread
    | ok e =>
      cases hfounds : rows.mapM read with
      | error failure =>
        rw [hfounds] at hlater
        cases hlater
      | ok es =>
        rw [hfound] at hread
        rw [hfounds] at hlater
        rw [List.map_cons, ← Except.ok.inj hread, ← Except.ok.inj hlater]
        rfl

theorem exists_listing {rows : List α} {R : α → α → Prop} {id : String}
    (hlegible : ∀ x ∈ saves, x.effect.Legible)
    (hmem : ∀ r, r ∈ rows ↔
      r ∈ (Table.empty.putAll (saves.filterMap rowOf)).rows ∧ (column r == id) = true)
    (hordered : rows.Pairwise R)
    (hbefore : ∀ x y r q, rowOf x = some r → rowOf y = some q → R r q → Save.Before stage x y) :
    ∃ current, Save.Listing saves stage id current ∧
      (rows.mapM read).map (·.map wrap) = .ok (current.map fun x => x.effect.reread) := by
  have hsaved : ∀ r ∈ rows, ∃ x, (Save.latest? saves stage x.effect.id = some x ∧
      x.effect.listedUnder = id) ∧ rowOf x = some r := by
    intro r hr
    obtain ⟨htable, hcolumn⟩ := (hmem r).mp hr
    obtain ⟨x, hlatest, hrow⟩ := h.mem_rows_iff.mp htable
    exact ⟨x, ⟨hlatest, (h.column_eq x r hrow).symm.trans (beq_iff_eq.mp hcolumn)⟩, hrow⟩
  obtain ⟨current, hrows, hcurrent⟩ := Save.exists_of_rows hsaved
  refine ⟨current, ⟨fun x => ⟨hcurrent x, ?_⟩, Save.pairwise_of_rows hbefore hrows hordered⟩,
    h.read_rows (fun x hx => hlegible x (Save.of_latest? (hcurrent x hx).1).1) hrows⟩
  rintro ⟨hlatest, hunder⟩
  obtain ⟨r, hr⟩ := h.exists_row (Save.of_latest? hlatest).2.1
  have hlisted : r ∈ rows := (hmem r).mpr
    ⟨h.mem_rows_iff.mpr ⟨x, hlatest, hr⟩, beq_iff_eq.mpr ((h.column_eq x r hr).trans hunder)⟩
  obtain ⟨y, hy, hyr⟩ := List.mem_map.mp (hrows.symm ▸ List.mem_map_of_mem hlisted)
  -- Both are the last save under the key of the row.
  have hid : y.effect.id = x.effect.id := (h.key_eq y r hyr).symm.trans (h.key_eq x r hr)
  obtain rfl : y = x := Option.some.inj ((hcurrent y hy).1.symm.trans (hid ▸ hlatest))
  exact hy

theorem exists_listing_select (hlegible : ∀ x ∈ saves, x.effect.Legible) (id : String)
    (hbefore : ∀ x y : Save, x.IdBefore y → Save.Before stage x y) :
    ∃ current, Save.Listing saves stage id current ∧
      (((Table.empty.putAll (saves.filterMap rowOf)).select fun r => column r == id).mapM read).map
        (·.map wrap) = .ok (current.map fun x => x.effect.reread) := by
  refine h.exists_listing hlegible (fun r => Table.mem_select)
    (Table.pairwise_select (Table.nodup_keys_putAll_empty _) _) fun x y r q hr hq hlt => ?_
  rw [h.key_eq x r hr, h.key_eq y q hq] at hlt
  exact hbefore x y (Utf8.encode_lt_iff.mpr hlt)

/-! ### Sizes -/

theorem size_eq (saves : List Save) :
    (Table.empty.putAll (saves.filterMap rowOf)).size = (Save.ids saves stage).card := by
  rw [Table.size_putAll_empty]
  congr 1
  ext id
  rw [List.mem_toFinset, List.mem_map, Save.mem_ids]
  constructor
  · rintro ⟨r, hr, rfl⟩
    obtain ⟨x, hx, hrow⟩ := List.mem_filterMap.mp hr
    exact ⟨x, hx, h.stage_eq hrow, (h.key_eq x r hrow).symm⟩
  · rintro ⟨x, hx, hstage, rfl⟩
    obtain ⟨r, hr⟩ := h.exists_row hstage
    exact ⟨r, List.mem_filterMap.mpr ⟨x, hx, hr⟩, h.key_eq x r hr⟩

end HoldsStage

/-! ## The four kinds -/

theorem HoldsStage.of_rows (make : Moment → β → α)
    (hstage : ∀ e : Effect, e.stage = stage ↔ ∃ b, wrap b = e)
    (hrow : ∀ now e r, rowOf ⟨now, e⟩ = some r ↔ ∃ b, wrap b = e ∧ make now b = r)
    (hkey : ∀ now b, Keyed.key (make now b) = (wrap b).id)
    (hcolumn : ∀ now b, column (make now b) = (wrap b).listedUnder)
    (hread : ∀ now b, (wrap b).Legible →
      (read (make now b)).map wrap = .ok (wrap b).reread) :
    HoldsStage stage rowOf column read wrap where
  isSome_iff := by
    rintro ⟨now, e⟩
    rw [hstage, Option.isSome_iff_exists]
    constructor
    · rintro ⟨r, hr⟩
      obtain ⟨b, hb, -⟩ := (hrow now e r).mp hr
      exact ⟨b, hb⟩
    · rintro ⟨b, hb⟩
      exact ⟨_, (hrow now e _).mpr ⟨b, hb, rfl⟩⟩
  key_eq := by
    rintro ⟨now, e⟩ r hr
    obtain ⟨b, rfl, rfl⟩ := (hrow now e r).mp hr
    exact hkey now b
  column_eq := by
    rintro ⟨now, e⟩ r hr
    obtain ⟨b, rfl, rfl⟩ := (hrow now e r).mp hr
    exact hcolumn now b
  read_eq := by
    rintro ⟨now, e⟩ r hr hlegible
    obtain ⟨b, rfl, rfl⟩ := (hrow now e r).mp hr
    exact hread now b hlegible

end

theorem RawRow.holdsStage :
    HoldsStage .fetch RawRow.ofSave? RawRow.callId RawRow.effect .raw := by
  refine .of_rows (fun now e => .ofEffect now.second e) (fun e => ?_) (fun now e r => ?_)
    (fun _ _ => rfl) (fun _ _ => rfl) fun now e _ => ?_
  · cases e <;> simp [Effect.stage]
  · cases e <;> simp [ofSave?]
  · rw [effect_ofEffect]
    rfl

theorem ExtractionRow.holdsStage : HoldsStage .extract ExtractionRow.ofSave?
    ExtractionRow.responseId ExtractionRow.effect .extraction := by
  refine .of_rows (fun _ e => .ofEffect e) (fun e => ?_) (fun now e r => ?_)
    (fun _ _ => rfl) (fun _ _ => rfl) fun now e hlegible => ?_
  · cases e <;> simp [Effect.stage]
  · cases e <;> simp [ofSave?]
  · rw [effect_eq, if_pos hlegible]
    rfl

theorem DerivationRow.holdsStage : HoldsStage .derive DerivationRow.ofSave?
    DerivationRow.extractionId DerivationRow.effect .derivation := by
  refine .of_rows (fun _ e => .ofEffect e) (fun e => ?_) (fun now e r => ?_)
    (fun _ _ => rfl) (fun _ _ => rfl) fun now e hlegible => ?_
  · cases e <;> simp [Effect.stage]
  · cases e <;> simp [ofSave?]
  · rw [effect_eq, if_pos hlegible]
    rfl

theorem ClaimRow.holdsStage : HoldsStage .claim ClaimRow.ofSave?
    ClaimRow.derivationId ClaimRow.effect .claim := by
  refine .of_rows (fun _ e => .ofEffect e) (fun e => ?_) (fun now e r => ?_)
    (fun _ _ => rfl) (fun _ _ => rfl) fun now e hlegible => ?_
  · cases e <;> simp [Effect.stage]
  · cases e <;> simp [ofSave?]
  · rw [effect_eq, if_pos hlegible]
    rfl

/-! ### The order of responses -/

theorem RawRow.savedLe_iff {a b : RawRow} : savedLe a b = true ↔
    a.savedAt < b.savedAt ∨ a.savedAt = b.savedAt ∧ a.id ≤ b.id := by
  unfold savedLe
  split
  · next heq => simp [heq, nameLe_iff]
  · next hne =>
    rw [decide_eq_true_iff]
    omega

theorem RawRow.savedLe_trans (a b c : RawRow) (hab : savedLe a b = true)
    (hbc : savedLe b c = true) : savedLe a c = true := by
  rw [savedLe_iff] at *
  rcases hab with hab | ⟨hab, hle⟩ <;> rcases hbc with hbc | ⟨hbc, hle'⟩
  · exact .inl (by omega)
  · exact .inl (by omega)
  · exact .inl (by omega)
  · exact .inr ⟨hab.trans hbc, String.le_trans hle hle'⟩

theorem RawRow.savedLe_total (a b : RawRow) : (savedLe a b || savedLe b a) = true := by
  rw [Bool.or_eq_true, savedLe_iff, savedLe_iff]
  rcases Int.lt_trichotomy a.savedAt b.savedAt with hlt | heq | hgt
  · exact .inl (.inl hlt)
  · exact (String.le_total a.id b.id).imp (fun h => .inr ⟨heq, h⟩) fun h => .inr ⟨heq.symm, h⟩
  · exact .inr (.inl hgt)

theorem RawRow.pairwise_mergeSort {t : Table RawRow} (h : t.keys.Nodup) (test : RawRow → Bool) :
    ((t.rows.filter test).mergeSort savedLe).Pairwise fun a b =>
      a.savedAt < b.savedAt ∨ a.savedAt = b.savedAt ∧ a.id < b.id := by
  have hle := List.pairwise_mergeSort savedLe_trans savedLe_total (t.rows.filter test)
  have hne := (Table.pairwise_filter_ne h test).perm (List.mergeSort_perm _ savedLe).symm Ne.symm
  refine (hle.and hne).imp fun {a b} ⟨hab, hne⟩ => ?_
  exact (savedLe_iff.mp hab).imp_right fun ⟨heq, hid⟩ => ⟨heq, Std.lt_of_le_of_ne hid hne⟩

/-! ## The whole store -/

namespace Store

/-- Reads, listings and sizes say what was saved last, and no table answers for another. -/
structure KeyedMaps (saves : List Save) (s : Store) : Prop where
  get_eq : ∀ stage id, s.get stage id =
    .ok ((Save.latest? saves stage id).map fun x => x.effect.reread)
  list_eq : ∀ stage id, ∃ current, Save.Listing saves stage id current ∧
    s.list stage id = .ok (current.map fun x => x.effect.reread)
  size_eq : ∀ stage, s.sizes.lookup stage.table = some (Save.ids saves stage).card
  apart : ∀ now e stage, e.stage ≠ stage → (s.save now e).get stage = s.get stage ∧
    (s.save now e).list stage = s.list stage ∧
    (s.save now e).sizes.lookup stage.table = s.sizes.lookup stage.table

variable {saves : List Save}

theorem list_ofSaves (h : ∀ x ∈ saves, x.effect.Legible) (stage : Stage) (id : String) :
    ∃ current, Save.Listing saves stage id current ∧
      (ofSaves saves).list stage id = .ok (current.map fun x => x.effect.reread) := by
  rw [ofSaves_eq]
  cases stage with
  | fetch =>
    refine RawRow.holdsStage.exists_listing h (fun r => ?_)
      (RawRow.pairwise_mergeSort (Table.nodup_keys_putAll_empty _) _) ?_
    · rw [List.mem_mergeSort, List.mem_filter]
      rfl
    · rintro ⟨now, e⟩ ⟨later, f⟩ r q hr hq hrq
      cases e <;> cases hr
      cases f <;> cases hq
      exact hrq.imp_right fun ⟨hsecond, hid⟩ => ⟨hsecond, Utf8.encode_lt_iff.mpr hid⟩
  | extract => exact ExtractionRow.holdsStage.exists_listing_select h id fun _ _ hid => hid
  | derive => exact DerivationRow.holdsStage.exists_listing_select h id fun _ _ hid => hid
  | claim => exact ClaimRow.holdsStage.exists_listing_select h id fun _ _ hid => hid

theorem get_ofSaves (h : ∀ x ∈ saves, x.effect.Legible) (stage : Stage) (id : String) :
    (ofSaves saves).get stage id =
      .ok ((Save.latest? saves stage id).map fun x => x.effect.reread) := by
  rw [ofSaves_eq]
  cases stage with
  | fetch => exact RawRow.holdsStage.read_get h id
  | extract => exact ExtractionRow.holdsStage.read_get h id
  | derive => exact DerivationRow.holdsStage.read_get h id
  | claim => exact ClaimRow.holdsStage.read_get h id

theorem size_ofSaves (saves : List Save) (stage : Stage) :
    (ofSaves saves).sizes.lookup stage.table = some (Save.ids saves stage).card := by
  rw [ofSaves_eq]
  cases stage with
  | fetch => exact congrArg some (RawRow.holdsStage.size_eq saves)
  | extract => exact congrArg some (ExtractionRow.holdsStage.size_eq saves)
  | derive => exact congrArg some (DerivationRow.holdsStage.size_eq saves)
  | claim => exact congrArg some (ClaimRow.holdsStage.size_eq saves)

theorem save_apart (s : Store) (now : Moment) {e : Effect} {stage : Stage} (h : e.stage ≠ stage) :
    (s.save now e).get stage = s.get stage ∧ (s.save now e).list stage = s.list stage ∧
      (s.save now e).sizes.lookup stage.table = s.sizes.lookup stage.table := by
  cases stage <;> cases e <;> first | exact absurd rfl h | exact ⟨rfl, rfl, rfl⟩

theorem keyedMaps_ofSaves (h : ∀ x ∈ saves, x.effect.Legible) :
    KeyedMaps saves (ofSaves saves) where
  get_eq := get_ofSaves h
  list_eq := list_ofSaves h
  size_eq := size_ofSaves saves
  apart now _ _ hne := save_apart _ now hne

/-! ### An extraction that is saved again for another response -/

def sampleExtraction (responseId : String) : Effect :=
  .extraction {
    id := "ext-1", tool := "extract.page", callId := "page/extract", sourceCallId := "page"
    responseId := responseId, kind := "tokens", canonical := none, payload := .null, chain := []
    durationMs := 0 }

def moved : List Save := [
  ⟨⟨0, 0⟩, sampleExtraction "raw-1"⟩, ⟨⟨1, 0⟩, .raw (.blank "raw-2" "page" "fixture://page")⟩,
  ⟨⟨2, 0⟩, sampleExtraction "raw-2"⟩]

theorem legible_moved : ∀ x ∈ moved, x.effect.Legible := by
  intro x hx
  rcases List.mem_cons.mp hx with rfl | hx
  · exact ⟨by decide, by decide⟩
  · rcases List.mem_cons.mp hx with rfl | hx
    · trivial
    · obtain rfl := List.mem_singleton.mp hx
      exact ⟨by decide, by decide⟩

theorem moved_keyedMaps : (∀ x ∈ moved, x.effect.Legible) ∧
    (ofSaves moved).get .extract "ext-1" = .ok (some (sampleExtraction "raw-2").reread) ∧
    (ofSaves moved).sizes.lookup "extractions" = some 1 :=
  ⟨legible_moved, (keyedMaps_ofSaves legible_moved).get_eq .extract "ext-1",
    (keyedMaps_ofSaves legible_moved).size_eq .extract⟩

end Store

end Lemmata
