import Lemmata.Proofs.Store.Rows

/-! # What single statements do to the store -/

namespace Lemmata

/-! ## Tables -/

namespace Table

variable {α : Type} [Keyed α] {t : Table α} {row r : α} {key : String}

theorem get?_put_self (t : Table α) (row : α) : (t.put row).get? (Keyed.key row) = some row := by
  simp [put, get?]

theorem get?_put_of_ne (h : Keyed.key row ≠ key) : (t.put row).get? key = t.get? key := by
  simp only [put, get?, erase]
  rw [List.find?_cons_of_neg (by simpa using h), List.find?_filter]
  congr 1
  funext r
  by_cases hr : Keyed.key r = key
  · simp [hr, Ne.symm h]
  · simp [hr]

theorem mem_of_get? (h : t.get? key = some row) : row ∈ t.rows ∧ Keyed.key row = key :=
  ⟨List.mem_of_find?_eq_some h, by simpa using List.find?_some h⟩

theorem mem_put (h : r ∈ (t.put row).rows) :
    r = row ∨ r ∈ t.rows ∧ Keyed.key r ≠ Keyed.key row := by
  rcases List.mem_cons.mp h with rfl | h
  · exact .inl rfl
  · obtain ⟨hmem, hne⟩ := List.mem_filter.mp h
    exact .inr ⟨hmem, by simpa using hne⟩

theorem isSome_get?_put (row : α) (h : (t.get? key).isSome = true) :
    ((t.put row).get? key).isSome = true := by
  by_cases heq : Keyed.key row = key
  · rw [← heq, get?_put_self, Option.isSome_some]
  · rwa [get?_put_of_ne heq]

end Table

/-! ## Statements -/

/-- What changes the store in one piece. -/
inductive Statement where
  | write (now : Moment) (effect : Effect)
  | remember (now : Moment) (executed : ExecutedPlan)
  | touch (now : Moment) (hash : String)
  | prune (cutoff : Moment)

def Statement.run (s : Store) : Statement → Store
  | write now effect => s.save now effect
  | remember now executed => s.saveExecuted now executed
  | touch now hash => s.touch now hash
  | prune cutoff => (s.prune cutoff).1

def Statement.runAll (s : Store) (xs : List Statement) : Store :=
  xs.foldl run s

namespace Store

variable {s : Store} {stage : Stage} {id hash : String} {row : PlanRow} {x : Statement}
variable {xs : List Statement}

/-! ### Effects -/

def Holds (s : Store) (stage : Stage) (id : String) : Prop :=
  match stage with
  | .fetch => (s.raws.get? id).isSome = true
  | .extract => (s.extractions.get? id).isSome = true
  | .derive => (s.derivations.get? id).isSome = true
  | .claim => (s.claims.get? id).isSome = true

/-- The row of the effect is there as it was written at this time. -/
def HasRow (s : Store) (now : Moment) : Effect → Prop
  | .raw e => s.raws.get? e.id = some (.ofEffect now.second e)
  | .extraction e => s.extractions.get? e.id = some (.ofEffect e)
  | .derivation e => s.derivations.get? e.id = some (.ofEffect e)
  | .claim e => s.claims.get? e.id = some (.ofEffect e)

theorem hasRow_save (s : Store) (now : Moment) (e : Effect) : (s.save now e).HasRow now e := by
  cases e with
  | raw e => exact Table.get?_put_self s.raws (.ofEffect now.second e)
  | extraction e => exact Table.get?_put_self s.extractions (.ofEffect e)
  | derivation e => exact Table.get?_put_self s.derivations (.ofEffect e)
  | claim e => exact Table.get?_put_self s.claims (.ofEffect e)

/-- Only an effect of the same stage and ID replaces a row. -/
theorem HasRow.save {now later : Moment} {e f : Effect} (h : s.HasRow now e)
    (hne : f.stage = e.stage → f.id ≠ e.id) : (s.save later f).HasRow now e := by
  cases e <;> cases f
  case raw.raw e f => exact (Table.get?_put_of_ne (hne rfl)).trans h
  case extraction.extraction e f => exact (Table.get?_put_of_ne (hne rfl)).trans h
  case derivation.derivation e f => exact (Table.get?_put_of_ne (hne rfl)).trans h
  case claim.claim e f => exact (Table.get?_put_of_ne (hne rfl)).trans h
  all_goals exact h

theorem HasRow.holds {now : Moment} {e : Effect} (h : s.HasRow now e) : s.Holds e.stage e.id := by
  cases e <;> exact Option.isSome_of_eq_some h

theorem holds_save (s : Store) (now : Moment) (e : Effect) : (s.save now e).Holds e.stage e.id :=
  (hasRow_save s now e).holds

theorem plans_save (s : Store) (now : Moment) (e : Effect) : (s.save now e).plans = s.plans := by
  cases e <;> rfl

theorem touch_eq (s : Store) (now : Moment) (hash : String) :
    s.touch now hash = { s with plans := (s.touch now hash).plans } := by
  unfold touch
  split <;> rfl

/-- No statement drops the row of an effect. -/
theorem Holds.run (h : s.Holds stage id) (x : Statement) : (x.run s).Holds stage id := by
  cases x with
  | remember now executed => exact h
  | prune cutoff => exact h
  | touch now hash =>
    rw [Statement.run, touch_eq]
    exact h
  | write now e =>
    cases stage <;> cases e <;> first | exact h | exact Table.isSome_get?_put _ h

section

variable {α β : Type} [Keyed α] {t : Table α} {new : α} {effect : α → Except Failure β}

theorem read_put_of_ne (wrap : β → Effect) (h : Keyed.key new ≠ id) :
    (readRow effect ((t.put new).get? id)).map (·.map wrap) =
      (readRow effect (t.get? id)).map (·.map wrap) := by
  rw [Table.get?_put_of_ne h]

theorem read_put_self {e : β} (wrap : β → Effect) (h : effect new = .ok e) :
    (readRow effect ((t.put new).get? (Keyed.key new))).map (·.map wrap) = .ok (some (wrap e)) := by
  rw [Table.get?_put_self, readRow, h]
  rfl

end

theorem get_touch (now : Moment) (hash : String) :
    (s.touch now hash).get stage id = s.get stage id := by
  rw [touch_eq]
  rfl

theorem get_run (h : ∀ now e, x = .write now e → e.stage = stage → e.id ≠ id) :
    (x.run s).get stage id = s.get stage id := by
  cases x with
  | remember now executed => rfl
  | prune cutoff => rfl
  | touch now hash => exact get_touch now hash
  | write now e =>
    have hid := h now e rfl
    cases e with
    | raw e =>
      cases stage with
      | fetch => exact read_put_of_ne _ (hid rfl)
      | _ => rfl
    | extraction e =>
      cases stage with
      | extract => exact read_put_of_ne _ (hid rfl)
      | _ => rfl
    | derivation e =>
      cases stage with
      | derive => exact read_put_of_ne _ (hid rfl)
      | _ => rfl
    | claim e =>
      cases stage with
      | claim => exact read_put_of_ne _ (hid rfl)
      | _ => rfl

theorem get_runAll (h : ∀ x ∈ xs, ∀ now e, x = .write now e → e.stage = stage → e.id ≠ id) :
    (Statement.runAll s xs).get stage id = s.get stage id := by
  induction xs generalizing s with
  | nil => rfl
  | cons x rest ih =>
    have hrest := ih (s := x.run s) fun x hx => h x (List.mem_cons_of_mem _ hx)
    exact hrest.trans (get_run (h x List.mem_cons_self))

theorem get_save_stored {now : Moment} {e : Effect} (h : e.Readable) :
    (s.save now e).get e.stage e.id = .ok (some e.stored) := by
  cases e with
  | raw e => exact read_put_self Effect.raw (RawRow.effect_ofEffect now.second e)
  | extraction e => exact read_put_self Effect.extraction (ExtractionRow.effect_ofEffect h)
  | derivation e => exact read_put_self Effect.derivation (DerivationRow.effect_ofEffect h)
  | claim e => exact read_put_self Effect.claim (ClaimRow.effect_ofEffect h)

theorem get_save {now : Moment} {e : Effect} (h : e.Lasting) :
    (s.save now e).get e.stage e.id = .ok (some e) := by
  rw [get_save_stored h.readable, h.stored_eq]

/-- A row that is only ever written with this effect holds it. -/
theorem get_runAll_stored {e : Effect} (h : e.Readable) (hwritten : ∃ now, .write now e ∈ xs)
    (hsame : ∀ now f, .write now f ∈ xs → f.stage = e.stage → f.id = e.id → f = e) :
    (Statement.runAll s xs).get e.stage e.id = .ok (some e.stored) := by
  induction xs generalizing s with
  | nil => exact (List.not_mem_nil hwritten.choose_spec).elim
  | cons x rest ih =>
    change (Statement.runAll (x.run s) rest).get e.stage e.id = _
    by_cases hlater : ∃ now, .write now e ∈ rest
    · exact ih hlater fun now f hf => hsame now f (List.mem_cons_of_mem _ hf)
    · -- This was the last time.
      obtain ⟨now, hnow⟩ := hwritten
      obtain rfl : .write now e = x :=
        (List.mem_cons.mp hnow).resolve_right fun hrest => hlater ⟨now, hrest⟩
      rw [get_runAll]
      · exact get_save_stored h
      · rintro y hy later f rfl hstage hid
        obtain rfl := hsame later f (List.mem_cons_of_mem _ hy) hstage hid
        exact hlater ⟨later, hy⟩

theorem readRow_ne_none {α β : Type} {effect : α → Except Failure β} {row : Option α}
    (h : row.isSome = true) : readRow effect row ≠ .ok none := by
  obtain ⟨r, rfl⟩ := Option.isSome_iff_exists.mp h
  intro hread
  cases hr : effect r <;> simp [readRow, hr, Except.map] at hread

theorem map_ne_none {α β : Type} {found : Except Failure (Option α)} {f : α → β}
    (h : found ≠ .ok none) : found.map (·.map f) ≠ .ok none := by
  intro hmap
  cases found with
  | error failure => cases hmap
  | ok row =>
    cases row with
    | none => exact h rfl
    | some a => simp [Except.map] at hmap

/-- A row that is there can be unreadable, but not missing. -/
theorem get_ne_none (h : s.Holds stage id) : s.get stage id ≠ .ok none := by
  cases stage <;> exact map_ne_none (readRow_ne_none h)

/-! ### The cache of plans -/

/-- The same entry, accessed at some time. -/
def IsEntry (row entry : PlanRow) : Prop :=
  ∃ access, row = { entry with lastAccess := access }

theorem IsEntry.refl (row : PlanRow) : IsEntry row row := ⟨row.lastAccess, rfl⟩

theorem IsEntry.hash_eq {entry : PlanRow} (h : IsEntry row entry) : row.hash = entry.hash := by
  obtain ⟨access, rfl⟩ := h
  rfl

theorem IsEntry.trans {old entry : PlanRow} (h : IsEntry row old) (hold : IsEntry old entry) :
    IsEntry row entry := by
  obtain ⟨later, rfl⟩ := h
  obtain ⟨access, rfl⟩ := hold
  exact ⟨later, rfl⟩

/-- An entry was there before the statement, or it is what a run remembers. -/
theorem mem_plans_run (h : row ∈ (x.run s).plans.rows) :
    (∃ old ∈ s.plans.rows, IsEntry row old) ∨
      ∃ now executed, x = .remember now executed ∧ row = .ofExecuted now executed := by
  cases x with
  | write now e =>
    refine .inl ⟨row, ?_, .refl row⟩
    cases e <;> exact h
  | remember now executed =>
    rcases Table.mem_put h with rfl | ⟨hmem, -⟩
    · exact .inr ⟨now, executed, rfl, rfl⟩
    · exact .inl ⟨row, hmem, .refl row⟩
  | touch now hash =>
    rw [Statement.run, touch] at h
    split at h
    · exact .inl ⟨row, h, .refl row⟩
    · next old hold =>
      rcases Table.mem_put h with rfl | ⟨hmem, -⟩
      · exact .inl ⟨old, (Table.mem_of_get? hold).1, now.text, rfl⟩
      · exact .inl ⟨row, hmem, .refl row⟩
  | prune cutoff => exact .inl ⟨row, (List.mem_filter.mp h).1, .refl row⟩

theorem isEntry_saveExecuted {now : Moment} {e : ExecutedPlan} :
    ∀ row ∈ (s.saveExecuted now e).plans.rows, row.hash = e.planHash →
      IsEntry row (.ofExecuted now e) := by
  intro row hrow hhash
  rcases Table.mem_put hrow with rfl | ⟨-, hne⟩
  · exact .refl _
  · exact absurd hhash hne

/-- An entry that no statement replaces is there as it was, or not at all. -/
theorem isEntry_runAll {entry : PlanRow}
    (hs : ∀ row ∈ s.plans.rows, row.hash = entry.hash → IsEntry row entry)
    (h : ∀ x ∈ xs, ∀ now e, x = .remember now e → e.planHash ≠ entry.hash) :
    ∀ row ∈ (Statement.runAll s xs).plans.rows, row.hash = entry.hash → IsEntry row entry := by
  induction xs generalizing s with
  | nil => exact hs
  | cons x rest ih =>
    refine ih (s := x.run s) ?_ fun x hx => h x (List.mem_cons_of_mem _ hx)
    intro row hrow hhash
    rcases mem_plans_run hrow with ⟨old, hold, hentry⟩ | ⟨now, executed, hx, rfl⟩
    · exact hentry.trans (hs old hold (hentry.hash_eq ▸ hhash))
    · exact absurd hhash (h x List.mem_cons_self now executed hx)

end Store

end Lemmata
