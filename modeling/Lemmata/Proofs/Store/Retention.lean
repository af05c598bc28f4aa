import Lemmata.Proofs.Store.PlanEntries

/-! # What the cache of plans keeps, over any history of its calls -/

namespace Lemmata

/-! ## The latest item -/

/-- `P` holds of the item after those before it, and of no later one. -/
def Latest {α : Type} (P : List α → α → Prop) (xs : List α) (x : α) : Prop :=
  ∃ before after, xs = before ++ x :: after ∧ P before x ∧
    ∀ mid y rest, after = mid ++ y :: rest → ¬ P (before ++ x :: mid) y

namespace Latest

variable {α : Type} {P : List α → α → Prop} {xs before after : List α} {x y : α}

theorem concat_eq_iff : xs ++ [y] = before ++ x :: after ↔
    (xs = before ∧ y = x ∧ after = []) ∨ ∃ mid, after = mid ++ [y] ∧ xs = before ++ x :: mid := by
  constructor
  · intro h
    rcases List.eq_nil_or_concat after with rfl | ⟨mid, z, rfl⟩
    · obtain ⟨rfl, hy⟩ := List.append_inj' h rfl
      exact .inl ⟨rfl, List.head_eq_of_cons_eq hy, rfl⟩
    · rw [List.concat_eq_append, ← List.cons_append, ← List.append_assoc] at h
      obtain ⟨rfl, hy⟩ := List.append_inj' h rfl
      obtain rfl := List.head_eq_of_cons_eq hy
      exact .inr ⟨mid, List.concat_eq_append, rfl⟩
  · rintro (⟨rfl, rfl, rfl⟩ | ⟨mid, rfl, rfl⟩)
    · rfl
    · simp

theorem not_nil : ¬ Latest P [] x := by
  rintro ⟨before, after, h, -⟩
  simp at h

theorem concat_iff : Latest P (xs ++ [y]) x ↔ P xs y ∧ y = x ∨ ¬ P xs y ∧ Latest P xs x := by
  constructor
  · rintro ⟨before, after, h, hx, hlater⟩
    rcases concat_eq_iff.mp h with ⟨rfl, rfl, rfl⟩ | ⟨mid, rfl, rfl⟩
    · exact .inl ⟨hx, rfl⟩
    · refine .inr ⟨hlater mid y [] rfl, before, mid, rfl, hx, ?_⟩
      rintro first z rest rfl
      exact hlater first z (rest ++ [y]) (by simp)
  · rintro (⟨hy, rfl⟩ | ⟨hy, before, after, rfl, hx, hlater⟩)
    · exact ⟨xs, [], rfl, hy, fun mid z rest h => by simp at h⟩
    · refine ⟨before, after ++ [y], by simp, hx, fun mid z rest h => ?_⟩
      rcases concat_eq_iff.mp h with ⟨rfl, rfl, rfl⟩ | ⟨first, rfl, rfl⟩
      · exact hy
      · exact hlater mid z first rfl

theorem unique (hx : Latest P xs x) (hy : Latest P xs y) : x = y := by
  induction xs using List.reverseRecOn with
  | nil => exact absurd hx not_nil
  | append_singleton xs z ih =>
    rcases concat_iff.mp hx with ⟨hz, rfl⟩ | ⟨hz, hx⟩ <;>
      rcases concat_iff.mp hy with ⟨hz', rfl⟩ | ⟨hz', hy⟩
    · rfl
    · exact absurd hz hz'
    · exact absurd hz' hz
    · exact ih hx hy

theorem mem (h : Latest P xs x) : x ∈ xs := by
  obtain ⟨before, after, rfl, -⟩ := h
  exact List.mem_append_right _ List.mem_cons_self

theorem eq_or_mem (h : Latest P (before ++ y :: after) x) (hy : P before y) :
    x = y ∨ x ∈ after := by
  induction after using List.reverseRecOn with
  | nil =>
    rcases concat_iff.mp h with ⟨-, rfl⟩ | ⟨hn, -⟩
    · exact .inl rfl
    · exact absurd hy hn
  | append_singleton after z ih =>
    rw [← List.cons_append, ← List.append_assoc] at h
    rcases concat_iff.mp h with ⟨-, rfl⟩ | ⟨-, h⟩
    · exact .inr (List.mem_append_right _ List.mem_cons_self)
    · exact (ih h).imp_right (List.mem_append_left _)

end Latest

/-! ## Histories -/

/-- A call of the cache, with what the clock says then. -/
inductive CacheCall where
  | save (now : Moment) (executed : ExecutedPlan)
  | find (now : Moment) (hash : String)
  | prune (now cutoff : Moment)

namespace CacheCall

def now : CacheCall → Moment
  | save now _ | find now _ | prune now _ => now

def after (s : Store) : CacheCall → Store
  | save now executed => s.saveExecuted now executed
  | find now hash => (s.findExecuted now hash).1
  | prune _ cutoff => (s.prune cutoff).1

def Saves (hash : String) : CacheCall → Prop
  | save _ executed => executed.planHash = hash
  | find _ _ | prune _ _ => False

/-- Saves the entry, or looks it up and finds it in the store. -/
def Accesses (s : Store) (hash : String) : CacheCall → Prop
  | save _ executed => executed.planHash = hash
  | find now other => other = hash ∧ (s.findExecuted now other).2 ≠ .ok none
  | prune _ _ => False

end CacheCall

namespace Store

def afterCalls (s : Store) (calls : List CacheCall) : Store :=
  calls.foldl CacheCall.after s

variable {start : Store} {calls before : List CacheCall} {c access : CacheCall} {hash : String}
variable {now cutoff : Moment} {e : ExecutedPlan}

theorem afterCalls_concat (start : Store) (calls : List CacheCall) (c : CacheCall) :
    start.afterCalls (calls ++ [c]) = c.after (start.afterCalls calls) :=
  List.foldl_append

def LastSave (calls : List CacheCall) (hash : String) : CacheCall → Prop :=
  Latest (fun _ c => c.Saves hash) calls

/-- The most recent save of the hash, or look-up that found it. -/
def LastAccess (start : Store) (calls : List CacheCall) (hash : String) : CacheCall → Prop :=
  Latest (fun before c => c.Accesses (start.afterCalls before) hash) calls

/-- The hash was saved, and no pruning since then had a cutoff later than the last access before
it. -/
def Retains (start : Store) (calls : List CacheCall) (hash : String) : Prop :=
  ∃ before now e after, calls = before ++ .save now e :: after ∧ e.planHash = hash ∧
    (∀ c ∈ after, ¬ c.Saves hash) ∧
    ∀ mid later cutoff rest, after = mid ++ .prune later cutoff :: rest →
      ∃ access, LastAccess start (before ++ .save now e :: mid) hash access ∧
        cutoff.tick ≤ access.now.tick

/-- The clock does not go back and shows years of four digits, and no cutoff lies ahead of it. -/
structure Timely (calls : List CacheCall) : Prop where
  clock : calls.Pairwise fun c d => c.now.tick ≤ d.now.tick
  shown : ∀ c ∈ calls, c.now.InFourDigits
  cutoff : ∀ now cutoff, .prune now cutoff ∈ calls → cutoff.IsProper ∧ cutoff.tick ≤ now.tick

theorem Timely.left {after : List CacheCall} (h : Timely (calls ++ after)) : Timely calls where
  clock := (List.pairwise_append.mp h.clock).1
  shown c hc := h.shown c (List.mem_append_left _ hc)
  cutoff now cutoff hc := h.cutoff now cutoff (List.mem_append_left _ hc)

theorem not_retains_nil : ¬ Retains start [] hash := by
  rintro ⟨before, now, e, after, h, -⟩
  simp at h

/-- Whether an entry is kept is known from the history so far and from the next call. -/
theorem retains_concat_iff : Retains start (calls ++ [c]) hash ↔ c.Saves hash ∨
    ¬ c.Saves hash ∧ Retains start calls hash ∧ ∀ now cutoff, c = .prune now cutoff →
      ∃ access, LastAccess start calls hash access ∧ cutoff.tick ≤ access.now.tick := by
  constructor
  · rintro ⟨before, now, e, after, h, hhash, hsaves, hprunes⟩
    rcases Latest.concat_eq_iff.mp h with ⟨rfl, rfl, rfl⟩ | ⟨mid, rfl, rfl⟩
    · exact .inl hhash
    · refine .inr ⟨hsaves c (by simp), ⟨before, now, e, mid, rfl, hhash, ?_, ?_⟩, ?_⟩
      · exact fun d hd => hsaves d (List.mem_append_left _ hd)
      · rintro first later cutoff rest rfl
        exact hprunes first later cutoff (rest ++ [c]) (by simp)
      · rintro later cutoff rfl
        exact hprunes mid later cutoff [] rfl
  · rintro (hsaves | ⟨hc, ⟨before, now, e, after, rfl, hhash, hsaves, hprunes⟩, hprune⟩)
    · cases c with
      | save now e =>
        exact ⟨calls, now, e, [], rfl, hsaves, fun c hc => absurd hc List.not_mem_nil,
          fun mid later cutoff rest h => by simp at h⟩
      | find now other => exact hsaves.elim
      | prune now cutoff => exact hsaves.elim
    · refine ⟨before, now, e, after ++ [c], by simp, hhash, fun d hd => ?_, ?_⟩
      · rcases List.mem_append.mp hd with hd | hd
        · exact hsaves d hd
        · rwa [List.mem_singleton.mp hd]
      · intro mid later cutoff rest h
        rcases Latest.concat_eq_iff.mp h with ⟨rfl, rfl, rfl⟩ | ⟨first, rfl, rfl⟩
        · exact hprune later cutoff rfl
        · exact hprunes mid later cutoff first rfl

/-! ## One call -/

theorem nodup_after (h : start.plans.keys.Nodup) (c : CacheCall) :
    (c.after start).plans.keys.Nodup := by
  cases c with
  | save now e => exact nodup_saveExecuted h now e
  | find now hash => exact nodup_touch h now hash
  | prune now cutoff => exact nodup_prune h cutoff

/-- What the row of a hash has to be: what was saved last, under the time of the last access. -/
inductive Entry (start : Store) (calls : List CacheCall) (hash : String) : Option PlanRow → Prop
  | gone (hgone : ¬ Retains start calls hash) : Entry start calls hash none
  | kept {saved : Moment} {e : ExecutedPlan} (access : CacheCall)
      (hkept : Retains start calls hash) (hsave : LastSave calls hash (.save saved e))
      (haccess : LastAccess start calls hash access) :
      Entry start calls hash (some (.ofExecuted access.now e))

namespace Entry

variable {row : Option PlanRow}

theorem idle (h : Entry start calls hash row) (hsaves : ¬ c.Saves hash)
    (haccesses : ¬ c.Accesses (start.afterCalls calls) hash)
    (hprune : ∀ now cutoff, c ≠ .prune now cutoff) : Entry start (calls ++ [c]) hash row := by
  have hretains : Retains start (calls ++ [c]) hash ↔ Retains start calls hash := by
    rw [retains_concat_iff]
    simp [hsaves, hprune]
  cases h with
  | gone hgone => exact .gone (mt hretains.mp hgone)
  | kept access hkept hsave haccess =>
    exact .kept access (hretains.mpr hkept) (Latest.concat_iff.mpr (.inr ⟨hsaves, hsave⟩))
      (Latest.concat_iff.mpr (.inr ⟨haccesses, haccess⟩))

theorem save (now : Moment) (e : ExecutedPlan) :
    Entry start (calls ++ [.save now e]) e.planHash (some (.ofExecuted now e)) :=
  .kept (.save now e) (retains_concat_iff.mpr (.inl rfl)) (Latest.concat_iff.mpr (.inl ⟨rfl, rfl⟩))
    (Latest.concat_iff.mpr (.inl ⟨rfl, rfl⟩))

theorem find (h : Entry start calls hash ((start.afterCalls calls).plans.get? hash)) :
    Entry start (calls ++ [.find now hash]) hash
      (((start.afterCalls calls).touch now hash).plans.get? hash) := by
  have hhit : (CacheCall.find now hash).Accesses (start.afterCalls calls) hash ↔
      ((start.afterCalls calls).plans.get? hash).isSome = true := by
    simp only [CacheCall.Accesses, findExecuted_ne_none_iff, true_and]
    rfl
  rw [plans_get?_touch]
  cases hrow : (start.afterCalls calls).plans.get? hash with
  | none =>
    rw [hrow] at h hhit
    exact h.idle not_false (mt hhit.mp Bool.false_ne_true) nofun
  | some row =>
    rw [hrow] at h hhit
    cases h with
    | kept access hkept hsave haccess =>
      exact .kept (.find now hash) (retains_concat_iff.mpr (.inr ⟨not_false, hkept, nofun⟩))
        (Latest.concat_iff.mpr (.inr ⟨not_false, hsave⟩))
        (Latest.concat_iff.mpr (.inl ⟨hhit.mpr rfl, rfl⟩))

theorem prune (ht : Timely (calls ++ [.prune now cutoff])) (h : Entry start calls hash row) :
    Entry start (calls ++ [.prune now cutoff]) hash
      (row.filter fun row => !row.isOlderThan cutoff) := by
  obtain ⟨hproper, hahead⟩ := ht.cutoff now cutoff (by simp)
  have hyear : cutoff.date.year ≤ 9999 :=
    (Moment.year_le_of_tick_le hahead).trans (ht.shown (.prune now cutoff) (by simp)).year_le
  cases h with
  | gone hgone =>
    exact .gone fun h => hgone ((retains_concat_iff.mp h).resolve_left not_false).2.1
  | @kept _ e access hkept hsave haccess =>
    have hshown := ht.shown access (List.mem_append_left _ haccess.mem)
    have hold : (PlanRow.ofExecuted access.now e).isOlderThan cutoff = true ↔
        access.now.tick < cutoff.tick :=
      isOlderThan_iff hshown hproper hyear rfl
    by_cases hlt : access.now.tick < cutoff.tick
    · rw [Option.filter_some, hold.mpr hlt]
      refine .gone fun h => ?_
      obtain ⟨-, -, hcutoffs⟩ := (retains_concat_iff.mp h).resolve_left not_false
      obtain ⟨other, hother, hle⟩ := hcutoffs now cutoff rfl
      obtain rfl := haccess.unique hother
      exact absurd hlt (not_lt.mpr hle)
    · rw [Option.filter_some, Bool.eq_false_iff.mpr (mt hold.mp hlt)]
      refine .kept access (retains_concat_iff.mpr (.inr ⟨not_false, hkept, ?_⟩))
        (Latest.concat_iff.mpr (.inr ⟨not_false, hsave⟩))
        (Latest.concat_iff.mpr (.inr ⟨not_false, haccess⟩))
      rintro _ _ ⟨⟩
      exact ⟨access, haccess, not_lt.mp hlt⟩

/-- Each call leaves every entry as it has to be. -/
theorem concat (hkeys : (start.afterCalls calls).plans.keys.Nodup) (ht : Timely (calls ++ [c]))
    (h : Entry start calls hash ((start.afterCalls calls).plans.get? hash)) :
    Entry start (calls ++ [c]) hash ((start.afterCalls (calls ++ [c])).plans.get? hash) := by
  rw [afterCalls_concat]
  cases c with
  | save now e =>
    by_cases heq : e.planHash = hash
    · subst heq
      rw [CacheCall.after, plans_get?_saveExecuted]
      exact save now e
    · rw [CacheCall.after, plans_get?_saveExecuted_of_ne now heq]
      exact h.idle heq heq nofun
  | find now other =>
    by_cases heq : other = hash
    · subst heq
      exact h.find
    · rw [CacheCall.after, findExecuted, plans_get?_touch_of_ne heq]
      exact h.idle not_false (fun haccess => heq haccess.1) nofun
  | prune now cutoff =>
    rw [CacheCall.after, plans_get?_prune hkeys]
    exact h.prune ht

end Entry

/-! ## Whole histories -/

theorem nodup_afterCalls (h : start.plans.keys.Nodup) (calls : List CacheCall) :
    (start.afterCalls calls).plans.keys.Nodup := by
  induction calls using List.reverseRecOn with
  | nil => exact h
  | append_singleton calls c ih =>
    rw [afterCalls_concat]
    exact nodup_after ih c

theorem entry_afterCalls (hstart : start.plans = .empty) (ht : Timely calls) (hash : String) :
    Entry start calls hash ((start.afterCalls calls).plans.get? hash) := by
  have hkeys : start.plans.keys.Nodup := by
    rw [hstart]
    exact List.nodup_nil
  induction calls using List.reverseRecOn with
  | nil =>
    change Entry start [] hash (start.plans.get? hash)
    rw [hstart]
    exact .gone not_retains_nil
  | append_singleton calls c ih => exact (ih ht.left).concat (nodup_afterCalls hkeys calls) ht

theorem effects_after (s : Store) (c : CacheCall) :
    c.after s = { s with plans := (c.after s).plans } := by
  cases c with
  | save now e => rfl
  | find now hash => exact touch_eq s now hash
  | prune now cutoff => rfl

theorem effects_afterCalls (start : Store) (calls : List CacheCall) :
    start.afterCalls calls = { start with plans := (start.afterCalls calls).plans } := by
  induction calls using List.reverseRecOn with
  | nil => rfl
  | append_singleton calls c ih =>
    rw [afterCalls_concat, effects_after, ih]

theorem wasAccessed_iff_retains (hstart : start.plans = .empty) (ht : Timely calls) :
    (start.afterCalls calls).wasAccessed hash = true ↔ Retains start calls hash := by
  have hentry := entry_afterCalls hstart ht hash
  unfold wasAccessed
  generalize (start.afterCalls calls).plans.get? hash = row at hentry
  cases hentry with
  | gone hgone => simpa using hgone
  | kept access hkept _ _ => simpa using hkept

theorem findExecuted_of_lastSave (hstart : start.plans = .empty) (ht : Timely calls)
    {saved : Moment} (hsave : LastSave calls hash (.save saved e))
    (hthere : (start.afterCalls calls).wasAccessed hash = true) (now : Moment) :
    ((start.afterCalls calls).findExecuted now hash).2 = .ok (some { e with
      durationMs := Column.readDuration e.durationMs.toInt64
      fromCache := false }) := by
  have hentry := entry_afterCalls hstart ht hash
  unfold wasAccessed at hthere
  unfold findExecuted
  generalize (start.afterCalls calls).plans.get? hash = row at hentry hthere
  cases hentry with
  | gone hgone => cases hthere
  | @kept _ e' access _ hsave' _ =>
    obtain ⟨-, rfl⟩ := CacheCall.save.inj (hsave.unique hsave')
    exact congrArg (Except.map some) (PlanRow.executed_ofExecuted access.now access.now.text e)

theorem outlives {first mid : List CacheCall} (hstart : start.plans = .empty)
    (ht : Timely (first ++ c :: mid ++ [.prune now cutoff]))
    (hc : c.Accesses (start.afterCalls first) hash) (hcutoff : cutoff.tick ≤ c.now.tick)
    (hthere : (start.afterCalls (first ++ c :: mid)).wasAccessed hash = true) :
    (start.afterCalls (first ++ c :: mid ++ [.prune now cutoff])).wasAccessed hash = true := by
  rw [wasAccessed_iff_retains hstart ht.left] at hthere
  have hentry := entry_afterCalls hstart ht.left hash
  rw [wasAccessed_iff_retains hstart ht, retains_concat_iff]
  refine .inr ⟨not_false, hthere, ?_⟩
  rintro _ _ ⟨⟩
  generalize (start.afterCalls (first ++ c :: mid)).plans.get? hash = row at hentry
  cases hentry with
  | gone hgone => exact absurd hthere hgone
  | kept access _ _ haccess =>
    refine ⟨access, haccess, hcutoff.trans ?_⟩
    rcases haccess.eq_or_mem hc with rfl | hmem
    · exact le_refl _
    · have hclock := (List.pairwise_append.mp ht.left.clock).2.1
      exact (List.pairwise_cons.mp hclock).1 access hmem

/-- Over any history that starts without entries: a hash has an entry just when it was saved and
each cutoff since then was met by the last access before it; the entry is what was saved last; a
pruning counts what it removes; and the effects stay as they are. An entry that was read or written
at or after a cutoff outlives the pruning. -/
theorem retention (hstart : start.plans = .empty) (ht : Timely calls) :
    (∀ hash, (start.afterCalls calls).wasAccessed hash = true ↔ Retains start calls hash) ∧
    (∀ hash saved e now, LastSave calls hash (.save saved e) →
      (start.afterCalls calls).wasAccessed hash = true →
      ∃ found, ((start.afterCalls calls).findExecuted now hash).2 = .ok (some found) ∧
        found.planHash = hash ∧ found.planId = e.planId ∧ found.references = e.references) ∧
    (∀ before now cutoff after, calls = before ++ .prune now cutoff :: after →
      ((start.afterCalls before).prune cutoff).2 =
        {hash | (start.afterCalls before).wasAccessed hash = true ∧
          (start.afterCalls (before ++ [.prune now cutoff])).wasAccessed hash = false}.ncard) ∧
    start.afterCalls calls = { start with plans := (start.afterCalls calls).plans } ∧
    ∀ first c mid now cutoff after hash,
      calls = first ++ c :: mid ++ .prune now cutoff :: after →
      c.Accesses (start.afterCalls first) hash → cutoff.tick ≤ c.now.tick →
      (start.afterCalls (first ++ c :: mid)).wasAccessed hash = true →
      (start.afterCalls (first ++ c :: mid ++ [.prune now cutoff])).wasAccessed hash = true := by
  refine ⟨fun hash => wasAccessed_iff_retains hstart ht, ?_, ?_, effects_afterCalls start calls,
    ?_⟩
  · intro hash saved e now hsave hthere
    refine ⟨_, findExecuted_of_lastSave hstart ht hsave hthere now, ?_, rfl, rfl⟩
    obtain ⟨_, _, _, hhash, _⟩ := hsave
    exact hhash
  · rintro before now cutoff after rfl
    have hkeys : (start.afterCalls before).plans.keys.Nodup := by
      refine nodup_afterCalls ?_ before
      rw [hstart]
      exact List.nodup_nil
    rw [afterCalls_concat]
    exact prune_count_eq_ncard hkeys cutoff
  · rintro first c mid now cutoff after hash rfl hc hcutoff hthere
    rw [List.append_cons] at ht
    exact outlives hstart ht.left hc hcutoff hthere

/-! ### A short history -/

def sampleExecuted (hash : String) : ExecutedPlan where
  planId := "p"
  planHash := hash
  references := []
  durationMs := 0
  fromCache := false

/-- Two entries are saved, and one of them is read again. The first pruning reaches back to a year
before the year 0; the second one has the microsecond of the reading as its cutoff. -/
def readAgain : List CacheCall := [
  .save ⟨10, 0⟩ (sampleExecuted "one"), .save ⟨10, 0⟩ (sampleExecuted "other"),
  .find ⟨20, 5000⟩ "one", .prune ⟨30, 0⟩ ⟨-99999999999, 0⟩, .prune ⟨40, 0⟩ ⟨20, 5999⟩]

theorem timely_readAgain : Timely readAgain where
  clock := by simp [readAgain, CacheCall.now, Moment.tick, Prod.Lex.toLex_le_toLex]
  shown c hc := by
    have hbounds : ∀ c ∈ readAgain, c.now.nano < 1000000000 ∧ 0 ≤ c.now.date.year ∧
        c.now.date.year ≤ 9999 := by
      decide
    obtain ⟨hnano, hyear, hyear'⟩ := hbounds c hc
    exact ⟨.inl hnano, hyear, hyear'⟩
  cutoff now cutoff hc := by
    simp only [readAgain, List.mem_cons, List.not_mem_nil, CacheCall.prune.injEq, reduceCtorEq,
      false_or, or_false] at hc
    rcases hc with ⟨rfl, rfl⟩ | ⟨rfl, rfl⟩ <;>
      exact ⟨.inl (by decide), Prod.Lex.toLex_le_toLex.mpr (by decide)⟩

theorem retention_readAgain : Store.empty.plans = .empty ∧ Timely readAgain ∧
    Retains .empty readAgain "one" ∧ ¬ Retains .empty readAgain "other" := by
  have hstart : Store.empty.plans = .empty := rfl
  obtain ⟨hretains, -⟩ := retention hstart timely_readAgain
  refine ⟨hstart, timely_readAgain, (hretains "one").mp (by decide +kernel), ?_⟩
  exact mt (hretains "other").mpr (by decide +kernel)

end Store

end Lemmata
