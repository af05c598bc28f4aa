import Lemmata.Config
import Lemmata.Proofs.Run.Deadline
import Lemmata.Proofs.Toml.CountLines
import Lemmata.Proofs.Toml.Integers

/-! # Which configurations a run can be set up with -/

namespace Lemmata

namespace Config

variable {text : String} {c : Config} {readings : Readings} {m n : Nat}

/-! ## The counts of a configuration -/

theorem setting_lt {members : List (String × Toml)} {name : String} {default : Nat}
    (hmembers : ∀ entry ∈ members, entry.2.Fits) (hdefault : default < 0x8000000000000000)
    (h : setting members name readCount default = some n) : n < 0x8000000000000000 := by
  unfold setting at h
  split at h
  · cases h
    exact hdefault
  · next v hlookup =>
    obtain ⟨before, after, rfl, -⟩ := List.lookup_eq_some_iff.mp hlookup
    have hfits : v.Fits := hmembers (name, v) (by simp)
    unfold readCount at h
    split at h
    · next k =>
      have hk : k < 0x8000000000000000 := hfits
      split_ifs at h
      cases h
      omega
    · cases h

theorem counts_lt (h : parse? text = some c) :
    c.maxConcurrency < 0x8000000000000000 ∧ c.planTimeoutSecs < 0x8000000000000000 := by
  obtain ⟨members, hmembers, hc⟩ := Option.bind_eq_some_iff.mp h
  have hfits := Toml.fits_of_parse? hmembers
  simp only [ofMembers?, Option.bind_eq_bind, Option.bind_eq_some_iff, Option.some.injEq] at hc
  obtain ⟨_, -, _, -, _, -, _, -, concurrency, hconcurrency, timeout, htimeout, _, -, _, -, _, -,
    rfl⟩ := hc
  exact ⟨setting_lt hfits (by decide) hconcurrency, setting_lt hfits (by decide) htimeout⟩

def countsText (concurrency timeout : Nat) : String :=
  String.ofList (Toml.Reader.countLine "max_concurrency" concurrency ++
    Toml.Reader.countLine "plan_timeout_secs" timeout)

/-- Every two counts of 63 bits can be set. -/
theorem parse?_countsText (hm : m < 0x8000000000000000) (hn : n < 0x8000000000000000) :
    parse? (countsText m n) = some { maxConcurrency := m, planTimeoutSecs := n } := by
  have hconcurrency : Toml.Reader.IsBare "max_concurrency" :=
    ⟨by decide, List.all_eq_true.mp rfl⟩
  have htimeout : Toml.Reader.IsBare "plan_timeout_secs" := ⟨by decide, List.all_eq_true.mp rfl⟩
  have htext : Toml.parse? (countsText m n) =
      some [("max_concurrency", .integer m), ("plan_timeout_secs", .integer n)] := by
    have hmark : Toml.Reader.dropMark (countsText m n).toList = (countsText m n).toList := by
      rw [countsText, String.toList_ofList]
      rfl
    have hlast : Toml.Reader.countLine "plan_timeout_secs" n =
        Toml.Reader.countLine "plan_timeout_secs" n ++ [] := (List.append_nil _).symm
    obtain ⟨fuel, hfuel⟩ : ∃ fuel, 2 * (countsText m n).toList.length + 2 = fuel + 3 := by
      have hpos : 0 < (countsText m n).toList.length := by simp [countsText, Toml.Reader.countLine]
      exact ⟨2 * (countsText m n).toList.length - 1, by omega⟩
    rw [Toml.parse?, hmark, hfuel, countsText, String.toList_ofList,
      Toml.Reader.lines_countLine hconcurrency hm rfl, hlast,
      Toml.Reader.lines_countLine htimeout hn rfl]
    rfl
  rw [parse?, htext]
  rfl

/-! ## What a run makes of them -/

def FitsClock (c : Config) (readings : Readings) : Prop :=
  c.planTimeoutSecs = 0 ∨ readings.start / 1000 + c.planTimeoutSecs ≤ Run.greatestSecond

def FitsPermits (c : Config) : Prop :=
  c.maxConcurrency ≤ Run.greatestConcurrency

instance : Decidable (c.FitsClock readings) :=
  inferInstanceAs (Decidable (_ ∨ _))

instance : Decidable c.FitsPermits :=
  inferInstanceAs (Decidable (_ ≤ _))

theorem checkLimits_executionOptions (c : Config) (noCache : Bool) (readings : Readings) :
    Run.checkLimits (c.executionOptions noCache) readings =
      if c.FitsClock readings then
        if c.FitsPermits then .ok () else .error (.outOfRange .concurrency)
      else .error (.outOfRange .deadline) := by
  have hone : 1 ≤ Run.greatestConcurrency := by decide
  have hseconds : (readings.start + c.planTimeoutSecs * 1000) / 1000 =
      readings.start / 1000 + c.planTimeoutSecs := by omega
  -- Both the settings and the limits see to it that one call may run.
  have hpermits : Run.greatestConcurrency < max (max c.maxConcurrency 1) 1 ↔
      ¬ c.FitsPermits := by
    rw [FitsPermits]
    omega
  unfold Run.checkLimits executionOptions
  by_cases htimeout : c.planTimeoutSecs = 0
  · have hclock : c.FitsClock readings := .inl htimeout
    simp only [htimeout, hclock, hpermits, if_true, ite_not]
    split_ifs <;> rfl
  · have hclock : Run.greatestSecond < readings.start / 1000 + c.planTimeoutSecs ↔
        ¬ c.FitsClock readings := by
      rw [FitsClock]
      omega
    simp only [htimeout, hseconds, hclock, hpermits, if_false, ite_not]
    split_ifs <;> rfl

end Config

namespace Request

/-- A run with the settings of a text, if it is not answered from the store, gets to its first round
exactly if the clock can count up to its deadline and there can be that many permits, whatever the
plan is. Otherwise it has done nothing. The deadline is tried first. -/
theorem begins_iff_fits (r : Request) (store : Store) (layers : List (List String)) (text : String)
    (c : Config) (noCache : Bool) (hc : Config.parse? text = some c)
    (hoptions : r.options = c.executionOptions noCache) (hlayers : r.plan.layers = .ok layers)
    (hmissed : r.options.allowCache = true →
      (Run.ask r.readings store r.plan.hash).2 = .ok none) :
    (c.maxConcurrency < 0x8000000000000000 ∧ c.planTimeoutSecs < 0x8000000000000000) ∧
    ((∃ first, r.Begins store first) ↔ c.FitsClock r.readings ∧ c.FitsPermits) ∧
    (c.FitsClock r.readings → c.FitsPermits →
      r.Begins store (.between store [] (.initial r.plan)) ∧
        r.execute store = r.report (Run.writeAll r.readings store r.allRounds.1.flatten)
          r.allRounds.1 r.allRounds.2) ∧
    (¬ c.FitsClock r.readings → r.execute store = ⟨store, [], .error (.outOfRange .deadline)⟩) ∧
    (c.FitsClock r.readings → ¬ c.FitsPermits →
      r.execute store = ⟨store, [], .error (.outOfRange .concurrency)⟩) := by
  have hasked : r.asked store = store := asked_of_missed hmissed
  have hlimits := Config.checkLimits_executionOptions c noCache r.readings
  rw [← hoptions] at hlimits
  have hsetUp : c.FitsClock r.readings → c.FitsPermits →
      Run.checkLimits r.options r.readings = .ok () := by
    intro hclock hpermits
    rw [hlimits, if_pos hclock, if_pos hpermits]
  have hbegins : Run.checkLimits r.options r.readings = .ok () →
      r.Begins store (.between store [] (.initial r.plan)) := by
    intro hok
    have hfresh := Begins.fresh hlayers hmissed hok
    rwa [hasked] at hfresh
  refine ⟨Config.counts_lt hc, ⟨?_, ?_⟩, ?_, ?_, ?_⟩
  · rintro ⟨first, hfirst⟩
    have hok := (hfirst.within_limits hlayers hmissed).1
    rw [hlimits] at hok
    split_ifs at hok with hclock hpermits
    exact ⟨hclock, hpermits⟩
  · rintro ⟨hclock, hpermits⟩
    exact ⟨_, hbegins (hsetUp hclock hpermits)⟩
  · intro hclock hpermits
    have hok := hsetUp hclock hpermits
    refine ⟨hbegins hok, ?_⟩
    rw [execute_of_missed hmissed, hasked, runFresh_eq hlayers hok]
  · intro hclock
    exact execute_of_limits hmissed hlayers (hlimits.trans (if_neg hclock))
  · intro hclock hpermits
    refine execute_of_limits hmissed hlayers ?_
    rw [hlimits, if_pos hclock, if_neg hpermits]

/-! ### A clock that shows two seconds -/

def configured (c : Config) : Request :=
  { sample with
    options := c.executionOptions false
    readings := .stillAfter 2000 { second := 0 } }

theorem begins_configured_greatest : ∃ long wide fitting,
    Config.parse? (Config.countsText 4 0x7fffffffffffffff) = some long ∧
      (configured long).execute .empty = ⟨.empty, [], .error (.outOfRange .deadline)⟩ ∧
    Config.parse? (Config.countsText 0x7fffffffffffffff 0) = some wide ∧
      (configured wide).execute .empty = ⟨.empty, [], .error (.outOfRange .concurrency)⟩ ∧
    Config.parse? (Config.countsText 0x1fffffffffffffff 0x7ffffffffffffffd) = some fitting ∧
      ∃ first, (configured fitting).Begins .empty first := by
  have hlayers : sample.plan.layers = .ok [["a", "b"], ["c", "d"]] := by cbv
  have hruns := fun (text : String) (c : Config) (hc : Config.parse? text = some c) =>
    begins_iff_fits (configured c) .empty _ text c false hc rfl hlayers
  have hlong := Config.parse?_countsText (m := 4) (n := 0x7fffffffffffffff) (by decide) (by decide)
  have hwide := Config.parse?_countsText (m := 0x7fffffffffffffff) (n := 0) (by decide) (by decide)
  have hfitting := Config.parse?_countsText (m := 0x1fffffffffffffff) (n := 0x7ffffffffffffffd)
    (by decide) (by decide)
  refine ⟨_, _, _, hlong, ?_, hwide, ?_, hfitting, ?_⟩
  · exact (hruns _ _ hlong fun _ => rfl).2.2.2.1 (by decide)
  · exact (hruns _ _ hwide fun _ => rfl).2.2.2.2 (by decide) (by decide)
  · exact (hruns _ _ hfitting fun _ => rfl).2.1.mpr (by decide)

end Request

end Lemmata
