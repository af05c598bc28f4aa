import Lemmata.Cli.Reply
import Lemmata.Proofs.Decimal.Typed
import Lemmata.Proofs.Store.PlanEntries

/-! # Pruning reaches as far back as the calendar -/

namespace Lemmata

/-! ## Going back in time -/

namespace Moment

/-- That many days before, be it in the calendar or not; a negative count is no days. -/
def movedBack (m : Moment) (days : Int) : Moment :=
  { m with second := m.second - max days 0 * secondsPerDay }

variable {m : Moment}

theorem movedBack_second_le (m : Moment) (days : Int) : (m.movedBack days).second ≤ m.second := by
  unfold movedBack secondsPerDay
  dsimp only
  omega

theorem second_lt_of_year_le (h : m.date.year ≤ 9999) : m.second < 253402300800 := by
  by_contra hlate
  have hday : 2932897 ≤ m.second.fdiv secondsPerDay := by
    rw [day_eq]
    omega
  have hyear : (Date.ofDays 2932897).year ≤ m.date.year := Date.year_ofDays_le hday
  have hlater : (Date.ofDays 2932897).year = 10000 := rfl
  omega

/-- Only the start of the calendar limits the days. -/
theorem daysAgo?_eq (h : m.date.year ≤ 9999) (days : Int) : m.daysAgo? days =
    if least ≤ (m.movedBack days).second then some (m.movedBack days) else none := by
  have hlate := second_lt_of_year_le h
  have hback := movedBack_second_le m days
  rw [daysAgo?, movedBack] at *
  generalize max days 0 * (secondsPerDay : Int) = back at hback
  have hreach : (-back).natAbs ≤ greatestSpan.natAbs ∧
      isInCalendar { m with second := m.second + -back } = true ↔ least ≤ m.second - back := by
    rw [isInCalendar, decide_eq_true_iff]
    change _ ≤ (9223372036854775 : Int).natAbs ∧
      -8334601228800 ≤ m.second + -back ∧ m.second + -back ≤ 8210266876799 ↔ -8334601228800 ≤ _
    dsimp only at hback
    omega
  exact if_congr hreach rfl rfl

end Moment

/-! ## Entries by the time of their last access -/

namespace Store

variable {s : Store} {cutoff : Moment} {accessed : PlanRow → Moment}

theorem prune_eq (hcutoff : cutoff.IsProper) (hyear : cutoff.date.year ≤ 9999)
    (hrows : ∀ row ∈ s.plans.rows,
      (accessed row).InFourDigits ∧ row.lastAccess = (accessed row).text) :
    s.prune cutoff =
      ({ s with plans := ⟨s.plans.rows.filter fun row => cutoff.tick ≤ (accessed row).tick⟩ },
        (s.plans.rows.filter fun row => (accessed row).tick < cutoff.tick).length) := by
  have hold : ∀ row ∈ s.plans.rows, (row.isOlderThan cutoff = true ↔
      (accessed row).tick < cutoff.tick) := fun row hrow =>
    isOlderThan_iff (hrows row hrow).1 hcutoff hyear (hrows row hrow).2
  have hgone : (s.plans.rows.filter fun row => row.isOlderThan cutoff) =
      s.plans.rows.filter fun row => (accessed row).tick < cutoff.tick := by
    refine List.filter_congr fun row hrow => ?_
    rw [Bool.eq_iff_iff, hold row hrow, decide_eq_true_iff]
  have hkept : (s.plans.rows.filter fun row => !row.isOlderThan cutoff) =
      s.plans.rows.filter fun row => cutoff.tick ≤ (accessed row).tick := by
    refine List.filter_congr fun row hrow => ?_
    rw [Bool.eq_iff_iff, Bool.not_eq_true', ← Bool.not_eq_true, hold row hrow, not_lt,
      decide_eq_true_iff]
  refine Prod.ext ?_ ?_
  · rw [prune, hkept]
  · rw [prune_count, hgone]

end Store

namespace Cli

/-! ## The option -/

section Days

variable {text : String} {days : Int}

theorem shape_days (text : String) : Shape.of ("--days=" ++ text) = .option "days" (some text) := by
  rw [Shape.of, String.toList_append]
  exact congrArg (Shape.option "days" ∘ some) String.ofList_toList

theorem settle_days (h : days? text = some days) :
    ({} : Given).settle daysRule (some text) = .ok { options := [("days", text)] } := by
  have hsettle : ({} : Given).settle daysRule (some text) =
      if (days? text).isSome = true then .ok { options := [("days", text)] }
      else .error (.misuse .badValue) := rfl
  rw [hsettle, h]
  rfl

theorem read_days (h : days? text = some days) :
    Topic.prune.rules.read ["--days=" ++ text] = .ok { options := [("days", text)] } := by
  have hplain : (!({} : Scan).needsValue &&
      Topic.prune.rules.commands.contains ("--days=" ++ text)) = false := rfl
  have hrule : Topic.prune.rules.option? "days" = some daysRule := rfl
  have htake : Scan.takeOption {} daysRule (some text) =
      .ok (.settled { options := [("days", text)] }) := by
    change (do return Scan.settled (← ({} : Given).settle daysRule (some text))) = _
    rw [settle_days h]
    rfl
  rw [Rules.read, Scan.read, hplain, if_neg Bool.false_ne_true, shape_days]
  dsimp only
  rw [hrule]
  dsimp only
  rw [htake]
  rfl

theorem parse_days (h : -0x8000000000000000 ≤ days) (h' : days < 0x8000000000000000) :
    Request.parse ["prune", "--days=" ++ toString days] =
      .ok (.perform { command := .prune days }) := by
  have hdays : days? (toString days) = some days := Decimal.integer?_toString h h'
  generalize toString days = text at hdays
  have hparse : Request.parse ["prune", "--days=" ++ text] = Request.ofResult .prune (do
      Invocation.ofGiven {} (← Topic.prune.rules.read ["--days=" ++ text]) .prune) := rfl
  have hcommand : Command.ofGiven { options := [("days", text)] } .prune =
      .ok (.prune ((days? text).getD 30)) := rfl
  rw [hparse, read_days hdays]
  change Request.ofResult .prune
    (Invocation.ofGiven {} { options := [("days", text)] } .prune) = _
  rw [Invocation.ofGiven, hcommand, hdays]
  rfl

end Days

/-! ## The command -/

namespace Surroundings

variable {s : Surroundings} {arguments : List String} {i : Invocation} {days : Int}
variable {store : Store} {accessed : PlanRow → Moment} {cutoff : Moment}

theorem reply_of_parse (hparse : Request.parse arguments = .ok (.perform i))
    (hcommand : i.command = .prune days) :
    s.reply arguments = s.prune (s.config i.config) days := by
  rw [reply, hparse]
  dsimp only
  rw [perform, hcommand]

theorem withStore_eq {config : Config}
    (hstore : s.openStore (config.databasePath s.home) = .ok store)
    (work : Store → Store × Except Failure Output) : s.withStore config work =
      (Reply.ofResult (work store).2).withStore (config.databasePath s.home) (work store).1 := by
  rw [withStore, hstore]

/-- While the cutoff is in the calendar, just the entries go whose last access was before it, to the
microsecond. A cutoff before the start of the calendar ends the program with a fault, and the store
is not even opened. The clock of a machine shows no leap seconds. -/
theorem reply_prune (hparse : Request.parse arguments = .ok (.perform i))
    (hcommand : i.command = .prune days) (hclock : s.now.nano < 1000000000)
    (hyear : s.now.date.year ≤ 9999) (hcutoff : s.now.movedBack days = cutoff)
    (hstore : s.openStore ((s.config i.config).databasePath s.home) = .ok store)
    (hrows : ∀ row ∈ store.plans.rows,
      (accessed row).InFourDigits ∧ row.lastAccess = (accessed row).text) :
    (Moment.least ≤ cutoff.second →
      s.reply arguments = (Reply.shown (pruned
        (store.plans.rows.filter fun row => (accessed row).tick < cutoff.tick).length
        cutoff)).withStore ((s.config i.config).databasePath s.home)
        { store with plans :=
          ⟨store.plans.rows.filter fun row => cutoff.tick ≤ (accessed row).tick⟩ }) ∧
    (cutoff.second < Moment.least → s.reply arguments = .failed (.outOfRange .cutoff)) := by
  subst hcutoff
  rw [reply_of_parse hparse hcommand, prune, Moment.daysAgo?_eq hyear]
  constructor
  · intro hreach
    have hproper : (s.now.movedBack days).IsProper := .inl hclock
    have hyear' := (Moment.year_le_of_second_le (s.now.movedBack_second_le days)).trans hyear
    have hprune := Store.prune_eq hproper hyear' hrows
    rw [if_pos hreach]
    dsimp only
    rw [withStore_eq hstore, hprune]
    rfl
  · intro hearly
    rw [if_neg (not_le.mpr hearly)]

/-! ### Two entries a microsecond apart -/

def older : Moment := ⟨999913600, 4999⟩

def newer : Moment := ⟨999913600, 5000⟩

def rowAt (hash : String) (access : Moment) : PlanRow :=
  .ofExecuted access
    { planId := "p", planHash := hash, references := [], durationMs := 0, fromCache := false }

def dayAfter : Surroundings where
  home := "/home"
  now := ⟨1000000000, 5999⟩
  readings := .still ⟨1000000000, 5999⟩
  planId := "p"
  responseId := id
  read := fun _ => .missing "there are no files"
  runProgram := fun _ _ _ => .notStarted "there are no programs"
  exchange := fun _ _ => .failed "there is no network"
  openStore := fun _ => .ok { Store.empty with
    plans := ⟨[rowAt "older" older, rowAt "newer" newer]⟩ }

def accessOf (row : PlanRow) : Moment :=
  if row.hash = "older" then older else newer

theorem reply_prune_dayAfter :
    dayAfter.reply ["prune", "--days=" ++ toString (1 : Int)] =
      (Reply.shown (pruned 1 ⟨999913600, 5999⟩)).withStore "/home/.lexis/data/effects.sqlite3"
        { Store.empty with plans := ⟨[rowAt "newer" newer]⟩ } ∧
    dayAfter.reply ["prune", "--days=" ++ toString (9223372036854775807 : Int)] =
      .failed (.outOfRange .cutoff) := by
  have hclock : dayAfter.now.nano < 1000000000 := by decide
  have hyear : dayAfter.now.date.year ≤ 9999 := by decide
  have hrows : ∀ row ∈ [rowAt "older" older, rowAt "newer" newer],
      (accessOf row).InFourDigits ∧ row.lastAccess = (accessOf row).text := by
    intro row hrow
    rcases List.mem_pair.mp hrow with rfl | rfl <;>
      exact ⟨⟨.inl (by decide), by decide, by decide⟩, rfl⟩
  constructor
  · have hparse : Request.parse ["prune", "--days=" ++ toString (1 : Int)] =
        .ok (.perform { command := .prune 1 }) := parse_days (by decide) (by decide)
    obtain ⟨hprunes, -⟩ := reply_prune hparse rfl hclock hyear rfl rfl hrows
    rw [hprunes (by decide)]
    have hpath : (dayAfter.config "~/.lexis/config.toml").databasePath dayAfter.home =
        "/home/.lexis/data/effects.sqlite3" := by
      decide +kernel
    rw [hpath]
    rfl
  · have hparse : Request.parse ["prune", "--days=" ++ toString (9223372036854775807 : Int)] =
        .ok (.perform { command := .prune 9223372036854775807 }) :=
      parse_days (by decide) (by decide)
    obtain ⟨-, hfails⟩ := reply_prune hparse rfl hclock hyear rfl rfl hrows
    exact hfails (by decide)

end Surroundings

end Cli

end Lemmata
