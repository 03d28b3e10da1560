import Mathlib.Data.List.Induction
import Walkthrough.CommandLine.Invocation
import Walkthrough.Proofs.FailStop

/-!
# What the setting of the log changes

A setting selects which reports of a call are shown, and does nothing else.  The selection is that
of one directive: of those that apply to the reports the most specific, and of equally specific ones
the last (`Filter.Decides`, `Filter.decisive?_eq_some_iff`).  It keeps the order of the reports, and
it never hides a warning where it shows a detail (`Filter.Selects`).  Neither the exit code nor the
output depends on it, and what is said of a failure stands behind whatever is shown
(`CommandLine.run_of_settings`).
-/

namespace Walkthrough

open Diagnostics (Directive Entry Filter Level)

/-! ## The directive that decides -/

namespace Diagnostics.Filter

/-- A directive decides about a target: it applies to it, no directive that applies says more about
the target, and none behind it says as much. -/
structure Decides (filter : Filter) (directive : Directive) (target : String) : Prop where
  applies : directive.appliesTo target.toList = true
  foremost : ∃ front back, filter.directives = front ++ directive :: back ∧
    (∀ earlier ∈ front, earlier.appliesTo target.toList = true →
      earlier.specificity ≤ directive.specificity) ∧
    ∀ later ∈ back, later.appliesTo target.toList = true →
      later.specificity < directive.specificity

variable {directives : List Directive} {directive last : Directive} {target : String}

theorem Decides.specificity_le {filter : Filter} (h : filter.Decides directive target)
    {other : Directive} (mem : other ∈ filter.directives)
    (applies : other.appliesTo target.toList = true) :
    other.specificity ≤ directive.specificity := by
  obtain ⟨front, back, whole, earlier, later⟩ := h.foremost
  rw [whole, List.mem_append, List.mem_cons] at mem
  rcases mem with before | rfl | behind
  · exact earlier other before applies
  · exact Nat.le_refl _
  · exact Nat.le_of_lt (later other behind applies)

/-- A directive that says less, or does not apply, changes nothing behind the others. -/
theorem Decides.append_singleton (h : (Filter.mk directives).Decides directive target)
    (less : last.appliesTo target.toList = true → last.specificity < directive.specificity) :
    (Filter.mk (directives ++ [last])).Decides directive target := by
  obtain ⟨front, back, rfl, earlier, later⟩ := h.foremost
  refine ⟨h.applies, front, back ++ [last], List.append_assoc .., earlier, ?_⟩
  intro other mem applies
  rcases List.mem_append.mp mem with behind | same
  · exact later other behind applies
  · obtain rfl := List.mem_singleton.mp same
    exact less applies

/-- The last directive decides if no other one says more. -/
theorem decides_last (applies : last.appliesTo target.toList = true)
    (most : ∀ other ∈ directives, other.appliesTo target.toList = true →
      other.specificity ≤ last.specificity) :
    (Filter.mk (directives ++ [last])).Decides last target :=
  ⟨applies, directives, [], rfl, most, fun _ mem => absurd mem List.not_mem_nil⟩

theorem decisive?_append_singleton (directives : List Directive) (last : Directive)
    (target : String) :
    (Filter.mk (directives ++ [last])).decisive? target =
      if last.appliesTo target.toList then
        moreDecisive ((Filter.mk directives).decisive? target) last
      else (Filter.mk directives).decisive? target := by
  simp only [decisive?, List.filter_append, List.foldl_append]
  by_cases applies : last.appliesTo target.toList = true
  · simp [applies]
  · simp [applies]

/-- Either some directive is found, and decides, or none applies. -/
theorem decisive?_cases (directives : List Directive) (target : String) :
    (∃ directive, (Filter.mk directives).decisive? target = some directive ∧
        (Filter.mk directives).Decides directive target) ∨
      (Filter.mk directives).decisive? target = none ∧
        ∀ directive ∈ directives, directive.appliesTo target.toList = false := by
  induction directives using List.reverseRecOn with
  | nil => exact .inr ⟨rfl, fun _ mem => absurd mem List.not_mem_nil⟩
  | append_singleton front last ih =>
    rw [decisive?_append_singleton]
    by_cases applies : last.appliesTo target.toList = true
    · rw [if_pos applies]
      rcases ih with ⟨best, found, decides⟩ | ⟨found, none⟩
      · rw [found]
        by_cases more : best.specificity ≤ last.specificity
        · refine .inl ⟨last, if_pos more, decides_last applies fun other mem otherApplies => ?_⟩
          exact Nat.le_trans (decides.specificity_le mem otherApplies) more
        · exact .inl ⟨best, if_neg more, decides.append_singleton fun _ => by omega⟩
      · rw [found]
        refine .inl ⟨last, rfl, decides_last applies fun other mem otherApplies => ?_⟩
        rw [none other mem] at otherApplies
        cases otherApplies
    · rw [if_neg applies]
      rcases ih with ⟨best, found, decides⟩ | ⟨found, none⟩
      · exact .inl ⟨best, found, decides.append_singleton fun yes => absurd yes applies⟩
      · refine .inr ⟨found, fun other mem => ?_⟩
        rcases List.mem_append.mp mem with before | same
        · exact none other before
        · obtain rfl := List.mem_singleton.mp same
          exact Bool.eq_false_iff.mpr applies

/-- **The directive that is found is the one that decides.** -/
theorem decisive?_eq_some_iff {filter : Filter} :
    filter.decisive? target = some directive ↔ filter.Decides directive target := by
  obtain ⟨directives⟩ := filter
  constructor
  · intro found
    rcases decisive?_cases directives target with ⟨best, same, decides⟩ | ⟨none, -⟩
    · obtain rfl := Option.some.inj (found.symm.trans same)
      exact decides
    · rw [found] at none
      cases none
  · rintro ⟨applies, front, back, whole, earlier, later⟩
    obtain rfl : directives = front ++ directive :: back := whole
    -- nothing behind the directive replaces it, so the induction is on what is behind
    induction back using List.reverseRecOn with
    | nil =>
      rw [decisive?_append_singleton, if_pos applies]
      rcases decisive?_cases front target with ⟨best, found, decides⟩ | ⟨found, -⟩
      · obtain ⟨before, behind, rfl, -⟩ := decides.foremost
        rw [found]
        exact if_pos (earlier best (by simp) decides.applies)
      · rw [found]
        rfl
    | append_singleton back last ih =>
      have kept := ih fun other mem => later other (List.mem_append_left _ mem)
      rw [← List.cons_append, ← List.append_assoc, decisive?_append_singleton, kept]
      by_cases lastApplies : last.appliesTo target.toList = true
      · rw [if_pos lastApplies]
        exact if_neg (Nat.not_le_of_lt (later last (by simp) lastApplies))
      · exact if_neg lastApplies

/-- What is shown is what the deciding directive admits. -/
theorem shows_iff {filter : Filter} {level : Level} :
    filter.shows target level = true ↔
      ∃ directive, filter.Decides directive target ∧ directive.threshold.admits level = true := by
  simp only [← decisive?_eq_some_iff]
  unfold shows
  cases filter.decisive? target with
  | none => simp
  | some directive => simp

theorem ofSetting_of_silent {setting : Option String}
    (silent : setting = some "warn" ∨ setting.bind ofText? = none) :
    ofSetting setting = standard := by
  rcases silent with rfl | unread
  · decide +kernel
  · rw [ofSetting, unread]
    rfl

end Diagnostics.Filter

/-! ## The reports of a call -/

namespace CommandLine

/-- All reports that a call makes, shown or not: those of the tour, if it goes on one. -/
def reports (arguments : List String) (stdin : List UInt8) : List Entry :=
  match Command.ofArguments arguments with
  | .ok .run => (Setup.faultless stdin).tour.trace.entries
  | .ok .help | .ok .version | .error _ => []

/-- What a call says on its error output behind the reports: its usage, what is wrong with its
arguments, or what interrupted its tour. -/
def lastWords (arguments : List String) (stdin : List UInt8) : String :=
  match Command.ofArguments arguments with
  | .error unknown => unknownReport unknown
  | .ok .help => usage
  | .ok .version => ""
  | .ok .run =>
    match (Setup.faultless stdin).tour.result with
    | .error interruption => interruptionReport interruption
    | .ok () => ""

/-- The reports that are shown under a setting. -/
def shownReports (setting : Option String) (entries : List Entry) : List Entry :=
  entries.filter fun entry => (Filter.ofSetting setting).shows logTarget entry.level

/-- Reports as they are written, each on its line behind the stamp of its time. -/
def stamped (stamp : String) (entries : List Entry) : String :=
  String.join (entries.map fun entry => stamp ++ " " ++ entry.line ++ "\n")

/-- **A setting leaves everything as it is but the reports that are shown.** -/
theorem exists_run_eq (arguments : List String) (stdin : List UInt8) :
    ∃ exitCode stdout, ∀ (setting : Option String) (stamp : String),
      (Invocation.mk arguments setting stdin).run stamp =
        ⟨exitCode, stdout, stamped stamp (shownReports setting (reports arguments stdin)) ++
          lastWords arguments stdin⟩ := by
  have unreported (setting : Option String) (stamp words : String) :
      stamped stamp (shownReports setting []) ++ words = words := String.empty_append
  simp only [Invocation.run, reports, lastWords]
  cases Command.ofArguments arguments with
  | error unknown => exact ⟨1, [], fun _ _ => by rw [unreported]⟩
  | ok command =>
    cases command with
    | help => exact ⟨0, [], fun _ _ => by rw [unreported]⟩
    | version => exact ⟨0, Text.Utf8.encode versionLine, fun _ _ => by rw [unreported]⟩
    | run =>
      refine ⟨(Departure.ofPerformance .standard "" (Setup.faultless stdin).tour).exitCode,
        (Setup.faultless stdin).tour.trace.written, fun setting stamp => ?_⟩
      change Departure.ofPerformance _ stamp (Setup.faultless stdin).tour = _
      simp only [Departure.ofPerformance]
      cases (Setup.faultless stdin).tour.result with
      | error interruption => rfl
      | ok done => exact congrArg _ String.append_empty.symm

end CommandLine

/-! ## What a filter selects -/

open CommandLine (logTarget shownReports reports lastWords stamped)

/-- What a filter shows of all reports of a call. -/
structure Diagnostics.Filter.Selects (filter : Filter) (all shown : List Entry) : Prop where
  /-- some of them, in their order -/
  sublist : shown.Sublist all
  /-- those whose level the directive admits that decides about tours -/
  decided : ∀ entry, entry ∈ shown ↔ entry ∈ all ∧
    ∃ directive, filter.Decides directive logTarget ∧ directive.threshold.admits entry.level = true
  /-- all of them, where every level is shown -/
  complete : (∀ level, filter.shows logTarget level = true) → shown = all
  /-- no detail without the warnings -/
  warned : ∀ detail ∈ shown, detail.level = .debug →
    ∀ warning ∈ all, warning.level = .warn → warning ∈ shown

theorem Diagnostics.Filter.selects (filter : Filter) (all : List Entry) :
    filter.Selects all (all.filter fun entry => filter.shows logTarget entry.level) where
  sublist := List.filter_sublist
  decided entry := by rw [List.mem_filter, shows_iff]
  complete every := List.filter_eq_self.mpr fun entry _ => every entry.level
  warned detail shown debug warning mem warn := by
    obtain ⟨-, seen⟩ := List.mem_filter.mp shown
    refine List.mem_filter.mpr ⟨mem, shows_of_rank_le ?_ seen⟩
    rw [debug, warn]
    decide

theorem CommandLine.shownReports_trace (entries : List Entry) :
    shownReports (some "trace") entries = entries := by
  have details : (Filter.ofSetting (some "trace")).shows logTarget .trace = true := by
    decide +kernel
  refine ((Filter.ofSetting (some "trace")).selects entries).complete fun level => ?_
  exact Filter.shows_of_rank_le (by cases level <;> decide) details

/-- A setting that says nothing of its own shows the warnings. -/
theorem CommandLine.shownReports_of_silent {setting : Option String}
    (silent : setting = some "warn" ∨ setting.bind Filter.ofText? = none) (entries : List Entry) :
    shownReports setting entries = entries.filter fun entry => decide (entry.level = .warn) := by
  rw [shownReports, Filter.ofSetting_of_silent silent]
  refine List.filter_congr fun entry _ => ?_
  cases entry <;> rfl

/-- **The setting of the log changes nothing but the log.**  Take two calls with the same arguments
and the same input, under whatever settings.  They leave with the same exit code and have written
the same output.  The error output of each is what is shown of the same reports, each behind its
stamp, and then the same last words.  What is shown is selected by the directive that decides; under
the setting `trace` it is everything, and under `warn`, under a setting that cannot be read and
under none it is the warnings. -/
theorem CommandLine.run_of_settings (invocation : Invocation) (otherSetting : Option String)
    (stamp otherStamp : String) :
    let departure := invocation.run stamp
    let otherDeparture := { invocation with logSetting := otherSetting }.run otherStamp
    let all := reports invocation.arguments invocation.stdin
    let words := lastWords invocation.arguments invocation.stdin
    departure.exitCode = otherDeparture.exitCode ∧
      departure.stdout = otherDeparture.stdout ∧
      departure.stderr = stamped stamp (shownReports invocation.logSetting all) ++ words ∧
      otherDeparture.stderr = stamped otherStamp (shownReports otherSetting all) ++ words ∧
      (Filter.ofSetting invocation.logSetting).Selects all
        (shownReports invocation.logSetting all) ∧
      shownReports (some "trace") all = all ∧
      (otherSetting = some "warn" ∨ otherSetting.bind Filter.ofText? = none →
        shownReports otherSetting all =
          all.filter fun entry => decide (entry.level = .warn)) := by
  intro departure otherDeparture all words
  obtain ⟨arguments, setting, stdin⟩ := invocation
  obtain ⟨exitCode, stdout, run⟩ := exists_run_eq arguments stdin
  have left : departure = _ := run setting stamp
  have otherLeft : otherDeparture = _ := run otherSetting otherStamp
  rw [left, otherLeft]
  exact ⟨rfl, rfl, rfl, rfl, (Filter.ofSetting setting).selects all, shownReports_trace all,
    fun silent => shownReports_of_silent silent all⟩

end Walkthrough
