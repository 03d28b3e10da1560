import Mathlib.Data.List.Basic
import Walkthrough.Proofs.Accounting
import Walkthrough.Proofs.Course

/-!
# What a tour reports is what happened

The reports of a tour, its result, its reads and what it writes are shown to different people, and
they tell the same story (`Tour.Truthful`), on every console and so in every step of a script,
whichever devices fail (`Script.reports_of_step`).  Each report is held against the course of the
tour, part by part (`Tour.Course.truthful`).
-/

namespace Walkthrough

open Text.Utf8 (encode)
open Diagnostics (Entry)

namespace Trace

variable {trace : Trace} {entry : Entry}

theorem mem_entries_iff : entry ∈ trace.entries ↔ .log entry ∈ trace := by
  rw [entries, List.mem_filterMap]
  constructor
  · rintro ⟨effect, mem, same⟩
    cases effect with
    | log other => exact Option.some.inj same ▸ mem
    | out | flush | read => cases same
  · intro mem
    exact ⟨.log entry, mem, rfl⟩

@[simp]
theorem entries_log_cons : entries (.log entry :: trace) = entry :: trace.entries := rfl

@[simp]
theorem reads_nil : reads [] = 0 := rfl

@[simp]
theorem reads_log_cons : reads (.log entry :: trace) = trace.reads :=
  List.countP_cons_of_neg (by simp [Effect.isRead])

end Trace

/-- A line that cannot be had is no matter of ages. -/
theorem Source.listen_ne_ageRejected (source : Source) (input reason : String) :
    source.listen ≠ .error (.ageRejected input reason) := by
  unfold listen answer interpret
  split
  · split <;> simp
  · split
    · simp
    · split
      · simp
      · split <;> simp

namespace Dialogue

variable {console : Console} {text question : String} {interruption : Interruption}

/-! ## What telling and asking come to -/

section

variable {performance : Performance Unit} (told : (tell text).perform console = performance)

include told

theorem reads_of_tell : performance.trace.reads = 0 := by
  have ways := telling console text
  rw [told] at ways
  rw [Performance.reads_trace]
  cases ways <;> rfl

/-- Nothing is written but the text that is told. -/
theorem written_of_tell : performance.trace.written <+: encode text := by
  have ways := telling console text
  rw [told] at ways
  rw [Performance.trace, Trace.written_merge]
  cases ways with
  | refused refusal =>
    obtain ⟨-, count, -, taken⟩ := Console.exists_count_of_refusal? refusal
    simpa [Effect.written, taken] using List.take_prefix count (encode text)
  | unseen | seen => simp [Effect.written]

/-- Only a device can keep something from being told. -/
theorem exists_error_of_tell (h : performance.result = .error interruption) :
    ∃ error, interruption = .device error := by
  have ways := telling console text
  rw [told] at ways
  cases ways with
  | refused | unseen => exact ⟨_, (Except.error.inj h).symm⟩
  | seen => cases h

end

section

variable {performance : Performance String} (asked : (ask question).perform console = performance)

include asked

/-- A question that was answered has read the line that is the answer. -/
theorem read_of_ask_eq_ok {line : String} (h : performance.result = .ok line) :
    performance.trace.reads = 1 ∧ console.source.listen = .ok line ∧
      performance.console.source = console.source.advance := by
  have ways := telling console question
  rw [Performance.reads_trace]
  rw [← asked, perform_ask_eq] at h ⊢
  generalize (tell question).perform console = told at ways h ⊢
  cases ways with
  | refused | unseen => cases h
  | seen => exact ⟨rfl, h, rfl⟩

/-- A question without an answer has read no line, or what it read gives the reason. -/
theorem read_of_ask_eq_error (h : performance.result = .error interruption) :
    (performance.trace.reads = 0 ∧ ∃ error, interruption = .device error) ∨
      (performance.trace.reads = 1 ∧ console.source.listen = .error interruption) := by
  have ways := telling console question
  rw [Performance.reads_trace]
  rw [← asked, perform_ask_eq] at h ⊢
  generalize (tell question).perform console = told at ways h ⊢
  cases ways with
  | refused | unseen => exact .inl ⟨rfl, _, (Except.error.inj h).symm⟩
  | seen => exact .inr ⟨rfl, h⟩

theorem ask_ne_ageRejected (input reason : String) :
    performance.result ≠ .error (.ageRejected input reason) := by
  intro h
  rcases read_of_ask_eq_error asked h with ⟨-, error, other⟩ | ⟨-, heard⟩
  · cases other
  · exact console.source.listen_ne_ageRejected input reason heard

end

end Dialogue

namespace Tour

open Dialogue (ask tell)

/-! ## The reports of one tour -/

/-- What is reported agrees with everything else that is known of a tour: its result, its trace, and
the source that it began with. -/
structure Truthful (source : Source) (result : Except Interruption Unit) (trace : Trace) :
    Prop where
  /-- the reports come in their order, and a rejected age takes the place of the others -/
  order : (∃ guest age bracket,
      trace.entries <+: [.started, .nameRead guest, .ageClassified age bracket, .finished]) ∨
    ∃ guest interruption,
      trace.entries = [.started, .nameRead guest, .ageRejected interruption]
  /-- a name is reported if the first read has given a line, and an empty line is a guest's -/
  named (guest : Bool) : .nameRead guest ∈ trace.entries ↔
    1 ≤ trace.reads ∧ ∃ name, source.listen = .ok name ∧ guest = name.isEmpty
  /-- the interruption that is reported is the result -/
  rejected (interruption : Interruption) : .ageRejected interruption ∈ trace.entries ↔
    result = .error interruption ∧ ∃ input reason, interruption = .ageRejected input reason
  /-- the report is worded as the result is -/
  worded (interruption : Interruption) : .ageRejected interruption ∈ trace.entries →
    ∃ same, result = .error same ∧
      (Entry.ageRejected interruption).text = "age rejected error=" ++ same.message
  rejected_last (interruption : Interruption) : .ageRejected interruption ∈ trace.entries →
    trace.getLast? = some (.log (.ageRejected interruption))
  /-- an age is reported if the second read has given a line that says it -/
  classified (age : Age) (bracket : Bracket) : .ageClassified age bracket ∈ trace.entries ↔
    trace.reads = 2 ∧ ∃ answer, source.advance.listen = .ok answer ∧ ageOf answer = .ok age ∧
      bracket = age.bracket
  /-- behind that nothing is written but the message of the bracket and the farewell -/
  afterwards (front back : Trace) (age : Age) (bracket : Bracket) :
    trace = front ++ .log (.ageClassified age bracket) :: back →
      back.written <+: encode (bracket.message ++ "\n\n" ++ farewell ++ "\n")
  finished : .finished ∈ trace.entries ↔ result = .ok ()
  finished_last : .finished ∈ trace.entries → trace.getLast? = some (.log .finished)

theorem exists_ageRejected_of_ageOf {answer : String} {interruption : Interruption}
    (h : ageOf answer = .error interruption) :
    ∃ reason, interruption = .ageRejected answer reason := by
  unfold ageOf at h
  split at h
  · cases h
  · exact ⟨_, (Except.error.inj h).symm⟩

section

variable {console : Console} {first second : Performance String} {name answer : String}
  {interruption : Interruption} {trace : Trace}

theorem afterwards_of_notMem (h : ∀ age bracket, .ageClassified age bracket ∉ trace.entries)
    (front back : Trace) (age : Age) (bracket : Bracket)
    (whole : trace = front ++ .log (.ageClassified age bracket) :: back) :
    back.written <+: encode (bracket.message ++ "\n\n" ++ farewell ++ "\n") := by
  refine absurd (Trace.mem_entries_iff.mpr ?_) (h age bracket)
  rw [whole]
  exact List.mem_append_right _ List.mem_cons_self

/-- A tour that ends before an answer to its second question was read reports no more than its start
and the name. -/
theorem truthful_of_cutOff {source : Source} (guest : Bool)
    (order : trace.entries <+: [.started, .nameRead guest])
    (named : ∀ guest, .nameRead guest ∈ trace.entries ↔
      1 ≤ trace.reads ∧ ∃ name, source.listen = .ok name ∧ guest = name.isEmpty)
    (unanswered : trace.reads = 2 → ∀ answer, source.advance.listen ≠ .ok answer)
    (noAge : ∀ input reason, interruption ≠ .ageRejected input reason) :
    Truthful source (.error interruption) trace := by
  have silent {entry : Entry} (h : entry ∉ [.started, .nameRead guest]) :
      entry ∉ trace.entries := fun mem => h (order.subset mem)
  exact {
    order := .inl ⟨guest, ⟨0⟩, .child, order.trans ⟨_, rfl⟩⟩
    named
    rejected := fun other => by
      refine iff_of_false (silent (by simp)) ?_
      rintro ⟨same, input, reason, rfl⟩
      exact noAge input reason (Except.error.inj same)
    worded := fun _ mem => absurd mem (silent (by simp))
    rejected_last := fun _ mem => absurd mem (silent (by simp))
    classified := fun age bracket => by
      refine iff_of_false (silent (by simp)) ?_
      rintro ⟨both, answer, answered, -⟩
      exact unanswered both answer answered
    afterwards := afterwards_of_notMem fun _ _ => silent (by simp)
    finished := iff_of_false (silent (by simp)) nofun
    finished_last := fun mem => absurd mem (silent (by simp)) }

/-- A tour that gets no name reports that it has started. -/
theorem truthful_of_unnamed (asked : (ask opening).perform console = first)
    (ended : first.result = .error interruption) (shown : trace = .log .started :: first.trace) :
    Truthful console.source (.error interruption) trace := by
  have quiet : first.trace.entries = [] := asked ▸ Dialogue.entries_ask _ _
  have entries : trace.entries = [.started] := by simp [shown, quiet]
  have reads : trace.reads = first.trace.reads := by simp [shown]
  have unread := Dialogue.read_of_ask_eq_error asked ended
  refine truthful_of_cutOff true ?_ ?_ ?_ ?_
  · exact entries ▸ ⟨_, rfl⟩
  · intro guest
    refine iff_of_false (by simp [entries]) ?_
    rintro ⟨read, name, heard, -⟩
    rcases unread with ⟨none, -⟩ | ⟨-, unheard⟩
    · omega
    · rw [heard] at unheard
      cases unheard
  · intro both
    omega
  · rintro input reason rfl
    exact Dialogue.ask_ne_ageRejected asked input reason ended

/-- A tour that gets a name but no answer to its second question reports the name as well. -/
theorem truthful_of_unanswered (asked : (ask opening).perform console = first)
    (hasName : first.result = .ok name)
    (askedAgain : (ask (interlude name)).perform first.console = second)
    (ended : second.result = .error interruption)
    (shown : trace = .log .started ::
      (first.trace ++ .log (.nameRead name.isEmpty) :: second.trace)) :
    Truthful console.source (.error interruption) trace := by
  obtain ⟨read, heard, next⟩ := Dialogue.read_of_ask_eq_ok asked hasName
  have unread := Dialogue.read_of_ask_eq_error askedAgain ended
  rw [next] at unread
  have quiet : first.trace.entries = [] := asked ▸ Dialogue.entries_ask _ _
  have quietAgain : second.trace.entries = [] := askedAgain ▸ Dialogue.entries_ask _ _
  have entries : trace.entries = [.started, .nameRead name.isEmpty] := by
    simp [shown, quiet, quietAgain]
  have reads : trace.reads = 1 + second.trace.reads := by
    rw [shown, Trace.reads_log_cons, Trace.reads_append, read, Trace.reads_log_cons]
  refine truthful_of_cutOff name.isEmpty ?_ ?_ ?_ ?_
  · exact entries ▸ List.prefix_rfl
  · intro guest
    simp [entries, reads, heard]
  · intro both answer answered
    rcases unread with ⟨none, -⟩ | ⟨-, unheard⟩
    · omega
    · rw [answered] at unheard
      cases unheard
  · rintro input reason rfl
    exact Dialogue.ask_ne_ageRejected askedAgain input reason ended

/-- A tour whose second answer is no age reports that last. -/
theorem truthful_of_rejected (asked : (ask opening).perform console = first)
    (hasName : first.result = .ok name)
    (askedAgain : (ask (interlude name)).perform first.console = second)
    (hasAnswer : second.result = .ok answer) (noAge : ageOf answer = .error interruption)
    (shown : trace = .log .started :: (first.trace ++ .log (.nameRead name.isEmpty) ::
      (second.trace ++ [.log (.ageRejected interruption)]))) :
    Truthful console.source (.error interruption) trace := by
  obtain ⟨read, heard, next⟩ := Dialogue.read_of_ask_eq_ok asked hasName
  obtain ⟨readAgain, heardAgain, -⟩ := Dialogue.read_of_ask_eq_ok askedAgain hasAnswer
  rw [next] at heardAgain
  obtain ⟨reason, rfl⟩ := exists_ageRejected_of_ageOf noAge
  have quiet : first.trace.entries = [] := asked ▸ Dialogue.entries_ask _ _
  have quietAgain : second.trace.entries = [] := askedAgain ▸ Dialogue.entries_ask _ _
  have entries : trace.entries =
      [.started, .nameRead name.isEmpty, .ageRejected (.ageRejected answer reason)] := by
    simp [shown, quiet, quietAgain]
  have reads : trace.reads = 2 := by
    simp [shown, Trace.reads_append, read, readAgain, Trace.reads_nil]
  exact {
    order := .inr ⟨_, _, entries⟩
    named := fun guest => by simp [entries, reads, heard]
    rejected := fun other => by
      simp only [entries, List.mem_cons, List.not_mem_nil, reduceCtorEq, Entry.ageRejected.injEq,
        false_or, or_false, Except.error.injEq]
      exact ⟨fun same => ⟨same.symm, answer, reason, same⟩, fun same => same.1.symm⟩
    worded := fun other mem => by
      obtain rfl : other = .ageRejected answer reason := by simpa [entries] using mem
      exact ⟨_, rfl, rfl⟩
    rejected_last := fun other mem => by
      obtain rfl : other = .ageRejected answer reason := by simpa [entries] using mem
      refine List.getLast?_eq_some_iff.mpr
        ⟨.log .started :: (first.trace ++ .log (.nameRead name.isEmpty) :: second.trace), ?_⟩
      simp [shown]
    classified := fun age bracket => by
      refine iff_of_false (by simp [entries]) ?_
      rintro ⟨-, other, answered, aged, -⟩
      obtain rfl := Except.ok.inj (heardAgain.symm.trans answered)
      rw [noAge] at aged
      cases aged
    afterwards := afterwards_of_notMem (by simp [entries])
    finished := by simp [entries]
    finished_last := by simp [entries] }

theorem entries_closing (result : Except Interruption Unit) :
    (closing result).entries <+: [.finished] ∧
      (∀ entry, entry ∈ (closing result).entries ↔ entry = .finished ∧ result = .ok ()) := by
  cases result with
  | error interruption => exact ⟨List.nil_prefix, by simp [closing]⟩
  | ok done => exact ⟨List.prefix_rfl, by simp [closing]⟩

/-- A tour whose second answer is an age reports the age, and that it has come to its end if it
has. -/
theorem truthful_of_parted {age : Age} {last : Performance Unit}
    (asked : (ask opening).perform console = first) (hasName : first.result = .ok name)
    (askedAgain : (ask (interlude name)).perform first.console = second)
    (hasAnswer : second.result = .ok answer) (aged : ageOf answer = .ok age)
    (left : (tell (parting age.bracket)).perform second.console = last)
    (shown : trace = .log .started :: (first.trace ++ .log (.nameRead name.isEmpty) ::
      (second.trace ++ .log (.ageClassified age age.bracket) ::
        (last.trace ++ closing last.result)))) :
    Truthful console.source last.result trace := by
  obtain ⟨read, heard, next⟩ := Dialogue.read_of_ask_eq_ok asked hasName
  obtain ⟨readAgain, heardAgain, -⟩ := Dialogue.read_of_ask_eq_ok askedAgain hasAnswer
  rw [next] at heardAgain
  have quiet : first.trace.entries = [] := asked ▸ Dialogue.entries_ask _ _
  have quietAgain : second.trace.entries = [] := askedAgain ▸ Dialogue.entries_ask _ _
  have quietLast : last.trace.entries = [] := left ▸ Dialogue.entries_tell _ _
  obtain ⟨order, closed⟩ := entries_closing last.result
  have entries : trace.entries = [.started, .nameRead name.isEmpty,
      .ageClassified age age.bracket] ++ (closing last.result).entries := by
    simp [shown, quiet, quietAgain, quietLast]
  have reads : trace.reads = 2 := by
    have silent : (closing last.result).reads = 0 := by cases last.result <;> rfl
    simp [shown, Trace.reads_append, read, readAgain, Dialogue.reads_of_tell left, silent]
  exact {
    order := .inl ⟨name.isEmpty, age, age.bracket, by
      rw [entries]
      exact (List.prefix_append_right_inj _).mpr order⟩
    named := fun guest => by simp [entries, reads, heard, closed]
    rejected := fun other => by
      refine iff_of_false (by simp [entries, closed]) ?_
      rintro ⟨same, input, reason, rfl⟩
      obtain ⟨error, device⟩ := Dialogue.exists_error_of_tell left same
      cases device
    worded := by simp [entries, closed]
    rejected_last := by simp [entries, closed]
    classified := fun other bracket => by
      simp only [entries, List.mem_append, closed, reads, true_and, heardAgain]
      constructor
      · intro mem
        obtain ⟨rfl, rfl⟩ : other = age ∧ bracket = age.bracket := by simpa using mem
        exact ⟨answer, rfl, aged, rfl⟩
      · rintro ⟨same, said, read, rfl⟩
        obtain rfl := Except.ok.inj said
        obtain rfl := Except.ok.inj (aged.symm.trans read)
        simp
    afterwards := fun front back other bracket whole => by
      -- the age is reported once, so what stands behind the report is the leave-taking
      have before : .log (.ageClassified other bracket) ∉ Effect.log .started ::
          (first.trace ++ .log (.nameRead name.isEmpty) :: second.trace) := by
        rw [← Trace.mem_entries_iff]
        simp [quiet, quietAgain]
      have behind : .log (.ageClassified other bracket) ∉
          last.trace ++ closing last.result := by
        rw [← Trace.mem_entries_iff]
        simp [quietLast, closed]
      have parts : (Effect.log .started ::
          (first.trace ++ .log (.nameRead name.isEmpty) :: second.trace)) ++
            .log (.ageClassified age age.bracket) :: (last.trace ++ closing last.result) =
          front ++ .log (.ageClassified other bracket) :: back := by
        rw [← whole, shown]
        simp
      obtain ⟨-, same, rfl⟩ := (List.append_cons_inj_of_notMem before behind).mp parts
      obtain ⟨rfl, rfl⟩ : age = other ∧ age.bracket = bracket := by simpa using same
      have silent : (closing last.result).written = [] := by cases last.result <;> rfl
      rw [Trace.written_append, silent, List.append_nil]
      exact Dialogue.written_of_tell left
    finished := by simp [entries, closed]
    finished_last := fun mem => by
      have ended : last.result = .ok () := by simpa [entries, closed] using mem
      refine List.getLast?_eq_some_iff.mpr
        ⟨.log .started :: (first.trace ++ .log (.nameRead name.isEmpty) ::
          (second.trace ++ .log (.ageClassified age age.bracket) :: last.trace)), ?_⟩
      simp [shown, closing, ended] }

end

/-- **Every course of a tour is reported as it is.** -/
theorem Course.truthful {console left : Console} {result : Except Interruption Unit} {trace : Trace}
    (h : Course console result trace left) : Truthful console.source result trace := by
  cases h with
  | unnamed asked ended => exact truthful_of_unnamed asked ended rfl
  | unanswered asked named askedAgain ended =>
    exact truthful_of_unanswered asked named askedAgain ended rfl
  | rejected asked named askedAgain answered noAge =>
    exact truthful_of_rejected asked named askedAgain answered noAge rfl
  | parted asked named askedAgain answered aged left =>
    exact truthful_of_parted asked named askedAgain answered aged left rfl

end Tour

namespace Script

/-! ## The reports of a script -/

/-- A tour in a script is a tour. -/
theorem perform_tour (console : Console) :
    Step.tour.dialogue.perform console =
      ⟨(Tour.dialogue.perform console).result.map fun _ => .done,
        (Tour.dialogue.perform console).effects, (Tour.dialogue.perform console).console⟩ :=
  Dialogue.perform_map Tour.dialogue _ console

/-- A question in a script is a question. -/
theorem perform_question (text : String) (console : Console) :
    (Step.question text).dialogue.perform console =
      ⟨((Dialogue.ask text).perform console).result.map .line,
        ((Dialogue.ask text).perform console).effects,
        ((Dialogue.ask text).perform console).console⟩ :=
  Dialogue.perform_map (Dialogue.ask text) _ console

/-- **What a script reports is what happened**, under any faults: in every tour the reports agree
with the result, the reads and the writes of that tour, and a question reports nothing. -/
theorem reports_of_step (setup : Setup) (earlier later : List Step) (step : Step) :
    let before := left earlier setup.console
    let performance := step.dialogue.perform before
    run (earlier ++ step :: later) setup.console =
        run earlier setup.console ++ performance :: run later performance.console ∧
      match step with
      | .tour =>
        Tour.Truthful before.source (performance.result.map fun _ => ()) performance.trace
      | .question _ => performance.trace.entries = [] := by
  intro before performance
  refine ⟨run_append _ _ _, ?_⟩
  cases step with
  | tour =>
    have truthful := (Tour.course before).truthful
    have result : performance.result.map (fun _ => ()) = (Tour.dialogue.perform before).result := by
      change (Step.tour.dialogue.perform before).result.map _ = _
      rw [perform_tour]
      cases (Tour.dialogue.perform before).result <;> rfl
    have trace : performance.trace = (Tour.dialogue.perform before).trace :=
      congrArg Performance.trace (perform_tour before)
    rw [result, trace]
    exact truthful
  | question text =>
    have trace : performance.trace = ((Dialogue.ask text).perform before).trace :=
      congrArg Performance.trace (perform_question text before)
    rw [trace]
    exact Dialogue.entries_ask before text

end Script

end Walkthrough
