import Walkthrough.Proofs.Faultless
import Walkthrough.Proofs.Stages

/-!
# The course of a tour

On any console, however much of it is used up and whichever devices fail, a tour is made of two
questions and a leave-taking, each performed on the console as the one before has left it.  The
reports stand between these parts and nowhere else (`Tour.course`).  Without its reports a tour is
just these parts one after the other (`Tour.perform_dialogue_inParts`).
-/

namespace Walkthrough

open Text.Utf8 (encode)

namespace Trace

/-- The effects that are no reports. -/
def unlogged (trace : Trace) : Trace :=
  trace.filter fun effect => effect.entry?.isNone

@[simp]
theorem unlogged_nil : unlogged [] = [] := rfl

@[simp]
theorem unlogged_append (a b : Trace) : unlogged (a ++ b) = unlogged a ++ unlogged b :=
  List.filter_append a b

@[simp]
theorem unlogged_log_cons (entry : Diagnostics.Entry) (trace : Trace) :
    unlogged (.log entry :: trace) = unlogged trace := rfl

/-- A trace without reports keeps all its effects. -/
theorem unlogged_of_entries {trace : Trace} (h : trace.entries = []) : trace.unlogged = trace := by
  refine List.filter_eq_self.mpr fun effect mem => ?_
  rw [List.filterMap_eq_nil_iff.mp h effect mem]
  rfl

end Trace

namespace Dialogue

/-- What is done with the result of a dialogue makes no difference to its performance. -/
theorem perform_map {α β : Type} (dialogue : Dialogue α) (f : α → β) (console : Console) :
    (dialogue.bind fun result => done (f result)).perform console =
      ⟨(dialogue.perform console).result.map f, (dialogue.perform console).effects,
        (dialogue.perform console).console⟩ := by
  rw [perform_bind]
  cases dialogue.perform console with
  | mk result effects left => cases result <;> simp [Performance.andThen, perform, Except.map]

/-! ## Telling and asking on any console -/

/-- Say a text and make sure that it is seen. -/
def tell (text : String) : Dialogue Unit :=
  say text (flush (done ()))

/-- The ways in which telling something goes on a console: the writer does not take all of it, the
flush fails, or it is seen. -/
inductive Telling (console : Console) (text : String) : Performance Unit → Prop where
  | refused {error : DeviceError} (refusal : console.refusal? (encode text) = some error) :
      Telling console text ⟨.error (.device error), [.out (console.acceptedOf (encode text))],
        console.write (encode text)⟩
  | unseen {error : DeviceError} (taken : console.refusal? (encode text) = none)
      (failure : (console.write (encode text)).flushFailure? = some error) :
      Telling console text ⟨.error (.device error), [.out (encode text), .flush],
        (console.write (encode text)).flush⟩
  | seen (taken : console.refusal? (encode text) = none)
      (flushed : (console.write (encode text)).flushFailure? = none) :
      Telling console text ⟨.ok (), [.out (encode text), .flush],
        (console.write (encode text)).flush⟩

theorem telling (console : Console) (text : String) :
    Telling console text ((tell text).perform console) := by
  simp only [tell, perform]
  cases taken : console.refusal? (encode text) with
  | some error => exact .refused taken
  | none =>
    cases flushed : (console.write (encode text)).flushFailure? with
    | some error => exact .unseen taken flushed
    | none => exact .seen taken flushed

/-- A question is told, and then a line is awaited. -/
theorem perform_ask_eq (console : Console) (question : String) :
    (ask question).perform console =
      ((tell question).perform console).andThen fun _ told =>
        ⟨told.source.listen, [.read told.source.line.length], told.advance⟩ := by
  have parts : ask question = (tell question).bind fun _ => listen done := rfl
  have awaited : (fun _ : Unit => (listen done).perform) = fun _ told =>
      ⟨told.source.listen, [.read told.source.line.length], told.advance⟩ := by
    funext _ told
    simp only [perform]
    cases told.source.listen <;> rfl
  rw [parts, perform_bind, awaited]

theorem entries_tell (console : Console) (text : String) :
    ((tell text).perform console).trace.entries = [] := by
  have told := telling console text
  generalize (tell text).perform console = performance at told ⊢
  rw [Performance.trace, Trace.entries_merge]
  cases told <;> rfl

theorem entries_ask (console : Console) (question : String) :
    ((ask question).perform console).trace.entries = [] := by
  rw [Performance.trace, Trace.entries_merge, perform_ask_eq]
  have told := telling console question
  generalize (tell question).perform console = performance at told ⊢
  cases told <;> rfl

end Dialogue

namespace Tour

open Dialogue (ask tell)
open Diagnostics (Entry)

/-! ## The reports stand between the parts -/

/-- What a tour reports behind its leave-taking. -/
def closing : Except Interruption Unit → Trace
  | .ok () => [.log .finished]
  | .error _ => []

/-- The ways in which a tour goes on a console, by the part in which it ends: the question for the
name, the question for the age, the answer to it, or the leave-taking.  The tour has the given
result, shows the given trace, and leaves the given console. -/
inductive Course (console : Console) : Except Interruption Unit → Trace → Console → Prop where
  | unnamed {first : Performance String} {interruption : Interruption}
      (asked : (ask opening).perform console = first)
      (ended : first.result = .error interruption) :
      Course console (.error interruption) (.log .started :: first.trace) first.console
  | unanswered {first second : Performance String} {name : String} {interruption : Interruption}
      (asked : (ask opening).perform console = first) (named : first.result = .ok name)
      (askedAgain : (ask (interlude name)).perform first.console = second)
      (ended : second.result = .error interruption) :
      Course console (.error interruption)
        (.log .started :: (first.trace ++ .log (.nameRead name.isEmpty) :: second.trace))
        second.console
  | rejected {first second : Performance String} {name answer : String}
      {interruption : Interruption}
      (asked : (ask opening).perform console = first) (named : first.result = .ok name)
      (askedAgain : (ask (interlude name)).perform first.console = second)
      (answered : second.result = .ok answer) (noAge : ageOf answer = .error interruption) :
      Course console (.error interruption)
        (.log .started :: (first.trace ++ .log (.nameRead name.isEmpty) :: (second.trace ++
          [.log (.ageRejected interruption)])))
        second.console
  | parted {first second : Performance String} {name answer : String} {age : Age}
      {last : Performance Unit}
      (asked : (ask opening).perform console = first) (named : first.result = .ok name)
      (askedAgain : (ask (interlude name)).perform first.console = second)
      (answered : second.result = .ok answer) (aged : ageOf answer = .ok age)
      (left : (tell (parting age.bracket)).perform second.console = last) :
      Course console last.result
        (.log .started :: (first.trace ++ .log (.nameRead name.isEmpty) :: (second.trace ++
          .log (.ageClassified age age.bracket) :: (last.trace ++ closing last.result))))
        last.console

/-- What a tour comes to whose second answer is no age. -/
theorem perform_stagedEnd_of_error {answer : String} {interruption : Interruption}
    (noAge : ageOf answer = .error interruption) (console : Console) :
    (stagedEnd answer).perform console =
      ⟨.error interruption, [.log (.ageRejected interruption)], console⟩ := by
  unfold stagedEnd
  rw [noAge]
  rfl

/-- What a tour comes to whose second answer is an age. -/
theorem perform_stagedEnd_of_ok {answer : String} {age : Age} (aged : ageOf answer = .ok age)
    (console : Console) :
    let last := (tell (parting age.bracket)).perform console
    (stagedEnd answer).perform console =
      ⟨last.result, .log (.ageClassified age age.bracket) :: (last.effects ++ closing last.result),
        last.console⟩ := by
  intro last
  have parts : stagedEnd answer = .note (.ageClassified age age.bracket)
      ((tell (parting age.bracket)).bind fun _ => .note .finished (.done ())) := by
    unfold stagedEnd
    rw [aged]
    rfl
  have closed : last.andThen (fun _ => (Dialogue.note .finished (.done ())).perform) =
      ⟨last.result, last.effects ++ closing last.result, last.console⟩ := by
    obtain ⟨result, effects, left⟩ := last
    cases result with
    | error interruption => simp [Performance.andThen, closing]
    | ok done => rfl
  rw [parts, Dialogue.perform, Dialogue.perform_bind, closed]
  rfl

theorem merge_append_closing (trace : Trace) (result : Except Interruption Unit) :
    Trace.merge (trace ++ closing result) = trace.merge ++ closing result := by
  cases result with
  | error interruption => simp [closing]
  | ok done => exact Trace.merge_append (by simp)

/-- **The course of a tour** on any console. -/
theorem course (console : Console) :
    Course console (Tour.dialogue.perform console).result (Tour.dialogue.perform console).trace
      (Tour.dialogue.perform console).console := by
  obtain ⟨result, trace, left⟩ := dialogue_alike_staged console
  rw [result, trace, left]
  have stages : staged = .note .started ((ask opening).bind fun name =>
      .note (.nameRead name.isEmpty) ((ask (interlude name)).bind stagedEnd)) := rfl
  have apart (entry : Entry) : ∀ octets, Effect.log entry ≠ .out octets := by simp
  rw [stages, Dialogue.perform, Dialogue.perform_bind]
  generalize asked : (ask opening).perform console = first
  simp only [Performance.trace, Performance.effects_after, Performance.result_after,
    Performance.console_after, Trace.merge_cons (apart _), Performance.andThen]
  cases named : first.result with
  | error interruption => exact .unnamed asked named
  | ok name =>
    simp only [Dialogue.perform, Dialogue.perform_bind, Performance.andThen,
      Performance.effects_after, Performance.result_after, Performance.console_after,
      Trace.merge_append (apart _)]
    generalize askedAgain : (ask (interlude name)).perform first.console = second
    cases answered : second.result with
    | error interruption => exact .unanswered asked named askedAgain answered
    | ok answer =>
      cases aged : ageOf answer with
      | error interruption =>
        simp only [perform_stagedEnd_of_error aged, Trace.merge_append (apart _)]
        exact .rejected asked named askedAgain answered aged
      | ok age =>
        simp only [perform_stagedEnd_of_ok aged, Trace.merge_append (apart _),
          merge_append_closing]
        exact .parted asked named askedAgain answered aged rfl

/-! ## The tour without its reports -/

/-- A tour put together from its parts: the question for the name, the question for the age and, if
the answer is an age, the leave-taking.  Each is performed on the console as the one before has left
it.  A question that gets no answer ends the tour, and so does an answer that is no age. -/
def inParts (console : Console) : Performance Unit :=
  let first := (ask (greeting ++ "\n" ++ nameQuestion)).perform console
  match first.result with
  | .error interruption => ⟨.error interruption, first.trace, first.console⟩
  | .ok name =>
    let second := (ask (welcome name ++ "\n" ++ countingBlock ++ fruitBlock ++ ageQuestion)).perform
      first.console
    match second.result with
    | .error interruption => ⟨.error interruption, first.trace ++ second.trace, second.console⟩
    | .ok answer =>
      match ageOf answer with
      | .error interruption => ⟨.error interruption, first.trace ++ second.trace, second.console⟩
      | .ok age =>
        let last := (tell (age.bracket.message ++ "\n\n" ++ farewell ++ "\n")).perform
          second.console
        ⟨last.result, first.trace ++ second.trace ++ last.trace, last.console⟩

theorem unlogged_closing (result : Except Interruption Unit) : (closing result).unlogged = [] := by
  cases result <;> rfl

/-- Each course of a tour is that of its parts. -/
theorem Course.inParts {console left : Console} {result : Except Interruption Unit} {trace : Trace}
    (h : Course console result trace left) :
    result = (inParts console).result ∧ trace.unlogged = (inParts console).effects ∧
      left = (inParts console).console := by
  have told (console : Console) (text : String) :=
    Trace.unlogged_of_entries (Dialogue.entries_tell console text)
  have asked (console : Console) (question : String) :=
    Trace.unlogged_of_entries (Dialogue.entries_ask console question)
  have interlude_eq (name : String) : welcome name ++ "\n" ++ countingBlock ++ fruitBlock ++
      ageQuestion = interlude name := rfl
  have parting_eq (bracket : Bracket) : bracket.message ++ "\n\n" ++ farewell ++ "\n" =
      parting bracket := rfl
  simp only [Tour.inParts, opening_eq, interlude_eq, parting_eq]
  cases h with
  | unnamed first ended =>
    subst first
    simp only [ended, Trace.unlogged_log_cons, asked, and_self]
  | unanswered first named second ended =>
    subst first second
    simp only [named, ended, Trace.unlogged_log_cons, Trace.unlogged_append, asked, and_self]
  | rejected first named second answered noAge =>
    subst first second
    simp only [named, answered, noAge, Trace.unlogged_log_cons, Trace.unlogged_append, asked,
      Trace.unlogged_nil, List.append_nil, and_self]
  | parted first named second answered aged last =>
    subst first second last
    simp only [named, answered, aged, Trace.unlogged_log_cons, Trace.unlogged_append, asked, told,
      unlogged_closing, List.append_nil, List.append_assoc, and_self]

/-- **A tour is two questions and a leave-taking** on every console, whatever is left of the input,
however much has been written and flushed, and whichever devices fail.  Its reports left out, it has
the result, the effects and the console of its parts. -/
theorem perform_dialogue_inParts (console : Console) :
    (Tour.dialogue.perform console).result = (inParts console).result ∧
      (Tour.dialogue.perform console).trace.unlogged = (inParts console).effects ∧
      (Tour.dialogue.perform console).console = (inParts console).console :=
  (course console).inParts

end Tour

end Walkthrough
