import Walkthrough.Proofs.Flushing
import Walkthrough.Proofs.Journal

/-!
# What a failure leaves behind

The steps of a script share one reader and one writer, so a device that has failed in one step meets
the later ones as that step has left it.  A writer that has failed accepts nothing more, and a
reader that has failed or has come to its end gives nothing more; a flush that has failed is the
only one that does (`Script.aftermath_of_step`).

Where a dialogue meets a fault, the fault is met in its last effect (`Performance.Struck`), so the
fault is spent on the console that it leaves, and no account of later effects changes that
(`Console.Accounts.spent`).
-/

namespace Walkthrough

open Text.Utf8 (encode)
open Text.Line (first isEnded)

/-! ## Where a fault is met -/

/-- The kind of the fault that a performance meets, if it meets one.  A reader that gives a whole
line has not failed, whatever the line says, and neither has one that comes to the end. -/
def Dialogue.meets? {α : Type} : Dialogue α → Console → Option FaultKind
  | done _, _ => none
  | fail _, _ => none
  | note _ next, console => next.meets? console
  | say text next, console =>
    if (console.refusal? (encode text)).isSome then some .writing
    else next.meets? (console.write (encode text))
  | flush next, console =>
    if console.flushFailure?.isSome then some .flushing else next.meets? console.flush
  | listen next, console =>
    if !isEnded console.source.line && console.source.failure.isSome then some .reading
    else
      match console.source.listen with
      | .error _ => none
      | .ok line => (next line).meets? console.advance

/-- A performance on a console has ended where a fault was met: the writer has not accepted all that
it was given, a flush has failed, or the reader has failed in front of a newline. -/
inductive Performance.Struck {α : Type} (console : Console) : FaultKind → Performance α → Prop where
  | writing {front : Trace} {reached : Console} {octets : List UInt8} {error : DeviceError}
      (account : console.Accounts front reached)
      (refusal : reached.refusal? octets = some error) :
      Struck console .writing
        ⟨.error (.device error), front ++ [.out (reached.acceptedOf octets)], reached.write octets⟩
  | flushing {front : Trace} {reached : Console} {error : DeviceError}
      (account : console.Accounts front reached)
      (failure : reached.flushFailure? = some error) :
      Struck console .flushing ⟨.error (.device error), front ++ [.flush], reached.flush⟩
  | reading {front : Trace} {reached : Console} {error : DeviceError}
      (account : console.Accounts front reached)
      (opened : isEnded reached.source.line = false)
      (failure : reached.source.failure = some error) :
      Struck console .reading
        ⟨.error (.device error), front ++ [.read reached.source.line.length], reached.advance⟩

theorem Performance.Struck.after {α : Type} {console later : Console} {kind : FaultKind}
    {effect : Effect} {performance : Performance α} (h : performance.Struck later kind)
    (account : console.Accounts [effect] later) :
    (performance.after effect).Struck console kind := by
  cases h with
  | writing further refusal => exact .writing (account.append further) refusal
  | flushing further failure => exact .flushing (account.append further) failure
  | reading further opened failure => exact .reading (account.append further) opened failure

theorem Source.opened_of_fails {source : Source}
    (h : (!isEnded source.line && source.failure.isSome) = true) :
    isEnded source.line = false ∧ ∃ error, source.failure = some error := by
  simpa [Option.isSome_iff_exists] using h

/-- **A fault that is met ends the performance.** -/
theorem Dialogue.struck_of_meets? {α : Type} {dialogue : Dialogue α} {console : Console}
    {kind : FaultKind} (h : dialogue.meets? console = some kind) :
    (dialogue.perform console).Struck console kind := by
  induction dialogue generalizing console with
  | done result => cases h
  | fail interruption => cases h
  | note entry next ih => exact (ih h).after (console.accounts_log entry)
  | say text next ih =>
    have account := console.accounts_write (encode text)
    simp only [meets?, perform] at h ⊢
    cases refusal : console.refusal? (encode text) with
    | some error =>
      rw [refusal] at h
      obtain rfl : FaultKind.writing = kind := Option.some.inj h
      exact .writing .rfl refusal
    | none =>
      rw [refusal] at h
      rw [Console.acceptedOf_of_refusal?_eq_none refusal] at account
      exact (ih h).after account
  | flush next ih =>
    simp only [meets?, perform] at h ⊢
    cases failure : console.flushFailure? with
    | some error =>
      rw [failure] at h
      obtain rfl : FaultKind.flushing = kind := Option.some.inj h
      exact .flushing .rfl failure
    | none =>
      rw [failure] at h
      exact (ih h).after console.accounts_flush
  | listen next ih =>
    simp only [meets?, perform] at h ⊢
    split at h
    · rename_i fails
      obtain ⟨opened, error, failure⟩ := Source.opened_of_fails fails
      obtain rfl : FaultKind.reading = kind := Option.some.inj h
      rw [Source.listen_of_opened opened failure]
      exact .reading .rfl opened failure
    · cases heard : console.source.listen with
      | error interruption =>
        rw [heard] at h
        cases h
      | ok line =>
        rw [heard] at h
        exact (ih line h).after console.accounts_advance

/-! ## Spent faults -/

namespace Console

/-- The fault with that error lies behind: the writer is full, the flush that fails has been, or
the reader has nothing to hand out before it fails. -/
def Spent (console : Console) (error : DeviceError) : FaultKind → Prop
  | .writing => ∃ fault, console.writeFault = some fault ∧ fault.error = error ∧
    fault.point ≤ console.accepted
  | .flushing => ∃ fault, console.flushFault = some fault ∧ fault.error = error ∧
    fault.point ≤ console.flushes
  | .reading => console.source.failure = some error ∧ console.source.handedOut = []

variable {before after : Console} {effects : Trace} {error : DeviceError} {kind : FaultKind}

theorem Accounts.handedOut_eq_nil (h : before.Accounts effects after)
    (none : before.source.handedOut = []) : after.source.handedOut = [] := by
  rw [h.handedOut, none, List.drop_nil]

/-- **What is spent stays spent**, whatever happens afterwards. -/
theorem Accounts.spent (h : before.Accounts effects after) (spent : before.Spent error kind) :
    after.Spent error kind := by
  cases kind with
  | writing =>
    obtain ⟨fault, laid, same, le⟩ := spent
    exact ⟨fault, h.writeFault.trans laid, same, by rw [h.accepted]; omega⟩
  | flushing =>
    obtain ⟨fault, laid, same, le⟩ := spent
    exact ⟨fault, h.flushFault.trans laid, same, by rw [h.flushes]; omega⟩
  | reading => exact ⟨h.failure.trans spent.1, h.handedOut_eq_nil spent.2⟩

theorem Spent.errorOf (h : before.Spent error kind) : before.errorOf kind = some error := by
  cases kind with
  | writing =>
    obtain ⟨fault, laid, same, -⟩ := h
    exact Option.map_eq_some_iff.mpr ⟨fault, laid, same⟩
  | flushing =>
    obtain ⟨fault, laid, same, -⟩ := h
    exact Option.map_eq_some_iff.mpr ⟨fault, laid, same⟩
  | reading => exact h.1

end Console

/-- A fault that was met is spent. -/
theorem Performance.Struck.spent {α : Type} {console : Console} {kind : FaultKind}
    {performance : Performance α} (h : performance.Struck console kind) :
    ∃ error, performance.result = .error (.device error) ∧
      performance.console.Spent error kind := by
  cases h with
  | @writing _ reached octets error _ refusal =>
    obtain ⟨fault, laid, same, short⟩ := Console.refusal?_eq_some_iff.mp refusal
    have accepted : reached.acceptedOf octets = octets.take (fault.point - reached.accepted) := by
      rw [Console.acceptedOf, laid]
    refine ⟨error, rfl, fault, laid, same, ?_⟩
    simp only [Console.write, accepted, List.length_take]
    omega
  | @flushing _ _ error _ failure =>
    obtain ⟨fault, laid, same, due⟩ := Console.flushFailure?_eq_some_iff.mp failure
    exact ⟨error, rfl, fault, laid, same, Nat.le_of_eq due⟩
  | @reading _ reached error _ opened failure =>
    refine ⟨error, rfl, failure, ?_⟩
    rw [reached.line_eq_first_handedOut] at opened
    rw [reached.accounts_advance.handedOut, reached.line_eq_first_handedOut,
      Text.Line.first_of_not_isEnded opened]
    simp [Effect.consumed]

/-! ## A full writer -/

/-- A writer that accepts nothing stays as it is. -/
theorem Console.write_of_acceptedOf_eq_nil {console : Console} {octets : List UInt8}
    (h : console.acceptedOf octets = []) : console.write octets = console := by
  rw [write, h]
  rfl

@[simp]
theorem Console.write_nil (console : Console) : console.write [] = console :=
  write_of_acceptedOf_eq_nil console.acceptedOf_nil

/-- A writer whose fault is spent accepts nothing of what it is given. -/
theorem Console.refusal?_of_spent {console : Console} {error : DeviceError} {octets : List UInt8}
    (full : console.Spent error .writing) (h : octets ≠ []) :
    console.refusal? octets = some error ∧ console.acceptedOf octets = [] := by
  obtain ⟨fault, laid, same, le⟩ := full
  have none : fault.point - console.accepted = 0 := Nat.sub_eq_zero_of_le le
  refine ⟨Console.refusal?_eq_some_iff.mpr ⟨fault, laid, same, ?_⟩, ?_⟩
  · rw [none]
    exact List.length_pos_of_ne_nil h
  · rw [Console.acceptedOf, laid]
    simp only [none, List.take_zero]

/-- What is said first on a console with a full writer ends the performance. -/
theorem Dialogue.perform_say_of_spent {α : Type} {console : Console} {error : DeviceError}
    {text : String} (full : console.Spent error .writing) (h : text ≠ "") (next : Dialogue α) :
    (say text next).perform console = ⟨.error (.device error), [.out []], console⟩ := by
  obtain ⟨refusal, accepted⟩ :=
    Console.refusal?_of_spent full (mt Text.Utf8.encode_eq_nil.mp h)
  simp only [perform, refusal, accepted, Console.write_of_acceptedOf_eq_nil accepted]

namespace Script

/-- What a step comes to on a console whose writer does nothing any more but fail with an error. -/
structure Step.Muted (step : Step) (console : Console) (error : DeviceError) : Prop where
  silent : (step.dialogue.perform console).trace.written = []
  /-- a tour starts, and that is all -/
  tour : step = .tour →
    (step.dialogue.perform console).result = .error (.device error) ∧
      (step.dialogue.perform console).trace = [.log .started] ∧
      (step.dialogue.perform console).console = console
  question (text : String) : step = .question text → text ≠ "" →
    (step.dialogue.perform console).result = .error (.device error) ∧
      (step.dialogue.perform console).trace = [] ∧
      (step.dialogue.perform console).console = console
  /-- a question without words is flushed, and then an answer is awaited -/
  wordless : step = .question "" →
    match console.flushFailure? with
    | some failure =>
      (step.dialogue.perform console).result = .error (.device failure) ∧
        (step.dialogue.perform console).trace = [.flush]
    | none =>
      (step.dialogue.perform console).result = console.source.listen.map .line ∧
        (step.dialogue.perform console).trace = [.flush, .read console.source.line.length]

variable {console : Console} {error : DeviceError}

theorem perform_tour_of_spent (full : console.Spent error .writing) :
    Step.tour.dialogue.perform console =
      ⟨.error (.device error), [.log .started, .out []], console⟩ := by
  obtain ⟨next, tour⟩ : ∃ next, Step.tour.dialogue =
      .note .started (.say (Tour.greeting ++ "\n") next) := ⟨_, rfl⟩
  rw [tour, Dialogue.perform, Dialogue.perform_say_of_spent full (by decide)]
  rfl

theorem perform_question_of_spent {text : String} (full : console.Spent error .writing)
    (h : text ≠ "") :
    (Step.question text).dialogue.perform console =
      ⟨.error (.device error), [.out []], console⟩ :=
  Dialogue.perform_say_of_spent full h _

/-- A question without words is nothing to any writer. -/
theorem perform_wordless (console : Console) :
    (Step.question "").dialogue.perform console =
      match console.flushFailure? with
      | some failure => ⟨.error (.device failure), [.out [], .flush], console.flush⟩
      | none => ⟨console.source.listen.map .line,
          [.out [], .flush, .read console.source.line.length], console.flush.advance⟩ := by
  have wordless : (Step.question "").dialogue =
      .say "" (.flush (.listen fun line => .done (.line line))) := rfl
  simp only [wordless, Dialogue.perform, Text.Utf8.encode_empty, Console.refusal?_nil,
    Console.write_nil, Console.source_flush]
  cases console.flushFailure? with
  | some failure => rfl
  | none => cases console.source.listen <;> rfl

/-- **Every step is muted by a full writer.** -/
theorem Step.muted_of_spent (step : Step) (full : console.Spent error .writing) :
    step.Muted console error := by
  cases step with
  | tour =>
    have performance := perform_tour_of_spent full
    exact {
      silent := by rw [performance]; rfl
      tour := fun _ => by rw [performance]; exact ⟨rfl, rfl, rfl⟩
      question := nofun
      wordless := nofun }
  | question text =>
    by_cases empty : text = ""
    · subst empty
      have performance := perform_wordless console
      exact {
        silent := by
          rw [performance]
          cases console.flushFailure? <;> rfl
        tour := nofun
        question := fun _ same h => absurd (Step.question.inj same).symm h
        wordless := fun _ => by
          rw [performance]
          cases console.flushFailure? with
          | some failure => exact ⟨rfl, rfl⟩
          | none => exact ⟨rfl, rfl⟩ }
    · have performance := perform_question_of_spent full empty
      exact {
        silent := by rw [performance]; rfl
        tour := nofun
        question := fun _ _ _ => by rw [performance]; exact ⟨rfl, rfl, rfl⟩
        wordless := fun same => absurd (Step.question.inj same) empty }

end Script

/-! ## A reader that gives nothing -/

namespace Source

variable {source : Source}

/-- A reader that hands out nothing gives no line, but its failure or the end of the input. -/
theorem listen_of_handedOut_eq_nil (h : source.handedOut = []) :
    source.line = [] ∧ source.listen = .error (source.failure.elim .inputClosed .device) := by
  have line : source.line = [] := by
    have front : source.line ++ (gather source.pieces).2.flatten = [] :=
      (gather_append source.pieces).trans h
    exact (List.append_eq_nil_iff.mp front).1
  refine ⟨line, ?_⟩
  unfold listen answer
  rw [line, if_neg (by decide)]
  cases source.failure with
  | some error => rfl
  | none => rfl

/-- Octets that were read say nothing of the end of the input. -/
theorem interpret_ne_inputClosed (octets : List UInt8) :
    interpret octets ≠ .error .inputClosed := by
  unfold interpret
  split <;> simp

/-- The input is found closed only where nothing is left and no failure is met. -/
theorem exhausted_of_listen (h : source.listen = .error .inputClosed) :
    source.handedOut = [] ∧ source.failure = none := by
  unfold listen answer at h
  split at h
  · exact absurd h (interpret_ne_inputClosed _)
  · rename_i opened
    split at h
    · cases h
    · rename_i failure
      split at h
      · rename_i empty
        refine ⟨Text.Line.eq_nil_of_first_eq_nil ?_, failure⟩
        rw [handedOut, ← List.isEmpty_iff.mp empty, line_eq_first]
      · exact absurd h (interpret_ne_inputClosed _)

end Source

namespace Trace

variable {trace : Trace}

/-- The last effect is the only read, and it has taken nothing. -/
def ReadsInVain (trace : Trace) : Prop :=
  ∃ front : Trace, trace = front ++ [.read 0] ∧ front.reads = 0

theorem ReadsInVain.cons (h : trace.ReadsInVain) {effect : Effect} (other : effect.isRead = false) :
    ReadsInVain (effect :: trace) := by
  obtain ⟨front, rfl, none⟩ := h
  exact ⟨effect :: front, rfl, (List.countP_cons_of_neg (by simp [other])).trans none⟩

theorem ReadsInVain.merge (h : trace.ReadsInVain) : trace.merge.ReadsInVain := by
  obtain ⟨front, rfl, none⟩ := h
  exact ⟨front.merge, merge_append fun octets => Effect.noConfusion, by rwa [reads_merge]⟩

end Trace

/-- Nothing is read, or the first read takes nothing and ends the performance. -/
def Performance.Deaf {α : Type} (performance : Performance α) (interruption : Interruption) :
    Prop :=
  performance.trace.reads = 0 ∨
    performance.trace.ReadsInVain ∧ performance.result = .error interruption

theorem Dialogue.readsInVain_of_handedOut_eq_nil {α : Type} (dialogue : Dialogue α)
    {console : Console} (h : console.source.handedOut = []) :
    (dialogue.perform console).effects.reads = 0 ∨
      (dialogue.perform console).effects.ReadsInVain ∧
        (dialogue.perform console).result =
          .error (console.source.failure.elim .inputClosed .device) := by
  -- what is said or flushed in front of the first read leaves the reader as it is
  have after {effect : Effect} {rest : Performance α} {interruption : Interruption}
      (other : effect.isRead = false)
      (ways : rest.effects.reads = 0 ∨ rest.effects.ReadsInVain ∧
        rest.result = .error interruption) :
      (rest.after effect).effects.reads = 0 ∨ (rest.after effect).effects.ReadsInVain ∧
        (rest.after effect).result = .error interruption := by
    rcases ways with none | ⟨vain, result⟩
    · exact .inl ((List.countP_cons_of_neg (by simp [other])).trans none)
    · exact .inr ⟨vain.cons other, result⟩
  induction dialogue generalizing console with
  | done result => exact .inl rfl
  | fail interruption => exact .inl rfl
  | note entry next ih => exact after rfl (ih h)
  | say text next ih =>
    simp only [perform]
    cases console.refusal? (encode text) with
    | some error => exact .inl rfl
    | none =>
      have written : (console.write (encode text)).source.handedOut = [] := h
      exact after rfl (ih written)
  | flush next ih =>
    simp only [perform]
    cases console.flushFailure? with
    | some error => exact .inl rfl
    | none =>
      have flushed : console.flush.source.handedOut = [] := h
      exact after rfl (ih flushed)
  | listen next ih =>
    obtain ⟨line, heard⟩ := Source.listen_of_handedOut_eq_nil h
    simp only [perform, heard, line]
    exact .inr ⟨⟨[], rfl, rfl⟩, trivial⟩

/-- **Every dialogue is deaf where the reader hands out nothing.** -/
theorem Dialogue.deaf {α : Type} (dialogue : Dialogue α) {console : Console}
    (h : console.source.handedOut = []) :
    (dialogue.perform console).Deaf (console.source.failure.elim .inputClosed .device) := by
  rcases dialogue.readsInVain_of_handedOut_eq_nil h with none | ⟨vain, result⟩
  · exact .inl ((Trace.reads_merge _).trans none)
  · exact .inr ⟨vain.merge, result⟩

/-! ## Input that was found closed -/

/-- A question that found the input closed leaves a reader that hands out nothing. -/
theorem Dialogue.exhausted_of_ask {console : Console} {question : String}
    {performance : Performance String} (asked : (ask question).perform console = performance)
    (closed : performance.result = .error .inputClosed) :
    performance.console.source.handedOut = [] ∧ performance.console.source.failure = none := by
  have account := (ask question).perform_accounts console
  rw [asked] at account
  rcases read_of_ask_eq_error asked closed with ⟨-, error, other⟩ | ⟨-, heard⟩
  · cases other
  · obtain ⟨none, failure⟩ := Source.exhausted_of_listen heard
    exact ⟨account.handedOut_eq_nil none, account.failure.trans failure⟩

/-- So does a tour. -/
theorem Tour.Course.exhausted {console left : Console} {result : Except Interruption Unit}
    {trace : Trace} (h : Course console result trace left) (closed : result = .error .inputClosed) :
    left.source.handedOut = [] ∧ left.source.failure = none := by
  cases h with
  | unnamed asked ended =>
    obtain rfl := Except.error.inj closed
    exact Dialogue.exhausted_of_ask asked ended
  | unanswered _ _ askedAgain ended =>
    obtain rfl := Except.error.inj closed
    exact Dialogue.exhausted_of_ask askedAgain ended
  | rejected _ _ _ _ noAge =>
    obtain ⟨reason, rejected⟩ := exists_ageRejected_of_ageOf noAge
    rw [rejected] at closed
    cases closed
  | parted _ _ _ _ _ left =>
    obtain ⟨error, other⟩ := Dialogue.exists_error_of_tell left closed
    cases other

namespace Script

theorem eq_error_of_map_eq_error {α : Type} {result : Except Interruption α} {f : α → Reply}
    {interruption : Interruption} (h : result.map f = .error interruption) :
    result = .error interruption := by
  cases result with
  | error same => exact congrArg Except.error (Except.error.inj h)
  | ok value => cases h

/-- A step that found the input closed leaves a reader that hands out nothing. -/
theorem Step.exhausted {step : Step} {console : Console}
    (closed : (step.dialogue.perform console).result = .error .inputClosed) :
    (step.dialogue.perform console).console.source.handedOut = [] ∧
      (step.dialogue.perform console).console.source.failure = none := by
  cases step with
  | tour =>
    rw [perform_tour] at closed ⊢
    exact (Tour.course console).exhausted (eq_error_of_map_eq_error closed)
  | question text =>
    rw [perform_question] at closed ⊢
    exact Dialogue.exhausted_of_ask rfl (eq_error_of_map_eq_error closed)

end Script

/-! ## The flush that fails -/

/-- A flush fault that is not met stays ahead. -/
theorem Dialogue.flushes_lt_of_meets?_ne {α : Type} {dialogue : Dialogue α} {console : Console}
    {fault : Fault} (h : dialogue.meets? console ≠ some .flushing)
    (laid : console.flushFault = some fault) (ahead : console.flushes < fault.point) :
    (dialogue.perform console).console.flushes < fault.point := by
  induction dialogue generalizing console with
  | done result => exact ahead
  | fail interruption => exact ahead
  | note entry next ih => exact ih h laid ahead
  | say text next ih =>
    simp only [meets?, perform] at h ⊢
    cases refusal : console.refusal? (encode text) with
    | some error => exact ahead
    | none =>
      rw [refusal] at h
      exact ih h laid ahead
  | flush next ih =>
    simp only [meets?, perform] at h ⊢
    cases failure : console.flushFailure? with
    | some error =>
      rw [failure] at h
      exact absurd rfl h
    | none =>
      rw [failure] at h
      have other := Console.flushFailure?_eq_none_iff.mp failure fault laid
      exact ih h laid (Nat.lt_of_le_of_ne ahead (Ne.symm other))
  | listen next ih =>
    simp only [meets?, perform] at h ⊢
    cases heard : console.source.listen with
    | error interruption => exact ahead
    | ok line =>
      rw [heard] at h
      split at h
      · rename_i fails
        obtain ⟨opened, error, failure⟩ := Source.opened_of_fails fails
        rw [Source.listen_of_opened opened failure] at heard
        cases heard
      · exact ih line h laid ahead

/-- A flush fault that is met is met in the last effect, which is the flush of its number. -/
theorem Performance.Struck.last_flush {α : Type} {console : Console} {performance : Performance α}
    (h : performance.Struck console .flushing) :
    ∃ (fault : Fault) (front : Trace), console.flushFault = some fault ∧
      performance.trace = front ++ [.flush] ∧
        fault.point = console.flushes + front.count .flush + 1 := by
  cases h with
  | @flushing front reached error account failure =>
    obtain ⟨fault, laid, -, due⟩ := Console.flushFailure?_eq_some_iff.mp failure
    refine ⟨fault, front.merge, account.flushFault.symm.trans laid, ?_, ?_⟩
    · exact Trace.merge_append fun octets => Effect.noConfusion
    · rw [due, account.flushes, Trace.count_flush_merge]

/-- **A flush fault is met exactly where its number comes up.** -/
theorem Dialogue.meets?_eq_flushing_iff {α : Type} {dialogue : Dialogue α} {console : Console} :
    dialogue.meets? console = some .flushing ↔
      ∃ fault, console.flushFault = some fault ∧ console.flushes < fault.point ∧
        fault.point ≤ (dialogue.perform console).console.flushes := by
  constructor
  · intro h
    have struck := struck_of_meets? h
    obtain ⟨fault, front, laid, trace, point⟩ := struck.last_flush
    have account := Performance.accounts_trace dialogue console
    refine ⟨fault, laid, by omega, ?_⟩
    rw [account.flushes, trace, List.count_append, List.count_singleton_self]
    omega
  · rintro ⟨fault, laid, started, le⟩
    by_contra h
    exact absurd (flushes_lt_of_meets?_ne h laid started) (Nat.not_lt.mpr le)

/-- Behind the flush that fails no other one does. -/
theorem Console.Spent.flushes_succeed {console : Console} {error : DeviceError}
    (h : console.Spent error .flushing) :
    (∀ {α : Type} (dialogue : Dialogue α), dialogue.meets? console ≠ some .flushing) ∧
      ∀ number, console.flushes < number → FlushSucceeds console.flushFault number := by
  obtain ⟨fault, laid, -, le⟩ := h
  constructor
  · intro α dialogue met
    obtain ⟨last, same, started, -⟩ := Dialogue.meets?_eq_flushing_iff.mp met
    obtain rfl : fault = last := Option.some.inj (laid.symm.trans same)
    exact absurd started (Nat.not_lt.mpr le)
  · intro number started last same
    obtain rfl : fault = last := Option.some.inj (laid.symm.trans same)
    exact Nat.ne_of_lt (Nat.lt_of_le_of_lt le started)

/-! ## Later steps -/

namespace Script

/-- A fault that a step meets is one that was laid, and it is spent from then on. -/
theorem exists_fault_of_meets? {setup : Setup} {earlier : List Step} {step : Step}
    {kind : FaultKind} (h : step.dialogue.meets? (left earlier setup.console) = some kind)
    (between : List Step) :
    ∃ fault, setup.faultOf kind = some fault ∧
      (step.dialogue.perform (left earlier setup.console)).result =
        .error (.device fault.error) ∧
      (left between (step.dialogue.perform (left earlier setup.console)).console).Spent
        fault.error kind := by
  obtain ⟨error, result, spent⟩ := (Dialogue.struck_of_meets? h).spent
  have account := (accounts_left earlier setup.console).append
    (step.dialogue.perform_accounts (left earlier setup.console))
  have laid := spent.errorOf
  rw [account.errorOf] at laid
  obtain ⟨fault, same, rfl⟩ := Setup.exists_fault_of_errorOf laid
  exact ⟨fault, same, result, (accounts_left between _).spent spent⟩

/-- **What a failure leaves behind in a script**, under any faults, for a step and any later one.
Once a write has failed, every later step is muted.  Once the reader has failed, or a step has found
the input closed, every later step is deaf and ends in the same way when it reads.  The flush fault
is met in the step in which its number comes up, and no flush behind that fails. -/
theorem aftermath_of_step (setup : Setup) (earlier between later : List Step) (step next : Step) :
    let before := left earlier setup.console
    let struck := step.dialogue.perform before
    let now := left between struck.console
    let performance := next.dialogue.perform now
    let flushes := (past earlier setup.console).count .flush
    run (earlier ++ step :: (between ++ next :: later)) setup.console =
        run earlier setup.console ++ struck ::
          (run between struck.console ++ performance :: run later performance.console) ∧
      (step.dialogue.meets? before = some .writing →
        ∃ fault, setup.writeFault = some fault ∧ struck.result = .error (.device fault.error) ∧
          next.Muted now fault.error) ∧
      (step.dialogue.meets? before = some .reading →
        ∃ fault, setup.readFault = some fault ∧ struck.result = .error (.device fault.error) ∧
          performance.Deaf (.device fault.error)) ∧
      (struck.result = .error .inputClosed → performance.Deaf .inputClosed) ∧
      (step.dialogue.meets? before = some .flushing ↔
        ∃ fault, setup.flushFault = some fault ∧ flushes < fault.point ∧
          fault.point ≤ flushes + struck.trace.count .flush) ∧
      (step.dialogue.meets? before = some .flushing →
        ∃ (fault : Fault) (front : Trace), setup.flushFault = some fault ∧
          struck.result = .error (.device fault.error) ∧ struck.trace = front ++ [.flush] ∧
          fault.point = flushes + front.count .flush + 1 ∧
          next.dialogue.meets? now ≠ some .flushing ∧
          ∀ number, now.flushes < number → FlushSucceeds setup.flushFault number) := by
  intro before struck now performance flushes
  have start := accounts_left earlier setup.console
  have account := Performance.accounts_trace step.dialogue before
  have onwards := accounts_left between struck.console
  have counted : before.flushes = flushes := start.flushes.trans (Nat.zero_add _)
  refine ⟨?_, ?_, ?_, ?_, ?_, ?_⟩
  · rw [run_append, run, run_append, run]
  · intro met
    obtain ⟨fault, laid, result, spent⟩ := exists_fault_of_meets? met between
    exact ⟨fault, laid, result, next.muted_of_spent spent⟩
  · intro met
    obtain ⟨fault, laid, result, failure, none⟩ := exists_fault_of_meets? met between
    have deaf := next.dialogue.deaf none
    rw [failure] at deaf
    exact ⟨fault, laid, result, deaf⟩
  · intro closed
    obtain ⟨none, endless⟩ := Step.exhausted closed
    have deaf := next.dialogue.deaf (onwards.handedOut_eq_nil none)
    rw [onwards.failure, endless] at deaf
    exact deaf
  · rw [Dialogue.meets?_eq_flushing_iff, account.flushes, start.flushFault, counted]
    rfl
  · intro met
    obtain ⟨fault, laid, result, spent⟩ := exists_fault_of_meets? met between
    obtain ⟨last, front, here, trace, point⟩ := (Dialogue.struck_of_meets? met).last_flush
    -- there is one flush fault, and every console on the way carries it
    obtain rfl : last = fault := Option.some.inj (here.symm.trans (start.flushFault.trans laid))
    have carried : now.flushFault = setup.flushFault :=
      onwards.flushFault.trans (account.flushFault.trans start.flushFault)
    obtain ⟨notAgain, succeed⟩ := spent.flushes_succeed
    rw [counted] at point
    exact ⟨last, front, laid, result, trace, point, notAgain next.dialogue, carried ▸ succeed⟩

/-- A writer that takes three octets mutes what follows the tour in which it fails, but a question
without words still hears the line that the tour has left. -/
example :
    let setup : Setup :=
      { Setup.faultless (encode "Ada") with
        writeFault := some ⟨3, .notText⟩
        writeFatal := by decide }
    (run [.tour, .question "?", .question ""] setup.console).map (·.trace) =
      [[.log .started, .out (encode "Hel")], [], [.flush, .read 3]] := by
  decide

end Script

end Walkthrough
