import Walkthrough.Proofs.Position

/-!
# Nothing is said without being seen

Who is asked something has seen everything that was said, and so has who is left.  A dialogue is
tidy if it flushes before it listens and before it ends (`Dialogue.Tidy`); the tour and every
question are.  On any console a tidy dialogue reads only directly behind a flush that succeeded, and
unless its writer or a flush fails nothing that was written is left without one behind it
(`Tidy.perform`).  In a script this covers what earlier steps have left as well (`flushed_of_step`).
-/

namespace Walkthrough

/-- The flush of that number, counted from one, does not fail. -/
def FlushSucceeds (fault? : Option Fault) (number : Nat) : Prop :=
  ∀ fault, fault? = some fault → fault.point ≠ number

theorem Console.flushFailure?_eq_none_iff {console : Console} :
    console.flushFailure? = none ↔ FlushSucceeds console.flushFault (console.flushes + 1) := by
  unfold flushFailure? FlushSucceeds
  cases console.flushFault with
  | none => simp
  | some fault => simp

namespace Trace

/-! ## Effects behind a flush

Flushes are numbered over all that happens on a console, so what is said of a trace depends on the
number of flushes before it. -/

section

variable (fault? : Option Fault) (earlier : Nat)

/-- The last effect is a flush that succeeded. -/
def JustFlushed (trace : Trace) : Prop :=
  ∃ front, trace = front ++ [.flush] ∧ FlushSucceeds fault? (earlier + front.count .flush + 1)

/-- All that was written has a flush behind it that succeeded. -/
def Settled (trace : Trace) : Prop :=
  ∃ front back : Trace, trace = front ++ .flush :: back ∧ back.written = [] ∧
    FlushSucceeds fault? (earlier + front.count .flush + 1)

/-- Directly in front of every read stands a flush that succeeded. -/
def Attended (trace : Trace) : Prop :=
  ∀ front back count, trace = front ++ .read count :: back → JustFlushed fault? earlier front

end

variable {fault? : Option Fault} {earlier : Nat} {trace : Trace} {effect : Effect}

theorem JustFlushed.settled (h : JustFlushed fault? earlier trace) :
    Settled fault? earlier trace := by
  obtain ⟨front, rfl, succeeds⟩ := h
  exact ⟨front, [], rfl, rfl, succeeds⟩

theorem Settled.append_singleton (h : Settled fault? earlier trace) (silent : effect.written = []) :
    Settled fault? earlier (trace ++ [effect]) := by
  obtain ⟨front, back, rfl, quiet, succeeds⟩ := h
  refine ⟨front, back ++ [effect], by simp, ?_, succeeds⟩
  rw [written_append, quiet, written_cons, silent]
  rfl

/-- What happened before does not unsettle a trace. -/
theorem Settled.prepend {before : Trace}
    (h : Settled fault? (earlier + before.count .flush) trace) :
    Settled fault? earlier (before ++ trace) := by
  obtain ⟨front, back, rfl, quiet, succeeds⟩ := h
  refine ⟨before ++ front, back, by simp, quiet, ?_⟩
  rwa [List.count_append, ← Nat.add_assoc]

theorem Attended.nil : Attended fault? earlier [] := by
  intro front back count h
  exact absurd h (by simp)

theorem Attended.append_singleton (h : Attended fault? earlier trace) (effect : Effect)
    (ready : effect.isRead = true → JustFlushed fault? earlier trace) :
    Attended fault? earlier (trace ++ [effect]) := by
  intro front back count whole
  rcases List.eq_nil_or_concat back with rfl | ⟨back, last, rfl⟩
  · obtain ⟨same, last⟩ := List.append_inj' whole rfl
    rw [← same]
    exact ready (by rw [(List.cons.inj last).1]; rfl)
  · rw [List.concat_eq_append, ← List.cons_append, ← List.append_assoc] at whole
    exact h front back count (List.append_inj' whole rfl).1

/-! ### Joined writes -/

theorem JustFlushed.merge (h : JustFlushed fault? earlier trace) :
    JustFlushed fault? earlier trace.merge := by
  obtain ⟨front, rfl, succeeds⟩ := h
  exact ⟨merge front, merge_append fun octets => Effect.noConfusion, by rwa [count_flush_merge]⟩

theorem Settled.merge (h : Settled fault? earlier trace) : Settled fault? earlier trace.merge := by
  obtain ⟨front, back, rfl, quiet, succeeds⟩ := h
  refine ⟨merge front, merge back, merge_append fun octets => Effect.noConfusion, ?_, ?_⟩
  · rw [written_merge, quiet]
  · rwa [count_flush_merge]

theorem Attended.merge (h : Attended fault? earlier trace) :
    Attended fault? earlier trace.merge := by
  intro front back count joined
  obtain ⟨before, behind, rfl, rfl, -⟩ := exists_of_merge_eq_append (by simp) joined
  exact (h before behind count rfl).merge

end Trace

/-! ## Tidy dialogues -/

/-- How far what was said is sure to be seen. -/
inductive Standing where
  /-- something may have been said that no flush has shown -/
  | unseen
  /-- nothing has happened since the last flush -/
  | flushed
  /-- nothing has been said since the last flush -/
  | quiet
deriving DecidableEq

namespace Standing

/-- The standing behind an effect that says nothing. -/
def later : Standing → Standing
  | .unseen => .unseen
  | _ => .quiet

/-- What a standing says of all that has happened so far. -/
def Holds (fault? : Option Fault) (earlier : Nat) (trace : Trace) : Standing → Prop
  | .unseen => True
  | .flushed => trace.JustFlushed fault? earlier
  | .quiet => trace.Settled fault? earlier

variable {fault? : Option Fault} {earlier : Nat} {trace : Trace} {standing : Standing}

theorem Holds.settled (h : standing.Holds fault? earlier trace) (closed : standing ≠ .unseen) :
    trace.Settled fault? earlier := by
  cases standing with
  | unseen => exact absurd rfl closed
  | flushed => exact h.settled
  | quiet => exact h

theorem Holds.later (h : standing.Holds fault? earlier trace) (entry : Diagnostics.Entry) :
    standing.later.Holds fault? earlier (trace ++ [.log entry]) := by
  cases standing with
  | unseen => exact trivial
  | flushed => exact (Trace.JustFlushed.settled h).append_singleton rfl
  | quiet => exact Trace.Settled.append_singleton h rfl

end Standing

/-- A dialogue that listens only directly behind a flush and ends only with nothing said since the
last one. -/
def Dialogue.Tidy {α : Type} : Standing → Dialogue α → Prop
  | standing, done _ => standing ≠ .unseen
  | standing, fail _ => standing ≠ .unseen
  | standing, note _ next => next.Tidy standing.later
  | _, say _ next => next.Tidy .unseen
  | _, flush next => next.Tidy .flushed
  | standing, listen next => standing = .flushed ∧ ∀ line, (next line).Tidy .quiet

/-- A trace in which every read is attended, and all is settled unless the writer or a flush has
failed. -/
structure Trace.Kept (fault? : Option Fault) (earlier : Nat) (failed : Option FaultKind)
    (trace : Trace) : Prop where
  attended : trace.Attended fault? earlier
  settled : (∀ kind, failed = some kind → kind = .reading) → trace.Settled fault? earlier

/-- **A tidy dialogue keeps its trace**, whatever has happened before it and whichever devices
fail. -/
theorem Dialogue.Tidy.perform {α : Type} {dialogue : Dialogue α} {standing : Standing}
    (h : dialogue.Tidy standing) (console : Console) {earlier : Nat} (past : Trace)
    (count : console.flushes = earlier + past.count .flush)
    (attended : past.Attended console.flushFault earlier)
    (holds : standing.Holds console.flushFault earlier past) :
    Trace.Kept console.flushFault earlier (dialogue.failsAt? console)
      (past ++ (dialogue.perform console).effects) := by
  -- on the requests of the dialogue, each of which is added to what has happened
  induction dialogue generalizing standing console past with
  | done result =>
    rw [Dialogue.perform, List.append_nil]
    exact ⟨attended, fun _ => holds.settled h⟩
  | fail interruption =>
    rw [Dialogue.perform, List.append_nil]
    exact ⟨attended, fun _ => holds.settled h⟩
  | note entry next ih =>
    have noted := attended.append_singleton (.log entry) fun read => by cases read
    have kept := ih h console (past ++ [.log entry]) (by simpa using count) noted
      (holds.later entry)
    rwa [List.append_assoc] at kept
  | say text next ih =>
    have said (octets : List UInt8) := attended.append_singleton (.out octets)
      fun read => by cases read
    simp only [Dialogue.perform, failsAt?]
    cases refused : console.refusal? (Text.Utf8.encode text) with
    | some error => exact ⟨said _, fun reading => absurd (reading .writing rfl) (by decide)⟩
    | none =>
      have kept := ih h (console.write (Text.Utf8.encode text))
        (past ++ [Effect.out (Text.Utf8.encode text)]) (by simpa [Console.write] using count)
        (said _) trivial
      rwa [List.append_assoc] at kept
  | flush next ih =>
    have flushed := attended.append_singleton .flush fun read => by cases read
    simp only [Dialogue.perform, failsAt?]
    cases failed : console.flushFailure? with
    | some error => exact ⟨flushed, fun reading => absurd (reading .flushing rfl) (by decide)⟩
    | none =>
      have succeeds := Console.flushFailure?_eq_none_iff.mp failed
      rw [count] at succeeds
      have kept := ih h console.flush (past ++ [Effect.flush])
        (by simp [Console.flush, count, Nat.add_assoc]) flushed ⟨past, rfl, succeeds⟩
      rwa [List.append_assoc] at kept
  | listen next ih =>
    obtain ⟨rfl, tidy⟩ := h
    have heard (count : Nat) := attended.append_singleton (.read count) fun _ => holds
    have settled (count : Nat) : Trace.Settled console.flushFault earlier
        (past ++ [Effect.read count]) :=
      (Trace.JustFlushed.settled holds).append_singleton rfl
    simp only [Dialogue.perform, failsAt?]
    cases console.source.listen with
    | error interruption => exact ⟨heard _, fun _ => settled _⟩
    | ok line =>
      have kept := ih line (tidy line) console.advance
        (past ++ [Effect.read console.source.line.length]) (by simpa [Console.advance] using count)
        (heard _) (settled _)
      rwa [List.append_assoc] at kept

namespace Script

/-! ## The steps of a script -/

theorem Step.tidy_dialogue (step : Step) : step.dialogue.Tidy .unseen := by
  cases step with
  | question text => exact ⟨rfl, fun _ => nofun⟩
  | tour =>
    refine ⟨rfl, fun name => ⟨rfl, fun answer => ?_⟩⟩
    change ((Tour.spokenEnd answer).bind fun _ => .done Reply.done).Tidy .quiet
    unfold Tour.spokenEnd
    cases Tour.ageOf answer with
    | ok age => exact nofun
    | error interruption => exact nofun

/-- What a step keeps on a console on which others were performed before. -/
theorem kept_of_step (setup : Setup) (earlier : List Step) (step : Step) :
    Trace.Kept setup.flushFault ((past earlier setup.console).count .flush)
      (step.dialogue.failsAt? (left earlier setup.console))
      (step.dialogue.perform (left earlier setup.console)).effects := by
  have account := accounts_left earlier setup.console
  have counted : (left earlier setup.console).flushes =
      (past earlier setup.console).count .flush := by
    rw [account.flushes]
    exact Nat.zero_add _
  have kept := step.tidy_dialogue.perform (left earlier setup.console) []
    (by simpa using counted) .nil trivial
  rwa [account.flushFault] at kept

/-- A step that its writer or a flush has ended fails with the error of the fault laid there. -/
theorem exists_fault_of_failsAt? {setup : Setup} {earlier : List Step} {step : Step}
    {kind : FaultKind} (talking : kind ≠ .reading)
    (h : step.dialogue.failsAt? (left earlier setup.console) = some kind) :
    ∃ fault, setup.faultOf kind = some fault ∧
      (step.dialogue.perform (left earlier setup.console)).result =
        .error (.device fault.error) := by
  obtain ⟨error, laid, stopped⟩ := Dialogue.stoppedBy_of_failsAt? talking h
  rw [(accounts_left earlier setup.console).errorOf] at laid
  obtain ⟨fault, same, rfl⟩ := Setup.exists_fault_of_errorOf laid
  exact ⟨fault, same, stopped.result⟩

/-- The result of a step that neither its writer nor a flush has ended: it is done or has a line, it
was told no age, it found the input closed, or its reader failed. -/
def Step.Undisturbed (step : Step) (console : Console) : Prop :=
  match (step.dialogue.perform console).result with
  | .ok _ => True
  | .error (.ageRejected _ _) => True
  | .error .inputClosed => True
  | .error (.device _) => step.dialogue.failsAt? console = some .reading

/-- **Nothing stays unseen in a script**, under any faults.  Directly in front of every read of a
step stands a flush that succeeded, so no accepted octet waits to be seen when an answer is awaited.
When a step ends undisturbed every octet accepted so far, in this step or an earlier one, has a
flush behind it that succeeded.  Where that does not hold the step has failed with the error of a
write fault or a flush fault. -/
theorem flushed_of_step (setup : Setup) (earlier later : List Step) (step : Step) :
    let before := left earlier setup.console
    let performance := step.dialogue.perform before
    let past := past earlier setup.console
    run (earlier ++ step :: later) setup.console =
        run earlier setup.console ++ performance :: run later performance.console ∧
      performance.trace.Attended setup.flushFault (past.count .flush) ∧
      (step.Undisturbed before → (past ++ performance.trace).Settled setup.flushFault 0) ∧
      ((past ++ performance.trace).Settled setup.flushFault 0 ∨
        ∃ kind fault, kind ≠ .reading ∧ step.dialogue.failsAt? before = some kind ∧
          setup.faultOf kind = some fault ∧
            performance.result = .error (.device fault.error)) := by
  intro before performance past
  have kept := kept_of_step setup earlier step
  -- the flushes of earlier steps are counted in front of those of this one
  have settled (reading : ∀ kind, step.dialogue.failsAt? before = some kind → kind = .reading) :
      (past ++ performance.trace).Settled setup.flushFault 0 := by
    apply Trace.Settled.prepend
    rw [Nat.zero_add]
    exact (kept.settled reading).merge
  refine ⟨run_append _ _ _, kept.attended.merge, ?_, ?_⟩
  · intro undisturbed
    refine settled fun kind failed => ?_
    by_cases talking : kind = .reading
    · exact talking
    · obtain ⟨fault, -, result⟩ := exists_fault_of_failsAt? talking failed
      rw [Step.Undisturbed, result] at undisturbed
      rw [undisturbed] at failed
      exact (Option.some.inj failed).symm
  · by_cases reading : ∀ kind, step.dialogue.failsAt? before = some kind → kind = .reading
    · exact .inl (settled reading)
    · simp only [not_forall] at reading
      obtain ⟨kind, failed, talking⟩ := reading
      obtain ⟨fault, laid, result⟩ := exists_fault_of_failsAt? talking failed
      exact .inr ⟨kind, fault, talking, failed, laid, result⟩

end Script

end Walkthrough
