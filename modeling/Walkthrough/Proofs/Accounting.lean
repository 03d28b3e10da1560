import Mathlib.Logic.Function.Iterate
import Walkthrough.Proofs.FailStop
import Walkthrough.Script

/-!
# What a console has gone through

A console counts what its writer accepts and how often it is flushed, and its reader moves line by
line.  So the effects of a performance say where it leaves the console (`Console.Accounts`): every
effect accounts for one step of the console, and accounts follow one another.  This holds of every
dialogue under any faults (`perform_accounts`), so also of the steps of a script one after the other
(`Script.accounts_left`), and with neighbouring writes joined (`Accounts.merge`).

What the reader gives in all this are the first lines of what is handed out, one after the other
(`Trace.TakesLines`).
-/

namespace Walkthrough

open Text.Line (first behind newline)

/-- Whether an effect reads a line. -/
def Effect.isRead : Effect → Bool
  | read _ => true
  | _ => false

namespace Trace

/-- The number of lines read. -/
def reads (trace : Trace) : Nat :=
  trace.countP Effect.isRead

/-- Every read takes the first line of what the reads before it have left. -/
def TakesLines : List UInt8 → Trace → Prop
  | _, [] => True
  | octets, .read count :: rest => count = (first octets).length ∧ TakesLines (behind octets) rest
  | octets, .out _ :: rest => TakesLines octets rest
  | octets, .flush :: rest => TakesLines octets rest
  | octets, .log _ :: rest => TakesLines octets rest

theorem reads_read_cons (count : Nat) (trace : Trace) :
    reads (.read count :: trace) = reads trace + 1 :=
  List.countP_cons_of_pos rfl

theorem reads_append (a b : Trace) : reads (a ++ b) = reads a + reads b :=
  List.countP_append

/-! ## What joining writes keeps -/

theorem reads_push (effect : Effect) (trace : Trace) :
    reads (push effect trace) = reads (effect :: trace) := by
  fun_cases push effect trace <;> simp [reads, Effect.isRead]

@[simp]
theorem reads_merge (trace : Trace) : reads (merge trace) = reads trace := by
  induction trace with
  | nil => rfl
  | cons effect rest ih =>
    rw [merge, reads_push]
    unfold reads at ih ⊢
    rw [List.countP_cons, List.countP_cons, ih]

theorem count_flush_push (effect : Effect) (trace : Trace) :
    (push effect trace).count .flush = (effect :: trace).count .flush := by
  fun_cases push effect trace <;> simp

@[simp]
theorem count_flush_merge (trace : Trace) : (merge trace).count .flush = trace.count .flush := by
  induction trace with
  | nil => rfl
  | cons effect rest ih => rw [merge, count_flush_push, List.count_cons, List.count_cons, ih]

theorem takesLines_push (octets : List UInt8) (effect : Effect) (trace : Trace) :
    TakesLines octets (push effect trace) ↔ TakesLines octets (effect :: trace) := by
  fun_cases push effect trace <;> simp [TakesLines]

@[simp]
theorem takesLines_merge (octets : List UInt8) (trace : Trace) :
    TakesLines octets (merge trace) ↔ TakesLines octets trace := by
  induction trace generalizing octets with
  | nil => exact Iff.rfl
  | cons effect rest ih =>
    rw [merge, takesLines_push]
    cases effect <;> simp [TakesLines, ih]

/-! ## Lines one after the other -/

theorem drop_length_first (octets : List UInt8) :
    octets.drop (first octets).length = behind octets := by
  calc octets.drop (first octets).length
      = (first octets ++ behind octets).drop (first octets).length := by
        rw [Text.Line.first_append_behind]
    _ = behind octets := List.drop_left

variable {octets : List UInt8} {a b : Trace}

theorem takesLines_append :
    TakesLines octets (a ++ b) ↔ TakesLines octets a ∧ TakesLines (octets.drop a.consumed) b := by
  induction a generalizing octets with
  | nil => simp [TakesLines]
  | cons effect rest ih =>
    cases effect with
    | read count =>
      simp only [List.cons_append, TakesLines, ih, consumed_cons, Effect.consumed, and_assoc]
      refine and_congr_right fun same => ?_
      rw [same, ← List.drop_drop, drop_length_first]
    | out written => simpa [TakesLines, Effect.consumed] using ih
    | flush => simpa [TakesLines, Effect.consumed] using ih
    | log entry => simpa [TakesLines, Effect.consumed] using ih

/-- A read takes the first line of what is left when its turn comes. -/
theorem TakesLines.count_eq {count : Nat} (h : TakesLines octets (a ++ .read count :: b)) :
    count = (first (octets.drop a.consumed)).length :=
  (takesLines_append.mp h).2.1

/-- No more is taken than there is. -/
theorem TakesLines.consumed_le (h : TakesLines octets a) : a.consumed ≤ octets.length := by
  induction a generalizing octets with
  | nil => exact Nat.zero_le _
  | cons effect rest ih =>
    cases effect with
    | read count =>
      obtain ⟨same, later⟩ := h
      have whole := Text.Line.length_first_add_length_behind octets
      have left := ih later
      rw [consumed_cons, Effect.consumed]
      omega
    | out written => simpa [Effect.consumed] using ih h
    | flush => simpa [Effect.consumed] using ih h
    | log entry => simpa [Effect.consumed] using ih h

end Trace

/-- No read is lost when writes are joined. -/
theorem Performance.reads_trace {α : Type} (performance : Performance α) :
    performance.trace.reads = Trace.reads performance.effects :=
  Trace.reads_merge _

/-! ## Accounts of a console -/

/-- The octets that a source will hand out. -/
def Source.handedOut (source : Source) : List UInt8 :=
  source.pieces.flatten

namespace Console

/-- A line is read as it stands at the front of what is handed out. -/
theorem line_eq_first_handedOut (console : Console) :
    console.source.line = first console.source.handedOut :=
  console.line_eq

/-- Some effects say how the second console has become of the first. -/
structure Accounts (before : Console) (effects : Trace) (after : Console) : Prop where
  accepted : after.accepted = before.accepted + effects.written.length
  flushes : after.flushes = before.flushes + effects.count .flush
  /-- the reader has gone on by as many lines as were read, and by nothing else -/
  source : after.source = Source.advance^[effects.reads] before.source
  lines : effects.TakesLines before.source.handedOut
  handedOut : after.source.handedOut = before.source.handedOut.drop effects.consumed
  withheld : after.source.withheld = before.source.withheld
  failure : after.source.failure = before.source.failure
  writeFault : after.writeFault = before.writeFault
  flushFault : after.flushFault = before.flushFault

theorem Accounts.rfl {console : Console} : console.Accounts [] console where
  accepted := Eq.refl _
  flushes := Eq.refl _
  source := Eq.refl _
  lines := trivial
  handedOut := Eq.refl _
  withheld := Eq.refl _
  failure := Eq.refl _
  writeFault := Eq.refl _
  flushFault := Eq.refl _

variable {before between after : Console} {a b : Trace}

theorem Accounts.append (h : before.Accounts a between) (k : between.Accounts b after) :
    before.Accounts (a ++ b) after where
  accepted := by
    rw [k.accepted, h.accepted, Trace.written_append, List.length_append, Nat.add_assoc]
  flushes := by rw [k.flushes, h.flushes, List.count_append, Nat.add_assoc]
  source := by
    rw [k.source, h.source, ← Function.iterate_add_apply, Trace.reads_append, Nat.add_comm]
  lines := Trace.takesLines_append.mpr ⟨h.lines, h.handedOut ▸ k.lines⟩
  handedOut := by rw [k.handedOut, h.handedOut, List.drop_drop, Trace.consumed_append]
  withheld := k.withheld.trans h.withheld
  failure := k.failure.trans h.failure
  writeFault := k.writeFault.trans h.writeFault
  flushFault := k.flushFault.trans h.flushFault

/-- Joining writes makes no difference to an account. -/
theorem Accounts.merge (h : before.Accounts a after) : before.Accounts a.merge after where
  accepted := by rw [Trace.written_merge, h.accepted]
  flushes := by rw [Trace.count_flush_merge, h.flushes]
  source := by rw [Trace.reads_merge, h.source]
  lines := (Trace.takesLines_merge _ _).mpr h.lines
  handedOut := by rw [Trace.consumed_merge, h.handedOut]
  withheld := h.withheld
  failure := h.failure
  writeFault := h.writeFault
  flushFault := h.flushFault

/-- What is handed out and what is withheld are what is left, with what was taken in front of it. -/
theorem Accounts.consumed_add_length_unread (h : before.Accounts a after) :
    a.consumed + after.source.unread.length = before.source.unread.length := by
  have le := h.lines.consumed_le
  have left : after.source.unread = before.source.handedOut.drop a.consumed ++
      before.source.withheld := by
    rw [← h.handedOut, ← h.withheld]
    exact Eq.refl _
  have whole : before.source.unread = before.source.handedOut ++ before.source.withheld :=
    Eq.refl _
  rw [left, whole, List.length_append, List.length_append, List.length_drop]
  omega

/-- What is left is what was there without what was taken. -/
theorem Accounts.unread (h : before.Accounts a after) :
    after.source.unread = before.source.unread.drop a.consumed := by
  have whole : before.source.unread = before.source.handedOut ++ before.source.withheld :=
    Eq.refl _
  rw [whole, List.drop_append_of_le_length h.lines.consumed_le, ← h.handedOut, ← h.withheld]
  exact Eq.refl _

/-- The errors that a console may meet stay the same. -/
theorem Accounts.errorOf (h : before.Accounts a after) : after.errorOf = before.errorOf := by
  funext kind
  cases kind with
  | reading => exact h.failure
  | writing => exact congrArg (Option.map Fault.error) h.writeFault
  | flushing => exact congrArg (Option.map Fault.error) h.flushFault

/-- Nothing that happens on a console without a fault brings one about. -/
theorem Accounts.faultless (h : before.Accounts a after) (free : before.Faultless) :
    after.Faultless where
  reader := h.failure.trans free.reader
  withheld := h.withheld.trans free.withheld
  writer := h.writeFault.trans free.writer
  flusher := h.flushFault.trans free.flusher

/-! ## One effect at a time -/

variable (console : Console)

theorem accounts_log (entry : Diagnostics.Entry) : console.Accounts [.log entry] console :=
  ⟨Eq.refl _, Eq.refl _, Eq.refl _, trivial, Eq.refl _, Eq.refl _, Eq.refl _, Eq.refl _, Eq.refl _⟩

theorem accounts_write (octets : List UInt8) :
    console.Accounts [.out (console.acceptedOf octets)] (console.write octets) where
  accepted := by simp [write, Effect.written]
  flushes := Eq.refl _
  source := Eq.refl _
  lines := trivial
  handedOut := Eq.refl _
  withheld := Eq.refl _
  failure := Eq.refl _
  writeFault := Eq.refl _
  flushFault := Eq.refl _

theorem accounts_flush : console.Accounts [.flush] console.flush :=
  ⟨Eq.refl _, Eq.refl _, Eq.refl _, trivial, Eq.refl _, Eq.refl _, Eq.refl _, Eq.refl _, Eq.refl _⟩

theorem accounts_advance :
    console.Accounts [.read console.source.line.length] console.advance where
  accepted := Eq.refl _
  flushes := Eq.refl _
  source := Eq.refl _
  lines := ⟨congrArg List.length console.line_eq_first_handedOut, trivial⟩
  handedOut := by
    have left := console.source.flatten_advance
    rw [← Trace.drop_length_first, ← line_eq] at left
    exact left
  withheld := Eq.refl _
  failure := Eq.refl _
  writeFault := Eq.refl _
  flushFault := Eq.refl _

end Console

/-- **The effects of a performance account for the console that it leaves**, whatever the dialogue
is and whichever devices fail. -/
theorem Dialogue.perform_accounts {α : Type} (dialogue : Dialogue α) (console : Console) :
    console.Accounts (dialogue.perform console).effects (dialogue.perform console).console := by
  induction dialogue generalizing console with
  | done result => exact .rfl
  | fail interruption => exact .rfl
  | note entry next ih => exact (console.accounts_log entry).append (ih console)
  | say text next ih =>
    have write := console.accounts_write (Text.Utf8.encode text)
    simp only [perform]
    cases refused : console.refusal? (Text.Utf8.encode text) with
    | some error => exact write
    | none =>
      rw [Console.acceptedOf_of_refusal?_eq_none refused] at write
      exact write.append (ih _)
  | flush next ih =>
    simp only [perform]
    cases console.flushFailure? with
    | some error => exact console.accounts_flush
    | none => exact console.accounts_flush.append (ih _)
  | listen next ih =>
    simp only [perform]
    cases console.source.listen with
    | error interruption => exact console.accounts_advance
    | ok line => exact console.accounts_advance.append (ih line _)

theorem Performance.accounts_trace {α : Type} (dialogue : Dialogue α) (console : Console) :
    console.Accounts (dialogue.perform console).trace (dialogue.perform console).console :=
  (dialogue.perform_accounts console).merge

/-! ## Where a performance ends -/

/-- The device at which a performance ends, if it ends at one: the writer refuses some octets, a
flush fails, or the reader has no line to give. -/
def Dialogue.failsAt? {α : Type} : Dialogue α → Console → Option FaultKind
  | done _, _ => none
  | fail _, _ => none
  | note _ next, console => next.failsAt? console
  | say text next, console =>
    if (console.refusal? (Text.Utf8.encode text)).isSome then some .writing
    else next.failsAt? (console.write (Text.Utf8.encode text))
  | flush next, console =>
    if console.flushFailure?.isSome then some .flushing else next.failsAt? console.flush
  | listen next, console =>
    match console.source.listen with
    | .error _ => some .reading
    | .ok line => (next line).failsAt? console.advance

/-- What is left of a performance that a writer or a flush has ended: the error of the fault, and
behind all other effects the one that failed, which is no read. -/
structure Performance.StoppedBy {α : Type} (performance : Performance α)
    (error : DeviceError) : Prop where
  result : performance.result = .error (.device error)
  last : ∃ front effect, performance.effects = front ++ [effect] ∧ effect.isRead = false

theorem Performance.StoppedBy.after {α : Type} {performance : Performance α} {error : DeviceError}
    (h : performance.StoppedBy error) (effect : Effect) :
    (performance.after effect).StoppedBy error := by
  obtain ⟨result, front, last, effects, other⟩ := h
  exact ⟨result, effect :: front, last, congrArg (List.cons effect) effects, other⟩

/-- A performance that ends at a writer or a flush is stopped by the error of the fault there. -/
theorem Dialogue.stoppedBy_of_failsAt? {α : Type} {dialogue : Dialogue α} {console : Console}
    {kind : FaultKind} (talking : kind ≠ .reading) (h : dialogue.failsAt? console = some kind) :
    ∃ error, console.errorOf kind = some error ∧ (dialogue.perform console).StoppedBy error := by
  induction dialogue generalizing console with
  | done result => cases h
  | fail interruption => cases h
  | note entry next ih =>
    obtain ⟨error, fault, stopped⟩ := ih h
    exact ⟨error, fault, stopped.after _⟩
  | say text next ih =>
    simp only [failsAt?, perform] at h ⊢
    cases refused : console.refusal? (Text.Utf8.encode text) with
    | some error =>
      rw [refused] at h
      obtain rfl : FaultKind.writing = kind := Option.some.inj h
      exact ⟨error, (Console.exists_count_of_refusal? refused).1, rfl, [], _, rfl, rfl⟩
    | none =>
      rw [refused] at h
      obtain ⟨error, fault, stopped⟩ := ih h
      rw [Console.errorOf_write] at fault
      exact ⟨error, fault, stopped.after _⟩
  | flush next ih =>
    simp only [failsAt?, perform] at h ⊢
    cases failed : console.flushFailure? with
    | some error =>
      rw [failed] at h
      obtain rfl : FaultKind.flushing = kind := Option.some.inj h
      exact ⟨error, Console.errorOf_of_flushFailure? failed, rfl, [], _, rfl, rfl⟩
    | none =>
      rw [failed] at h
      obtain ⟨error, fault, stopped⟩ := ih h
      rw [Console.errorOf_flush] at fault
      exact ⟨error, fault, stopped.after _⟩
  | listen next ih =>
    simp only [failsAt?, perform] at h ⊢
    cases heard : console.source.listen with
    | error interruption =>
      rw [heard] at h
      exact absurd (Option.some.inj h).symm talking
    | ok line =>
      rw [heard] at h
      obtain ⟨error, fault, stopped⟩ := ih line h
      rw [Console.errorOf_advance] at fault
      exact ⟨error, fault, stopped.after _⟩

/-- What comes of a performance, and what happens in it. -/
def Performance.outcome {α : Type} (performance : Performance α) :
    Except Interruption α × Trace :=
  (performance.result, performance.trace)

/-! ## Accounts of a script -/

namespace Script

/-- The console as some steps leave it. -/
def left : List Step → Console → Console
  | [], console => console
  | step :: rest, console => left rest (step.dialogue.perform console).console

/-- All that happens in some steps. -/
def past (steps : List Step) (console : Console) : Trace :=
  (run steps console).flatMap (·.trace)

/-- Steps that follow others are performed on the console as those leave it. -/
theorem run_append (earlier later : List Step) (console : Console) :
    run (earlier ++ later) console = run earlier console ++ run later (left earlier console) := by
  induction earlier generalizing console with
  | nil => rfl
  | cons step earlier ih => simp only [List.cons_append, run, left, ih]

/-- **All that happens in a script accounts for the console that it leaves.** -/
theorem accounts_left (steps : List Step) (console : Console) :
    console.Accounts (past steps console) (left steps console) := by
  induction steps generalizing console with
  | nil => exact .rfl
  | cons step steps ih =>
    exact (Performance.accounts_trace step.dialogue console).append (ih _)

end Script

end Walkthrough
