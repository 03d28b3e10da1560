import Walkthrough.Proofs.Position

/-!
# Where a single fault strikes

How much of a device is used by what happens on a console without faults (`Trace.uses`) decides
whether a fault that is laid on that device alone is met, and what then happens is what would have
happened anyway, cut off where the device has been used up (`Trace.cutAt`).  This holds of every
dialogue (`perform_limited`).  For the tour it gives the exact thresholds: the octets written, the
flushes, and the octets read, where a line that no newline ends needs the reader once more behind
its last octet (`perform_dialogue_withFault`).
-/

namespace Walkthrough

open Text.Line (first behind isEnded)

/-! ## What is used of a device -/

/-- How much of a device an effect uses, with what is left of the input in front of it: octets
written, flushes, or octets read.  A read that no newline ends uses the reader once more than it
gets octets, as it meets what lies behind them. -/
def Effect.uses : FaultKind → List UInt8 → Effect → Nat
  | .writing, _, .out octets => octets.length
  | .flushing, _, .flush => 1
  | .reading, input, .read count => if isEnded (input.take count) then count else count + 1
  | _, _, _ => 0

/-- What is left of an effect when its device fails after so much use. -/
def Effect.stump (room : Nat) : Effect → Effect
  | .out octets => .out (octets.take room)
  | .read _ => .read room
  | effect => effect

/-- A line for which a reader has enough left has its newline, and uses just its octets. -/
theorem Effect.uses_read_of_le {octets input : List UInt8} (reach : octets <+: input)
    (enough : Effect.uses .reading input (.read (first octets).length) ≤ octets.length) :
    Effect.uses .reading input (.read (first octets).length) = (first octets).length := by
  rw [uses, take_length_first reach] at enough ⊢
  cases ended : isEnded (first octets) with
  | true => rfl
  | false =>
    -- a line that has not ended is all there is, and the reader would be used behind it
    rw [ended, if_neg Bool.false_ne_true, Text.Line.first_of_not_isEnded ended] at enough
    exact absurd enough (Nat.not_succ_le_self _)

namespace Trace

/-- How much of a device is used by all effects, which begin in front of the input. -/
def uses (kind : FaultKind) : List UInt8 → Trace → Nat
  | _, [] => 0
  | input, effect :: rest => effect.uses kind input + uses kind (input.drop effect.consumed) rest

/-- The effects up to the one that needs more of a device than there is, and its stump. -/
def cutAt (kind : FaultKind) : Nat → List UInt8 → Trace → Trace
  | _, _, [] => []
  | room, input, effect :: rest =>
    if room < effect.uses kind input then [effect.stump room]
    else effect :: cutAt kind (room - effect.uses kind input) (input.drop effect.consumed) rest

/-- Some read is ended by the end of the input and not by a newline. -/
def MeetsEnd (input : List UInt8) (trace : Trace) : Prop :=
  ∃ (front back : Trace) (count : Nat), trace = front ++ .read count :: back ∧
    isEnded ((input.drop front.consumed).take count) = false

variable {kind : FaultKind} {room : Nat} {input : List UInt8} {trace : Trace}

theorem uses_push (kind : FaultKind) (input : List UInt8) (effect : Effect) (trace : Trace) :
    uses kind input (push effect trace) = uses kind input (effect :: trace) := by
  fun_cases push effect trace with
  | case1 => cases kind <;> simp [uses, Effect.uses, Effect.consumed]
  | case2 => cases kind <;> simp [uses, Effect.uses, Effect.consumed, Nat.add_assoc]
  | case3 => rfl

@[simp]
theorem uses_merge (kind : FaultKind) (input : List UInt8) (trace : Trace) :
    uses kind input (merge trace) = uses kind input trace := by
  induction trace generalizing input with
  | nil => rfl
  | cons effect rest ih => rw [merge, uses_push, uses, uses, ih]

theorem uses_writing (input : List UInt8) (trace : Trace) :
    uses .writing input trace = trace.written.length := by
  induction trace generalizing input with
  | nil => rfl
  | cons effect rest ih =>
    rw [uses, ih, written_cons, List.length_append]
    cases effect <;> rfl

theorem uses_flushing (input : List UInt8) (trace : Trace) :
    uses .flushing input trace = trace.count .flush := by
  induction trace generalizing input with
  | nil => rfl
  | cons effect rest ih =>
    rw [uses, ih, List.count_cons, Nat.add_comm]
    cases effect <;> rfl

theorem meetsEnd_cons {effect : Effect} :
    MeetsEnd input (effect :: trace) ↔
      (∃ count, effect = .read count ∧ isEnded (input.take count) = false) ∨
        MeetsEnd (input.drop effect.consumed) trace := by
  constructor
  · rintro ⟨front, back, count, whole, opened⟩
    rcases front with _ | ⟨head, front⟩
    · exact .inl ⟨count, (List.cons.inj whole).1, opened⟩
    · obtain ⟨rfl, rest⟩ := List.cons.inj whole
      refine .inr ⟨front, back, count, rest, ?_⟩
      rwa [List.drop_drop]
  · rintro (⟨count, rfl, opened⟩ | ⟨front, back, count, rfl, opened⟩)
    · exact ⟨[], trace, count, rfl, opened⟩
    · refine ⟨effect :: front, back, count, rfl, ?_⟩
      rwa [List.drop_drop] at opened

/-- The reader is used for every octet read, and beyond them exactly if the end of the input is
met. -/
theorem uses_reading (input : List UInt8) (trace : Trace) :
    trace.consumed ≤ uses .reading input trace ∧
      (trace.consumed < uses .reading input trace ↔ trace.MeetsEnd input) := by
  induction trace generalizing input with
  | nil =>
    refine ⟨Nat.le_refl 0, fun less => absurd less (Nat.lt_irrefl 0), ?_⟩
    rintro ⟨front, back, count, whole, -⟩
    exact absurd whole (by simp)
  | cons effect rest ih =>
    obtain ⟨le, less⟩ := ih (input.drop effect.consumed)
    rw [uses, consumed_cons, meetsEnd_cons, ← less]
    cases effect with
    | out | flush | log =>
      simp only [Effect.uses, Effect.consumed, reduceCtorEq, false_and, exists_false,
        false_or] at le ⊢
      omega
    | read count =>
      simp only [Effect.uses, Effect.consumed, Effect.read.injEq, exists_eq_left'] at le ⊢
      cases isEnded (input.take count) with
      | true =>
        simp only [if_true, Bool.true_eq_false, false_or]
        omega
      | false =>
        simp only [if_false, Bool.false_eq_true, true_or, iff_true]
        omega

@[simp]
theorem meetsEnd_merge : MeetsEnd input (merge trace) ↔ MeetsEnd input trace := by
  rw [← (uses_reading input _).2, ← (uses_reading input _).2, uses_merge, consumed_merge]

/-- Behind a line that the end of the input ends nothing is left to be read. -/
theorem MeetsEnd.consumed_eq (h : trace.MeetsEnd input) (lines : trace.TakesLines input) :
    trace.consumed = input.length := by
  obtain ⟨front, back, count, rfl, opened⟩ := h
  obtain ⟨linesFront, taken, linesBack⟩ := takesLines_append.mp lines
  have front_le := linesFront.consumed_le
  have back_le := linesBack.consumed_le
  rw [taken, take_length_first List.prefix_rfl] at opened
  rw [Text.Line.behind_of_not_isEnded opened, List.length_nil] at back_le
  rw [Text.Line.first_of_not_isEnded opened, List.length_drop] at taken
  rw [consumed_append, consumed_cons, Effect.consumed]
  omega

/-! ## What is cut off -/

theorem written_cutAt (room : Nat) (input : List UInt8) (trace : Trace) :
    (cutAt .writing room input trace).written = trace.written.take room := by
  induction trace generalizing room input with
  | nil => simp [cutAt]
  | cons effect rest ih =>
    have uses : effect.uses .writing input = effect.written.length := by cases effect <;> rfl
    have stump : (effect.stump room).written = effect.written.take room := by
      cases effect <;> simp [Effect.stump, Effect.written]
    rw [cutAt, uses, written_cons, List.take_append]
    split
    · rename_i short
      rw [written_cons, stump, Nat.sub_eq_zero_of_le (Nat.le_of_lt short)]
      simp
    · rename_i enough
      rw [written_cons, ih, List.take_of_length_le (Nat.le_of_not_lt enough)]

theorem exists_of_cutAt_flushing (h : room < uses .flushing input trace) :
    ∃ front back : Trace, trace = front ++ .flush :: back ∧ front.count .flush = room ∧
      cutAt .flushing room input trace = front ++ [.flush] := by
  induction trace generalizing room input with
  | nil => exact absurd h (Nat.not_lt_zero _)
  | cons effect rest ih =>
    rw [uses] at h
    rw [cutAt]
    split
    · rename_i short
      cases effect with
      | flush =>
        obtain rfl : room = 0 := Nat.lt_one_iff.mp short
        exact ⟨[], rest, rfl, rfl, rfl⟩
      | out | read | log => exact absurd short (Nat.not_lt_zero _)
    · rename_i enough
      have later : room - effect.uses .flushing input <
          Trace.uses .flushing (input.drop effect.consumed) rest := by omega
      obtain ⟨front, back, rfl, count, cut⟩ := ih later
      refine ⟨effect :: front, back, rfl, ?_, by rw [cut]; rfl⟩
      have uses : effect.uses .flushing input = if effect == .flush then 1 else 0 := by
        cases effect <;> rfl
      rw [List.count_cons, count, ← uses]
      omega

theorem consumed_cutAt (lines : trace.TakesLines input) (le : room ≤ input.length)
    (h : room < uses .reading input trace) :
    (cutAt .reading room input trace).consumed = room := by
  induction trace generalizing room input with
  | nil => exact absurd h (Nat.not_lt_zero _)
  | cons effect rest ih =>
    rw [uses] at h
    rw [cutAt]
    cases effect with
    | out | flush | log =>
      simp only [Effect.uses, Nat.zero_add, Nat.not_lt_zero, if_false, Nat.sub_zero,
        consumed_cons, Effect.consumed] at h ⊢
      exact ih lines le h
    | read count =>
      obtain ⟨rfl, later⟩ := lines
      split
      · simp [Effect.stump, Effect.consumed]
      · rename_i enough
        have length := Text.Line.length_first_add_length_behind input
        have uses := Effect.uses_read_of_le List.prefix_rfl
          (Nat.le_trans (Nat.le_of_not_lt enough) le)
        have left : input.drop (Effect.read (first input).length).consumed = behind input :=
          drop_length_first input
        rw [uses] at enough h ⊢
        rw [left] at h ⊢
        rw [consumed_cons, Effect.consumed, ih later (by omega) (by omega)]
        omega

end Trace

/-! ## How much of a device is left -/

namespace Console

/-- How much of a device can still be used before it fails, if it is going to fail. -/
def room? (kind : FaultKind) (console : Console) : Option Nat :=
  match kind with
  | .writing => console.writeFault.map fun fault => fault.point - console.accepted
  | .flushing => console.flushFault.bind fun fault =>
    if console.flushes < fault.point then some (fault.point - (console.flushes + 1)) else none
  | .reading => console.source.failure.map fun _ => console.source.handedOut.length

/-- There is enough left of a device for an effect in front of some input. -/
def HasRoom (kind : FaultKind) (console : Console) (input : List UInt8) (effect : Effect) : Prop :=
  ∀ room, console.room? kind = some room → effect.uses kind input ≤ room

variable {kind : FaultKind} {before after : Console} {effect : Effect} {input : List UInt8}

/-- An effect for which there is enough of a device leaves the rest of it. -/
theorem Accounts.room?_eq (h : before.Accounts [effect] after)
    (enough : before.HasRoom kind input effect) (reach : before.source.handedOut <+: input) :
    before.room? kind = (after.room? kind).map (effect.uses kind input + ·) := by
  cases kind with
  | writing =>
    have uses : effect.uses .writing input = (Trace.written [effect]).length := by
      simpa [Trace.uses] using Trace.uses_writing input [effect]
    rw [uses]
    simp only [room?, h.writeFault, h.accepted]
    cases fault : before.writeFault with
    | none => rfl
    | some f =>
      have le := enough (f.point - before.accepted) (by rw [room?, fault]; rfl)
      rw [uses] at le
      simp only [Option.map_some, Option.some.injEq]
      omega
  | flushing =>
    have uses : effect.uses .flushing input = List.count .flush [effect] := by
      simpa [Trace.uses] using Trace.uses_flushing input [effect]
    rw [uses]
    simp only [room?, h.flushFault, h.flushes]
    cases fault : before.flushFault with
    | none => rfl
    | some f =>
      simp only [Option.bind_some]
      by_cases ahead : before.flushes < f.point
      · have le := enough (f.point - (before.flushes + 1)) (by simp [room?, fault, ahead])
        rw [uses] at le
        rw [if_pos ahead, if_pos (by omega), Option.map_some, Option.some.injEq]
        omega
      · rw [if_neg ahead, if_neg (by omega)]
        rfl
  | reading =>
    simp only [room?, h.failure, h.handedOut]
    cases failure : before.source.failure with
    | none => rfl
    | some error =>
      have le := enough before.source.handedOut.length (by rw [room?, failure]; rfl)
      have taken : effect.uses .reading input = effect.consumed := by
        cases effect with
        | out | flush | log => rfl
        | read count =>
          obtain ⟨rfl, -⟩ := h.lines
          exact Effect.uses_read_of_le reach le
      have consumed := h.lines.consumed_le
      rw [Trace.consumed_cons, Trace.consumed_nil, Nat.add_zero] at consumed
      simp only [Option.map_some, Option.some.injEq, taken, List.length_drop, Trace.consumed_cons,
        Trace.consumed_nil]
      omega

/-! ## What each request does to a device -/

theorem hasRoom_log (entry : Diagnostics.Entry) : before.HasRoom kind input (.log entry) := by
  intro room _
  cases kind <;> exact Nat.zero_le room

theorem hasRoom_out {octets : List UInt8} (h : before.refusal? octets = none) :
    before.HasRoom kind input (.out octets) := by
  intro room left
  cases kind with
  | reading | flushing => exact Nat.zero_le room
  | writing =>
    obtain ⟨fault, laid, rfl⟩ := Option.map_eq_some_iff.mp left
    simp only [refusal?, laid] at h
    split at h
    · assumption
    · cases h

/-- A writer that refuses takes just the octets for which it has room. -/
theorem room?_of_refusal? {octets : List UInt8} {error : DeviceError}
    (h : before.refusal? octets = some error) :
    ∃ room, before.room? .writing = some room ∧ room < octets.length ∧
      before.acceptedOf octets = octets.take room := by
  obtain ⟨fault, laid, -, short⟩ := refusal?_eq_some_iff.mp h
  refine ⟨fault.point - before.accepted, ?_, short, ?_⟩
  · rw [room?, laid]
    rfl
  · rw [acceptedOf, laid]

/-- A flush fails exactly if there is no room for it. -/
theorem flushFailure?_isSome_iff :
    before.flushFailure?.isSome = true ↔ before.room? .flushing = some 0 := by
  simp only [flushFailure?, room?]
  cases before.flushFault with
  | none => simp
  | some fault =>
    simp only [Option.bind_some]
    by_cases due : fault.point = before.flushes + 1
    · simp [due]
    · by_cases ahead : before.flushes < fault.point
      · simp [due, ahead]
        omega
      · simp [due, ahead]

theorem hasRoom_flush (h : before.flushFailure? = none) : before.HasRoom kind input .flush := by
  intro room left
  cases kind with
  | reading | writing => exact Nat.zero_le room
  | flushing =>
    have due := mt flushFailure?_isSome_iff.mpr (by rw [h]; simp)
    rw [left, Option.some.injEq] at due
    exact Nat.pos_of_ne_zero due

/-- A reader has room for a line that is read to its end. -/
theorem hasRoom_read (reach : before.source.handedOut <+: input)
    (whole : isEnded before.source.line = true ∨ before.source.failure = none) :
    before.HasRoom kind input (.read before.source.line.length) := by
  intro room left
  cases kind with
  | flushing | writing => exact Nat.zero_le room
  | reading =>
    obtain ⟨error, failure, rfl⟩ := Option.map_eq_some_iff.mp left
    rw [failure, line_eq_first_handedOut] at whole
    have ended : isEnded (first before.source.handedOut) = true := by simpa using whole
    have length := Text.Line.length_first_add_length_behind before.source.handedOut
    rw [line_eq_first_handedOut, Effect.uses, take_length_first reach, if_pos ended]
    omega

/-- A reader that fails within a line has room for no more than it gives of it. -/
theorem room?_of_opened {error : DeviceError} (opened : isEnded before.source.line = false)
    (failure : before.source.failure = some error) :
    before.room? .reading = some before.source.line.length := by
  rw [line_eq_first_handedOut] at opened ⊢
  rw [room?, failure, Text.Line.first_of_not_isEnded opened]
  rfl

/-- A console without a fault beside one of which only one device may fail. -/
structure Beside (free : Console) (kind : FaultKind) (faulty : Console) : Prop where
  mirrors : free.Mirrors faulty
  alone : ∀ other error, faulty.errorOf other = some error → other = kind

namespace Beside

variable {free faulty : Console}

theorem write (h : free.Beside kind faulty) (a b : List UInt8) :
    (free.write a).Beside kind (faulty.write b) :=
  ⟨h.mirrors.write a b, by rw [errorOf_write]; exact h.alone⟩

theorem flush (h : free.Beside kind faulty) : free.flush.Beside kind faulty.flush :=
  ⟨h.mirrors.flush, by rw [errorOf_flush]; exact h.alone⟩

theorem advance (h : free.Beside kind faulty) (mirrors : free.advance.Mirrors faulty.advance) :
    free.advance.Beside kind faulty.advance :=
  ⟨mirrors, by rw [errorOf_advance]; exact h.alone⟩

/-- What the reader with the fault hands out stands at the front of what is left. -/
theorem reach (h : free.Beside kind faulty) :
    faulty.source.handedOut <+: free.source.unread :=
  ⟨faulty.source.withheld, h.mirrors.unread.symm⟩

/-- A line in which the reader fails uses it up, ended or not. -/
theorem length_line_lt_uses (h : free.Beside kind faulty)
    (opened : isEnded faulty.source.line = false) :
    faulty.source.line.length <
      Effect.uses .reading free.source.unread (.read free.source.line.length) := by
  have le := h.mirrors.length_line_le opened
  rw [Effect.uses, h.mirrors.faultless.line_eq_first, take_length_first List.prefix_rfl]
  rw [h.mirrors.faultless.line_eq_first] at le
  split
  · rename_i ended
    refine Nat.lt_of_le_of_ne le fun same => ?_
    -- of the same length the two lines would be the same, but only one of them has its newline
    rw [line_eq_first_handedOut] at opened same
    have line := take_length_first h.reach
    rw [same, take_length_first List.prefix_rfl] at line
    rw [line, opened] at ended
    cases ended
  · exact Nat.lt_succ_of_le le

end Beside

end Console

namespace Performance

variable {α : Type}

/-- Beside a performance on which no device fails: the same, as long as there is enough of one
device for it, and otherwise cut off where that device has been used up. -/
def Limited (kind : FaultKind) (console : Console) (input : List UInt8)
    (part whole : Performance α) : Prop :=
  (part.Matches whole ∧
      ∀ room, console.room? kind = some room → whole.effects.uses kind input ≤ room) ∨
    ∃ room error, console.room? kind = some room ∧ console.errorOf kind = some error ∧
      room < whole.effects.uses kind input ∧ part.result = .error (.device error) ∧
      part.effects = whole.effects.cutAt kind room input

variable {kind : FaultKind} {console later : Console} {input : List UInt8} {effect : Effect}
  {part whole : Performance α}

/-- An effect for which there is enough of the device goes in front of both. -/
theorem Limited.after (h : Limited kind later (input.drop effect.consumed) part whole)
    (account : console.Accounts [effect] later) (enough : console.HasRoom kind input effect)
    (reach : console.source.handedOut <+: input) :
    Limited kind console input (part.after effect) (whole.after effect) := by
  have rooms := account.room?_eq enough reach
  rcases h with ⟨same, rest⟩ | ⟨room, error, left, fault, short, result, effects⟩
  · refine .inl ⟨same.after effect, fun total whole => ?_⟩
    rw [rooms] at whole
    obtain ⟨room, left, rfl⟩ := Option.map_eq_some_iff.mp whole
    exact Nat.add_le_add_left (rest room left) _
  · rw [account.errorOf] at fault
    refine .inr ⟨effect.uses kind input + room, error, ?_, fault, ?_, result, ?_⟩
    · rw [rooms, left]
      rfl
    · exact Nat.add_lt_add_left short _
    · rw [effects_after, effects_after, effects, Trace.cutAt, Nat.add_sub_cancel_left,
        if_neg (Nat.not_lt.mpr (Nat.le_add_right _ _))]

/-- In an effect for which there is not enough of the device the performance ends. -/
theorem Limited.struck {room : Nat} {error : DeviceError} {rest : Trace}
    (starts : whole.effects = effect :: rest) (effects : part.effects = [effect.stump room])
    (result : part.result = .error (.device error)) (left : console.room? kind = some room)
    (fault : console.errorOf kind = some error) (short : room < effect.uses kind input) :
    Limited kind console input part whole := by
  refine .inr ⟨room, error, left, fault, ?_, result, ?_⟩
  · rw [starts, Trace.uses]
    exact Nat.lt_add_right _ short
  · rw [starts, effects, Trace.cutAt, if_pos short]

end Performance

/-- **A single fault is met exactly where its device has been used up.**  Every dialogue does what
it does on a console without faults as long as the device lasts, and ends with the error of the
fault in the effect for which it does not. -/
theorem Dialogue.perform_limited {α : Type} (dialogue : Dialogue α) {kind : FaultKind}
    {free faulty : Console} (h : free.Beside kind faulty) :
    Performance.Limited kind faulty free.source.unread (dialogue.perform faulty)
      (dialogue.perform free) := by
  induction dialogue generalizing free faulty with
  | done result => exact .inl ⟨⟨rfl, rfl, h.mirrors⟩, fun room _ => Nat.zero_le room⟩
  | fail interruption => exact .inl ⟨⟨rfl, rfl, h.mirrors⟩, fun room _ => Nat.zero_le room⟩
  | note entry next ih =>
    exact (ih h).after (faulty.accounts_log entry) (Console.hasRoom_log entry) h.reach
  | say text next ih =>
    simp only [perform, h.mirrors.faultless.refusal?_eq_none]
    cases refused : faulty.refusal? (Text.Utf8.encode text) with
    | none =>
      have account := faulty.accounts_write (Text.Utf8.encode text)
      rw [Console.acceptedOf_of_refusal?_eq_none refused] at account
      exact (ih (h.write _ _)).after account (Console.hasRoom_out refused) h.reach
    | some error =>
      have fault := (Console.exists_count_of_refusal? refused).1
      obtain rfl : FaultKind.writing = kind := h.alone _ _ fault
      obtain ⟨room, left, short, taken⟩ := Console.room?_of_refusal? refused
      rw [taken]
      exact .struck rfl rfl rfl left fault short
  | flush next ih =>
    simp only [perform, h.mirrors.faultless.flushFailure?_eq_none]
    cases failed : faulty.flushFailure? with
    | none =>
      exact (ih h.flush).after faulty.accounts_flush (Console.hasRoom_flush failed) h.reach
    | some error =>
      have fault := Console.errorOf_of_flushFailure? failed
      obtain rfl : FaultKind.flushing = kind := h.alone _ _ fault
      have left := Console.flushFailure?_isSome_iff.mp (by rw [failed]; rfl)
      exact .struck rfl rfl rfl left fault Nat.zero_lt_one
  | listen next ih =>
    simp only [perform]
    by_cases whole : isEnded faulty.source.line = true ∨ faulty.source.failure = none
    · -- both read the same line, and go on side by side if it says something
      obtain ⟨line, mirrors⟩ := h.mirrors.advance_of_whole whole
      have beside := h.advance mirrors
      have account := faulty.accounts_advance
      have enough : faulty.HasRoom kind free.source.unread (.read faulty.source.line.length) :=
        Console.hasRoom_read h.reach whole
      have left : free.source.unread.drop faulty.source.line.length =
          free.advance.source.unread := by
        rw [← line, h.mirrors.faultless.line_eq_first, Trace.drop_length_first,
          h.mirrors.faultless.unread_advance_eq_behind]
      rw [h.mirrors.listen_of_whole whole, line]
      cases free.source.listen with
      | error interruption =>
        have ended : Performance.Limited kind faulty.advance
            (free.source.unread.drop faulty.source.line.length)
            (⟨.error interruption, [], faulty.advance⟩ : Performance α)
            ⟨.error interruption, [], free.advance⟩ :=
          .inl ⟨⟨rfl, rfl, mirrors⟩, fun room _ => Nat.zero_le room⟩
        exact ended.after account enough h.reach
      | ok answer =>
        have later := ih answer beside
        rw [← left] at later
        exact later.after account enough h.reach
    · rw [not_or, Bool.not_eq_true] at whole
      obtain ⟨opened, fails⟩ := whole
      obtain ⟨error, failure⟩ := Option.ne_none_iff_exists'.mp fails
      obtain rfl : FaultKind.reading = kind := h.alone .reading error failure
      rw [Source.listen_of_opened opened failure]
      have left := Console.room?_of_opened opened failure
      cases free.source.listen with
      | error interruption =>
        exact .struck rfl rfl rfl left failure (h.length_line_lt_uses opened)
      | ok answer =>
        exact .struck rfl rfl rfl left failure (h.length_line_lt_uses opened)

/-! ## One fault and no other -/

/-- Whether a fault can be laid on a console in that way: a flush may fail with any error. -/
def FaultKind.Admits : FaultKind → Fault → Prop
  | .reading, fault => fault.error.Fatal
  | .writing, fault => fault.error.Fatal
  | .flushing, _ => True

/-- The same setup with one fault laid on one device and none on the others. -/
def Setup.withFault (setup : Setup) (fault : Fault) : (kind : FaultKind) → kind.Admits fault → Setup
  | .reading, fatal =>
    { setup.withoutFaults with
      readFault := some fault
      readFatal := fun _ laid => Option.some.inj laid ▸ fatal }
  | .writing, fatal =>
    { setup.withoutFaults with
      writeFault := some fault
      writeFatal := fun _ laid => Option.some.inj laid ▸ fatal }
  | .flushing, _ => { setup.withoutFaults with flushFault := some fault }

variable {setup : Setup} {fault : Fault} {kind : FaultKind} {admits : kind.Admits fault}

theorem Setup.faultOf_withFault (other : FaultKind) :
    (setup.withFault fault kind admits).faultOf other =
      if other = kind then some fault else none := by
  cases kind <;> cases other <;> rfl

theorem Setup.beside_withFault :
    setup.withoutFaults.console.Beside kind (setup.withFault fault kind admits).console where
  mirrors := by
    have mirrors := (setup.withFault fault kind admits).mirrors
    have same : (setup.withFault fault kind admits).withoutFaults = setup.withoutFaults := by
      cases kind <;> rfl
    rwa [same] at mirrors
  alone := by
    intro other error h
    obtain ⟨found, laid, -⟩ := exists_fault_of_errorOf h
    rw [faultOf_withFault] at laid
    split at laid
    · assumption
    · cases laid

theorem Setup.error_eq_of_errorOf {error : DeviceError}
    (h : (setup.withFault fault kind admits).console.errorOf kind = some error) :
    error = fault.error := by
  obtain ⟨found, laid, rfl⟩ := exists_fault_of_errorOf h
  rw [faultOf_withFault, if_pos rfl] at laid
  rw [Option.some.inj laid]

/-- A read fault behind the end of the input is none. -/
theorem Source.failure_ofOctets (octets : List UInt8) (sizes : List Nat) (fault : Fault) :
    (ofOctets octets sizes (some fault)).failure =
      if fault.point ≤ octets.length then some fault.error else none := by
  rw [ofOctets]
  split <;> rfl

/-- How much of its device a fault leaves at the start. -/
theorem Setup.room?_withFault :
    (setup.withFault fault kind admits).console.room? kind =
      match kind with
      | .writing => some fault.point
      | .flushing => if 0 < fault.point then some (fault.point - 1) else none
      | .reading => if fault.point ≤ setup.input.length then some fault.point else none := by
  cases kind with
  | writing => rfl
  | flushing => rfl
  | reading =>
    have failure : (setup.withFault fault .reading admits).console.source.failure =
        if fault.point ≤ setup.input.length then some fault.error else none :=
      Source.failure_ofOctets _ _ _
    have out : (setup.withFault fault .reading admits).console.source.handedOut =
        setup.input.take fault.point :=
      handedOut_console _
    simp only [Console.room?, failure, out, List.length_take]
    split
    · rename_i le
      rw [Option.map_some, Nat.min_eq_left le]
    · rfl

namespace Performance

variable {α β : Type}

/-- The same answer: the result, the trace, and how much of the input is left. -/
structure SameAnswer (part whole : Performance α) : Prop where
  result : part.result = whole.result
  trace : part.trace = whole.trace
  unread : part.unread = whole.unread

theorem Matches.sameAnswer {part whole : Performance α} (h : part.Matches whole) :
    part.SameAnswer whole :=
  ⟨h.result, h.trace, congrArg List.length h.console.unread.symm⟩

end Performance

namespace Dialogue

variable {α : Type} (dialogue : Dialogue α)

theorem limited_withFault (setup : Setup) (fault : Fault) (kind : FaultKind)
    (admits : kind.Admits fault) :
    Performance.Limited kind (setup.withFault fault kind admits).console setup.input
      (dialogue.perform (setup.withFault fault kind admits).console)
      (dialogue.perform setup.withoutFaults.console) := by
  have beside :
      setup.withoutFaults.console.Beside kind (setup.withFault fault kind admits).console :=
    Setup.beside_withFault
  have limited := dialogue.perform_limited beside
  rwa [Setup.unread_console] at limited

/-- **A writer that fails behind some octets** is met exactly if more are to be written. -/
theorem perform_writeFault (setup : Setup) (fault : Fault) (fatal : fault.error.Fatal) :
    let part := dialogue.perform (setup.withFault fault .writing fatal).console
    let whole := dialogue.perform setup.withoutFaults.console
    (fault.point < whole.trace.written.length →
        part.result = .error (.device fault.error) ∧
          part.trace.written = whole.trace.written.take fault.point) ∧
      (¬ fault.point < whole.trace.written.length → part.SameAnswer whole) := by
  intro part whole
  have start : (setup.withFault fault .writing fatal).console.room? .writing = some fault.point :=
    Setup.room?_withFault
  have limited : Performance.Limited .writing _ setup.input part whole :=
    dialogue.limited_withFault setup fault .writing fatal
  simp only [Performance.trace, Trace.written_merge]
  rcases limited with ⟨same, enough⟩ | ⟨room, error, left, met, short, result, effects⟩
  · have le := enough fault.point start
    rw [Trace.uses_writing] at le
    exact ⟨fun more => absurd more (Nat.not_lt.mpr le), fun _ => same.sameAnswer⟩
  · rw [start] at left
    obtain rfl := Option.some.inj left
    rw [Trace.uses_writing] at short
    rw [Setup.error_eq_of_errorOf met] at result
    refine ⟨fun _ => ⟨result, ?_⟩, fun enough => absurd short enough⟩
    rw [effects, Trace.written_cutAt]

/-- **A flush that fails by its number** is met exactly if there are so many flushes. -/
theorem perform_flushFault (setup : Setup) (fault : Fault) :
    let part := dialogue.perform (setup.withFault fault .flushing trivial).console
    let whole := dialogue.perform setup.withoutFaults.console
    (1 ≤ fault.point ∧ fault.point ≤ whole.trace.count .flush →
        part.result = .error (.device fault.error) ∧
          ∃ front back : Trace, whole.trace = front ++ .flush :: back ∧
            front.count .flush + 1 = fault.point ∧ part.trace = front ++ [.flush]) ∧
      (¬ (1 ≤ fault.point ∧ fault.point ≤ whole.trace.count .flush) → part.SameAnswer whole) := by
  intro part whole
  have start : (setup.withFault fault .flushing trivial).console.room? .flushing =
      if 0 < fault.point then some (fault.point - 1) else none :=
    Setup.room?_withFault
  have limited : Performance.Limited .flushing _ setup.input part whole :=
    dialogue.limited_withFault setup fault .flushing trivial
  have silent : ∀ octets, Effect.flush ≠ .out octets := by simp
  simp only [Performance.trace, Trace.count_flush_merge]
  rcases limited with ⟨same, enough⟩ | ⟨room, error, left, met, short, result, effects⟩
  · refine ⟨fun strikes => ?_, fun _ => same.sameAnswer⟩
    obtain ⟨positive, le⟩ := strikes
    have most := enough (fault.point - 1) (by rw [start]; exact if_pos positive)
    rw [Trace.uses_flushing] at most
    omega
  · rw [start] at left
    split at left
    · rename_i positive
      obtain rfl := Option.some.inj left
      obtain ⟨front, back, split, count, cut⟩ := Trace.exists_of_cutAt_flushing short
      rw [Setup.error_eq_of_errorOf met] at result
      rw [Trace.uses_flushing] at short
      refine ⟨fun _ => ⟨result, front.merge, back.merge, ?_, ?_, ?_⟩, fun enough => ?_⟩
      · rw [split, Trace.merge_append silent]
      · rw [Trace.count_flush_merge, count]
        omega
      · rw [effects, cut, Trace.merge_append silent]
        rfl
      · omega
    · cases left

/-- **A reader that fails behind some octets** is met exactly if more of them are to be read, or if
they are the whole input and its end is to be met. -/
theorem perform_readFault (setup : Setup) (fault : Fault) (fatal : fault.error.Fatal) :
    let part := dialogue.perform (setup.withFault fault .reading fatal).console
    let whole := dialogue.perform setup.withoutFaults.console
    (fault.point < whole.trace.consumed ∨
          (fault.point = setup.input.length ∧ whole.trace.MeetsEnd setup.input) →
        part.result = .error (.device fault.error) ∧ part.trace.consumed = fault.point ∧
          part.unread + fault.point = setup.input.length) ∧
      (¬ (fault.point < whole.trace.consumed ∨
          (fault.point = setup.input.length ∧ whole.trace.MeetsEnd setup.input)) →
        part.SameAnswer whole) := by
  intro part whole
  have start : (setup.withFault fault .reading fatal).console.room? .reading =
      if fault.point ≤ setup.input.length then some fault.point else none :=
    Setup.room?_withFault
  have limited : Performance.Limited .reading _ setup.input part whole :=
    dialogue.limited_withFault setup fault .reading fatal
  have lines : whole.effects.TakesLines setup.input := by
    have handed : setup.withoutFaults.console.source.handedOut = setup.input :=
      Setup.handedOut_console _
    exact handed ▸ (dialogue.perform_accounts setup.withoutFaults.console).lines
  -- the end is met exactly if the reader is used beyond what is read, which is then everything
  have all := lines.consumed_le
  obtain ⟨least, beyond⟩ := Trace.uses_reading setup.input whole.effects
  have everything := fun more => (beyond.mp more).consumed_eq lines
  have total : part.effects.consumed + part.unread = setup.input.length := by
    have account := dialogue.perform_accounts (setup.withFault fault .reading fatal).console
    exact account.consumed_add_length_unread.trans (congrArg List.length (Setup.unread_console _))
  simp only [Performance.trace, Trace.consumed_merge, Trace.meetsEnd_merge, ← beyond]
  rcases limited with ⟨same, enough⟩ | ⟨room, error, left, met, short, result, effects⟩
  · refine ⟨fun strikes => ?_, fun _ => same.sameAnswer⟩
    have le : fault.point ≤ setup.input.length := by omega
    have most := enough fault.point (by rw [start, if_pos le])
    omega
  · rw [start] at left
    split at left
    · rename_i le
      obtain rfl := Option.some.inj left
      rw [Setup.error_eq_of_errorOf met] at result
      have consumed := Trace.consumed_cutAt lines le short
      rw [← effects] at consumed
      refine ⟨fun _ => ⟨result, consumed, ?_⟩, fun enough => ?_⟩
      · omega
      · omega
    · cases left

end Dialogue

/-- **Where a single fault strikes in a tour.**  A writer that accepts so many octets fails exactly
if the tour writes more without faults, and has then accepted just so many of them.  A flush fails
by its number exactly if the tour flushes so often, and nothing happens but what comes before that
flush.  A reader that fails behind so many octets fails exactly if the tour reads more of them, or if
they are the whole input and the tour meets its end, and has then given just so many.  Where nothing
fails the answer is the one without faults.  The fault of the writer and that of the reader are
fatal; that of a flush is of any kind. -/
theorem Tour.perform_dialogue_withFault (setup : Setup) (fault : Fault) :
    let whole := setup.withoutFaults.tour
    let flushing := (setup.withFault fault .flushing trivial).tour
    (∀ fatal : fault.error.Fatal,
        let writing := (setup.withFault fault .writing fatal).tour
        (fault.point < whole.trace.written.length →
            writing.result = .error (.device fault.error) ∧
              writing.trace.written = whole.trace.written.take fault.point) ∧
          (¬ fault.point < whole.trace.written.length → writing.SameAnswer whole)) ∧
      ((1 ≤ fault.point ∧ fault.point ≤ whole.trace.count .flush →
          flushing.result = .error (.device fault.error) ∧
            ∃ front back : Trace, whole.trace = front ++ .flush :: back ∧
              front.count .flush + 1 = fault.point ∧ flushing.trace = front ++ [.flush]) ∧
        (¬ (1 ≤ fault.point ∧ fault.point ≤ whole.trace.count .flush) →
          flushing.SameAnswer whole)) ∧
      ∀ fatal : fault.error.Fatal,
        let reading := (setup.withFault fault .reading fatal).tour
        (fault.point < whole.trace.consumed ∨
              (fault.point = setup.input.length ∧ whole.trace.MeetsEnd setup.input) →
            reading.result = .error (.device fault.error) ∧ reading.trace.consumed = fault.point ∧
              reading.unread + fault.point = setup.input.length) ∧
          (¬ (fault.point < whole.trace.consumed ∨
              (fault.point = setup.input.length ∧ whole.trace.MeetsEnd setup.input)) →
            reading.SameAnswer whole) :=
  ⟨Tour.dialogue.perform_writeFault setup fault, Tour.dialogue.perform_flushFault setup fault,
    Tour.dialogue.perform_readFault setup fault⟩

/-- Five octets are fewer than a tour writes and fewer than it reads. -/
theorem Tour.perform_dialogue_withFault_at_five :
    let setup := Setup.faultless (Text.Utf8.encode "Ada\n20\n")
    let fault : Fault := ⟨5, ⟨.brokenPipe, "gone"⟩⟩
    ∃ fatal : fault.error.Fatal,
      (setup.withFault fault .writing fatal).tour.result = .error (.device fault.error) ∧
        (setup.withFault fault .writing fatal).tour.trace.written = Text.Utf8.encode "Hello" ∧
        (setup.withFault fault .reading fatal).tour.result = .error (.device fault.error) ∧
        (setup.withFault fault .reading fatal).tour.trace.consumed = 5 := by
  intro setup fault
  have fatal : fault.error.Fatal := by decide
  obtain ⟨writing, -, reading⟩ := perform_dialogue_withFault setup fault
  obtain ⟨refused, written⟩ := (writing fatal).1 (by decide +kernel)
  obtain ⟨failed, consumed, -⟩ := (reading fatal).1 (.inl (by decide +kernel))
  refine ⟨fatal, refused, ?_, failed, consumed⟩
  rw [written]
  decide +kernel

/-- All six octets are read in both, but only the first tour has to look behind them. -/
example :
    let fault : Fault := ⟨6, ⟨.brokenPipe, "gone"⟩⟩
    have fatal : fault.error.Fatal := by decide
    let answered (input : String) :=
      ((Setup.faultless (Text.Utf8.encode input)).withFault fault .reading fatal).tour.result
    answered "Ada\n42" = .error (.device fault.error) ∧ answered "Ada\n4\n" = .ok () := by
  decide

end Walkthrough
