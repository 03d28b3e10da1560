import Walkthrough.Dialogue.Calls
import Walkthrough.Proofs.Aftermath

/-!
# What comes to an end

A call that was interrupted is made again, and a fault is met at every call.  So a dialogue that
meets a fault that interrupts a read or a write is held up there for ever, and this is the only way
not to come to an end (`Dialogue.returns_iff`).  Whatever does come to an end comes to what
`Dialogue.perform` says (`Dialogue.realizes_of_attempt`), and on a console, whose failures are
fatal, so does every dialogue (`Dialogue.attempt_console`).

What is met is told from a console that is like the devices in all but the kind of the failures
that interrupt (`Devices.settled`).
-/

namespace Walkthrough

open Text.Utf8 (encode)
open Text.Line (isEnded)

/-! ## More calls -/

theorem Attempt.andThen_eq_some_of {α β : Type} {first : Attempt α} {last : Attempt β}
    {next other : α → Devices → Option (Attempt β)} (h : first.andThen next = some last)
    (same : ∀ result devices outcome, next result devices = some outcome →
      other result devices = some outcome) :
    first.andThen other = some last := by
  obtain ⟨result, effects, devices⟩ := first
  cases result with
  | error interruption => exact h
  | ok result =>
    obtain ⟨outcome, ended, rfl⟩ := Option.map_eq_some_iff.mp h
    exact Option.map_eq_some_iff.mpr ⟨outcome, same _ _ _ ended, rfl⟩

section MoreCalls

variable {calls more : Nat} (le : calls ≤ more)

include le

theorem Source.collect_of_le {taken : List UInt8} {source : Source}
    {outcome : List UInt8 × Option DeviceError × Source}
    (h : source.collect calls taken = some outcome) :
    source.collect more taken = some outcome := by
  induction calls generalizing more taken source with
  | zero => cases h
  | succ calls ih =>
    obtain ⟨more, rfl⟩ := Nat.exists_eq_add_one_of_ne_zero (Nat.ne_zero_of_lt le)
    have le := Nat.le_of_succ_le_succ le
    obtain ⟨_ | ⟨piece, pieces⟩, failure, withheld⟩ := source
    · cases failure with
      | none => exact h
      | some error =>
        simp only [collect] at h ⊢
        by_cases fatal : error.Fatal
        · rwa [if_pos fatal] at h ⊢
        · rw [if_neg fatal] at h ⊢
          exact ih le h
    · simp only [collect] at h ⊢
      by_cases ended : isEnded (Text.Line.split piece).1 = true
      · rwa [if_pos ended] at h ⊢
      · rw [if_neg ended] at h ⊢
        exact ih le h

theorem Devices.give_of_le {octets : List UInt8} {devices : Devices}
    {outcome : Option DeviceError × Devices} (h : devices.give calls octets = some outcome) :
    devices.give more octets = some outcome := by
  induction calls generalizing more octets devices with
  | zero => cases h
  | succ calls ih =>
    obtain ⟨more, rfl⟩ := Nat.exists_eq_add_one_of_ne_zero (Nat.ne_zero_of_lt le)
    have le := Nat.le_of_succ_le_succ le
    rw [give] at h ⊢
    by_cases done : octets.isEmpty = true
    · rwa [if_pos done] at h ⊢
    · rw [if_neg done] at h ⊢
      cases offer : devices.offer octets with
      | ok count =>
        rw [offer] at h
        exact ih le h
      | error error =>
        rw [offer] at h
        simp only at h ⊢
        by_cases fatal : error.Fatal
        · rwa [if_pos fatal] at h ⊢
        · rw [if_neg fatal] at h ⊢
          exact ih le h

/-- **A dialogue that comes to an end with some calls comes to the same end with more.** -/
theorem Dialogue.attempt_of_le {α : Type} {dialogue : Dialogue α} {devices : Devices}
    {outcome : Attempt α} (h : dialogue.attempt calls devices = some outcome) :
    dialogue.attempt more devices = some outcome := by
  induction dialogue generalizing devices outcome with
  | done result => exact h
  | fail interruption => exact h
  | note entry next ih =>
    obtain ⟨rest, ended, rfl⟩ := Option.map_eq_some_iff.mp h
    exact Option.map_eq_some_iff.mpr ⟨rest, ih ended, rfl⟩
  | say text next ih =>
    obtain ⟨first, written, h⟩ := Option.bind_eq_some_iff.mp h
    obtain ⟨left, given, rfl⟩ := Option.map_eq_some_iff.mp written
    refine Option.bind_eq_some_iff.mpr ⟨_, ?_, Attempt.andThen_eq_some_of h fun _ _ _ => ih⟩
    exact Option.map_eq_some_iff.mpr ⟨left, Devices.give_of_le le given, rfl⟩
  | flush next ih => exact Attempt.andThen_eq_some_of h fun _ _ _ => ih
  | listen next ih =>
    obtain ⟨first, read, h⟩ := Option.bind_eq_some_iff.mp h
    obtain ⟨left, collected, rfl⟩ := Option.map_eq_some_iff.mp read
    refine Option.bind_eq_some_iff.mpr
      ⟨_, ?_, Attempt.andThen_eq_some_of h fun line _ _ => ih line⟩
    exact Option.map_eq_some_iff.mpr ⟨left, Source.collect_of_le le collected, rfl⟩

end MoreCalls

/-! ## Devices that are not interrupted -/

/-- A failure that ends the request in its place. -/
def DeviceError.settled (error : DeviceError) : DeviceError :=
  if error.Fatal then error else { error with kind := .other }

theorem DeviceError.settled_of_fatal {error : DeviceError} (fatal : error.Fatal) :
    error.settled = error :=
  if_pos fatal

theorem DeviceError.fatal_settled (error : DeviceError) : error.settled.Fatal := by
  unfold settled
  split
  · assumption
  · show DeviceErrorKind.other ≠ .interrupted
    decide

namespace Devices

/-- The console that is like some devices, except that it fails where they are interrupted. -/
def settled (devices : Devices) : Console where
  source := { devices.source with failure := devices.source.failure.map .settled }
  accepted := devices.accepted
  flushes := devices.flushes
  writeFault := devices.writeFault.map fun fault => ⟨fault.point, fault.error.settled⟩
  flushFault := devices.flushFault
  readFatal := by
    intro error met
    obtain ⟨error, -, rfl⟩ := Option.map_eq_some_iff.mp met
    exact error.fatal_settled
  writeFatal := by
    intro fault met
    obtain ⟨fault, -, rfl⟩ := Option.map_eq_some_iff.mp met
    exact fault.error.fatal_settled

/-- The devices at the point to which a console like them has come. -/
def movedTo (devices : Devices) (console : Console) : Devices :=
  { console.toDevices with
    source := { console.source with failure := devices.source.failure }
    writeFault := devices.writeFault }

/-- The fault of a kind, if there is one, ends the request in which it is met. -/
def Fatal (devices : Devices) : FaultKind → Prop
  | .writing => ∀ fault ∈ devices.writeFault, fault.error.Fatal
  | .flushing => True
  | .reading => ∀ error ∈ devices.source.failure, error.Fatal

instance (devices : Devices) (kind : FaultKind) : Decidable (devices.Fatal kind) :=
  match kind with
  | .writing => inferInstanceAs (Decidable (∀ fault ∈ devices.writeFault, fault.error.Fatal))
  | .flushing => inferInstanceAs (Decidable True)
  | .reading => inferInstanceAs (Decidable (∀ error ∈ devices.source.failure, error.Fatal))

end Devices

/-! ## One request -/

namespace Source

theorem length_pieces_advance_le (source : Source) :
    source.advance.pieces.length ≤ source.pieces.length := by
  obtain ⟨pieces, failure, withheld⟩ := source
  induction pieces with
  | nil => exact Nat.le_refl 0
  | cons piece more ih =>
    simp only [advance, gather] at ih ⊢
    split
    · exact Nat.le_refl _
    · exact Nat.le_succ_of_le ih

/-- A reader that is interrupted is asked again, and so for ever. -/
theorem collect_of_interrupted {error : DeviceError} (again : ¬ error.Fatal) (calls : Nat)
    (taken withheld : List UInt8) : collect calls taken ⟨[], some error, withheld⟩ = none := by
  induction calls with
  | zero => rfl
  | succ calls ih =>
    rw [collect, if_neg again]
    exact ih

/-- With a call for every piece and one more, what is taken is the next line, unless the reader is
interrupted in front of the newline.  A failure is met only there. -/
theorem collect_eq (source : Source) {calls : Nat} (enough : source.pieces.length < calls)
    (taken : List UInt8) :
    source.collect calls taken =
      if isEnded source.line = true ∨ ∀ error ∈ source.failure, error.Fatal then
        some (taken ++ source.line, if isEnded source.line then none else source.failure,
          source.advance)
      else none := by
  obtain ⟨pieces, failure, withheld⟩ := source
  obtain ⟨calls, rfl⟩ := Nat.exists_eq_add_one_of_ne_zero (Nat.ne_zero_of_lt enough)
  induction pieces generalizing calls taken with
  | nil =>
    cases failure with
    | none => simp [collect, line, gather, advance, isEnded]
    | some error =>
      by_cases fatal : error.Fatal
      · simp [collect, line, gather, advance, isEnded, fatal]
      · rw [collect_of_interrupted fatal]
        simp [line, gather, isEnded, fatal]
  | cons piece more ih =>
    have fewer := Nat.lt_of_succ_lt_succ enough
    obtain ⟨calls, rfl⟩ := Nat.exists_eq_add_one_of_ne_zero (Nat.ne_zero_of_lt fewer)
    simp only [collect, line, advance, gather]
    by_cases ended : isEnded (Text.Line.split piece).1 = true
    · simp only [ended, if_true, true_or]
    · simp only [if_neg ended, Text.Line.isEnded_append_of_not_isEnded ended, ← List.append_assoc]
      exact ih _ _ fewer

end Source

namespace Devices

variable {devices : Devices} {octets : List UInt8} {fault : Fault}

/-- A writer that is going to accept some octets accepts them in one call. -/
theorem offer_of_refusal?_eq_none (h : devices.settled.refusal? octets = none)
    (something : octets ≠ []) : devices.offer octets = .ok octets.length := by
  unfold Console.refusal? at h
  unfold offer
  cases laid : devices.writeFault with
  | none => rfl
  | some fault =>
    have some := List.length_pos_of_ne_nil something
    have room : octets.length ≤ fault.point - devices.accepted := by
      simpa [settled, laid] using h
    simp only
    rw [if_pos (by omega), Nat.min_eq_left room]

/-- A writer that accepts nothing more fails at the next call, or is asked again and so for ever. -/
theorem give_of_full (laid : devices.writeFault = some fault)
    (full : fault.point ≤ devices.accepted) (something : octets ≠ []) (calls : Nat) :
    devices.give (calls + 1) octets =
      if fault.error.Fatal then some (some fault.error, devices) else none := by
  have refused : devices.offer octets = .error fault.error := by
    simp [offer, laid, Nat.not_lt.mpr full]
  induction calls with
  | zero => simp [give, something, refused]
  | succ calls ih =>
    rw [give, if_neg (by simpa using something), refused]
    simp only
    split
    · rfl
    · rename_i again
      rw [ih, if_neg again]

/-- A writer that cannot accept some octets takes those for which it has room, and then it is
full. -/
theorem give_of_short (laid : devices.writeFault = some fault)
    (short : fault.point - devices.accepted < octets.length) (calls : Nat) :
    devices.give (calls + 2) octets =
      if fault.error.Fatal then
        some (some fault.error,
          { devices with accepted := devices.accepted + (fault.point - devices.accepted) })
      else none := by
  have something : octets ≠ [] := List.ne_nil_of_length_pos (Nat.zero_lt_of_lt short)
  by_cases full : fault.point ≤ devices.accepted
  · rw [give_of_full laid full something, Nat.sub_eq_zero_of_le full]
    rfl
  · have taken : devices.offer octets = .ok (fault.point - devices.accepted) := by
      rw [offer, laid]
      simp only
      rw [if_pos (Nat.lt_of_not_le full), Nat.min_eq_right (Nat.le_of_lt short)]
    rw [give, if_neg (by simpa using something), taken]
    apply give_of_full (by exact laid)
    · show fault.point ≤ devices.accepted + (fault.point - devices.accepted)
      omega
    · simpa using short

/-- With two calls a writer is given all that it accepts, and fails where it does not accept
everything, unless it is interrupted there. -/
theorem give_eq (devices : Devices) {calls : Nat} (enough : 2 ≤ calls) (octets : List UInt8) :
    devices.give calls octets =
      if devices.settled.refusal? octets = none ∨ devices.Fatal .writing then
        some (devices.settled.refusal? octets, devices.movedTo (devices.settled.write octets))
      else none := by
  obtain ⟨calls, rfl⟩ := Nat.exists_eq_add_of_le' enough
  cases refusal : devices.settled.refusal? octets with
  | none =>
    rw [if_pos (.inl rfl), movedTo, Console.write,
      Console.acceptedOf_of_refusal?_eq_none refusal]
    by_cases empty : octets = []
    · subst empty
      rfl
    · rw [give, if_neg (by simpa using empty), offer_of_refusal?_eq_none refusal empty]
      simp [give, settled]
  | some error =>
    obtain ⟨_, met, rfl, short⟩ := Console.refusal?_eq_some_iff.mp refusal
    obtain ⟨fault, laid, rfl⟩ := Option.map_eq_some_iff.mp met
    have taken : (devices.settled.acceptedOf octets).length = fault.point - devices.accepted := by
      rw [Console.acceptedOf, met]
      exact List.length_take_of_le (Nat.le_of_lt short)
    have iff : devices.Fatal .writing ↔ fault.error.Fatal := by simp [Fatal, laid]
    rw [give_of_short laid short, movedTo, Console.write, taken]
    by_cases fatal : fault.error.Fatal
    · simp [fatal, iff, DeviceError.settled_of_fatal, settled, laid]
    · simp [fatal, iff]

theorem write_eq (devices : Devices) {calls : Nat} (enough : 2 ≤ calls) (octets : List UInt8) :
    devices.write calls octets =
      if devices.settled.refusal? octets = none ∨ devices.Fatal .writing then
        some ⟨(devices.settled.refusal? octets).elim (.ok ()) fun error => .error (.device error),
          [.out (devices.settled.acceptedOf octets)],
          devices.movedTo (devices.settled.write octets)⟩
      else none := by
  have accepted : octets.take (devices.settled.acceptedOf octets).length =
      devices.settled.acceptedOf octets := by
    unfold Console.acceptedOf
    cases devices.settled.writeFault with
    | none => simp
    | some fault => simp
  have written : octets.take ((devices.settled.write octets).accepted - devices.accepted) =
      devices.settled.acceptedOf octets := by
    show octets.take (devices.accepted + _ - devices.accepted) = _
    rw [Nat.add_sub_cancel_left, accepted]
  rw [write, give_eq devices enough]
  split
  · simp only [Option.map_some, movedTo, written]
  · rfl

theorem flush_eq (devices : Devices) :
    devices.flush =
      ⟨devices.settled.flushFailure?.elim (.ok ()) fun error => .error (.device error), [.flush],
        devices.movedTo devices.settled.flush⟩ := by
  have result : devices.flush.result =
      devices.settled.flushFailure?.elim (.ok ()) fun error => .error (.device error) := by
    unfold flush Console.flushFailure?
    simp only [settled]
    cases devices.flushFault with
    | none => rfl
    | some fault => by_cases due : fault.point = devices.flushes + 1 <;> simp [due]
  rw [← result]
  rfl

theorem read_eq (devices : Devices) {calls : Nat}
    (enough : devices.source.pieces.length < calls) :
    devices.read calls =
      if isEnded devices.source.line = true ∨ devices.Fatal .reading then
        some ⟨devices.settled.source.listen, [.read devices.source.line.length],
          devices.movedTo devices.settled.advance⟩
      else none := by
  have collected := Source.collect_eq devices.source enough []
  by_cases heard : isEnded devices.source.line = true ∨ devices.Fatal .reading
  · have answer :
        Source.answer (if isEnded devices.source.line then none else devices.source.failure)
            devices.source.line =
          devices.settled.source.listen := by
      show _ = Source.answer (devices.source.failure.map .settled) devices.source.line
      rcases heard with ended | fatal
      · simp [Source.answer, ended]
      · rw [Option.map_congr fun error met => DeviceError.settled_of_fatal (fatal error met),
          Option.map_id']
        by_cases ended : isEnded devices.source.line = true
        · simp [Source.answer, ended]
        · rw [if_neg ended]
    rw [if_pos heard, read, collected.trans (if_pos heard)]
    simp only [Option.map_some, List.nil_append, answer]
    rfl
  · rw [if_neg heard, read, collected.trans (if_neg heard)]
    rfl

end Devices

/-! ## Whole dialogues -/

/-- The attempt that comes to what a performance on a console like the devices comes to. -/
def Performance.on {α : Type} (performance : Performance α) (devices : Devices) : Attempt α :=
  ⟨performance.result, performance.effects, devices.movedTo performance.console⟩

namespace Dialogue

variable {α : Type}

/-- A dialogue is held up where it meets a fault that does not end the request. -/
def HeldUp (dialogue : Dialogue α) (devices : Devices) : Prop :=
  ∃ kind ∈ dialogue.meets? devices.settled, ¬ devices.Fatal kind

instance (dialogue : Dialogue α) (devices : Devices) : Decidable (dialogue.HeldUp devices) :=
  inferInstanceAs (Decidable (∃ kind ∈ dialogue.meets? devices.settled, ¬ devices.Fatal kind))

theorem not_heldUp_of_fatal {dialogue : Dialogue α} {devices : Devices} {kind : FaultKind}
    (h : dialogue.meets? devices.settled = some kind) (fatal : devices.Fatal kind) :
    ¬ dialogue.HeldUp devices := by
  rintro ⟨met, meets, held⟩
  obtain rfl : kind = met := Option.some.inj (h.symm.trans meets)
  exact held fatal

theorem not_heldUp_of_meets?_eq_none {dialogue : Dialogue α} {devices : Devices}
    (h : dialogue.meets? devices.settled = none) : ¬ dialogue.HeldUp devices := by
  rintro ⟨met, meets, -⟩
  cases h.symm.trans meets

/-- The failure of a reader is met in front of a newline. -/
theorem meets?_listen (next : String → Dialogue α) (devices : Devices) :
    (listen next).meets? devices.settled =
      if isEnded devices.source.line = false ∧ devices.source.failure ≠ none then some .reading
      else
        match devices.settled.source.listen with
        | .error _ => none
        | .ok line => (next line).meets? devices.settled.advance := by
  have fails : devices.settled.source.failure.isSome = devices.source.failure.isSome :=
    Option.isSome_map
  have iff : (!isEnded devices.source.line && devices.source.failure.isSome) = true ↔
      isEnded devices.source.line = false ∧ devices.source.failure ≠ none := by
    simp [Option.isSome_iff_ne_none]
  rw [meets?, fails]
  exact ite_congr (propext iff) (fun _ => rfl) fun _ => rfl

/-- On any devices with so few pieces that the calls are enough, the dialogue is held up or comes to
what its performance comes to. -/
def Settled (calls : Nat) (dialogue : Dialogue α) : Prop :=
  ∀ devices : Devices, devices.source.pieces.length + 2 ≤ calls →
    dialogue.attempt calls devices =
      if dialogue.HeldUp devices then none
      else some ((dialogue.perform devices.settled).on devices)

namespace Settled

variable {calls : Nat} {next : Dialogue α}

/-- What is settled for the rest of a dialogue is settled with an effect in front of it. -/
theorem after {dialogue : Dialogue α} {devices : Devices} {console : Console} {effect : Effect}
    (h : next.Settled calls) (settled : (devices.movedTo console).settled = console)
    (enough : console.source.pieces.length + 2 ≤ calls)
    (meets : dialogue.meets? devices.settled = next.meets? console)
    (perform : dialogue.perform devices.settled = (next.perform console).after effect) :
    (next.attempt calls (devices.movedTo console)).map (.behind [effect]) =
      if dialogue.HeldUp devices then none
      else some ((dialogue.perform devices.settled).on devices) := by
  have held : dialogue.HeldUp devices ↔ next.HeldUp (devices.movedTo console) := by
    rw [HeldUp, HeldUp, meets, settled]
    rfl
  rw [h (devices.movedTo console) enough, settled, perform]
  by_cases interrupted : dialogue.HeldUp devices
  · rw [if_pos interrupted, if_pos (held.mp interrupted)]
    rfl
  · rw [if_neg interrupted, if_neg (mt held.mpr interrupted)]
    rfl

theorem note (entry : Diagnostics.Entry) (h : next.Settled calls) :
    (note entry next).Settled calls := by
  intro devices enough
  show (next.attempt calls (devices.movedTo devices.settled)).map (Attempt.behind [.log entry]) = _
  exact h.after rfl enough rfl rfl

theorem say (text : String) (h : next.Settled calls) : (say text next).Settled calls := by
  intro devices enough
  rw [attempt, Devices.write_eq devices (by omega)]
  cases refusal : devices.settled.refusal? (encode text) with
  | none =>
    rw [if_pos (.inl rfl), Console.acceptedOf_of_refusal?_eq_none refusal]
    exact h.after rfl enough (by simp [meets?, refusal]) (by simp [perform, refusal])
  | some error =>
    have meets : (Dialogue.say text next).meets? devices.settled = some .writing := by
      simp [meets?, refusal]
    simp only [perform, refusal]
    by_cases fatal : devices.Fatal .writing
    · rw [if_pos (.inr fatal), if_neg (not_heldUp_of_fatal meets fatal)]
      rfl
    · rw [if_neg (by simpa using fatal), if_pos ⟨.writing, meets, fatal⟩]
      rfl

/-- No flush holds a dialogue up. -/
theorem flush (h : next.Settled calls) : (flush next).Settled calls := by
  intro devices enough
  rw [attempt, Devices.flush_eq]
  cases failure : devices.settled.flushFailure? with
  | none => exact h.after rfl enough (by simp [meets?, failure]) (by simp [perform, failure])
  | some error =>
    have meets : (Dialogue.flush next).meets? devices.settled = some .flushing := by
      simp [meets?, failure]
    rw [if_neg (not_heldUp_of_fatal meets trivial)]
    simp only [perform, failure]
    rfl

theorem listen {next : String → Dialogue α} (h : ∀ line, (next line).Settled calls) :
    (listen next).Settled calls := by
  intro devices enough
  have meets := meets?_listen next devices
  rw [attempt, Devices.read_eq devices (by omega)]
  split at meets
  -- the reader fails in front of a newline
  · rename_i fails
    obtain ⟨opened, error, failure⟩ := And.imp_right Option.ne_none_iff_exists'.mp fails
    by_cases fatal : devices.Fatal .reading
    · have failure_settled : devices.settled.source.failure = some error := by
        rw [← DeviceError.settled_of_fatal (fatal error failure)]
        exact congrArg (Option.map DeviceError.settled) failure
      have said : devices.settled.source.listen = .error (.device error) :=
        Source.listen_of_opened opened failure_settled
      rw [if_pos (.inr fatal), if_neg (not_heldUp_of_fatal meets fatal)]
      simp only [perform, said]
      rfl
    · rw [if_neg (by simpa [opened] using fatal), if_pos ⟨.reading, meets, fatal⟩]
      rfl
  -- it gives a whole line, or comes to the end
  · rename_i whole
    have heard : isEnded devices.source.line = true ∨ devices.Fatal .reading := by
      rw [or_iff_not_imp_left]
      intro opened error met
      exact absurd ⟨Bool.eq_false_iff.mpr opened, Option.ne_none_iff_exists'.mpr ⟨error, met⟩⟩ whole
    rw [if_pos heard]
    cases said : devices.settled.source.listen with
    | error interruption =>
      rw [said] at meets
      rw [if_neg (not_heldUp_of_meets?_eq_none meets)]
      simp only [perform, said]
      rfl
    | ok line =>
      rw [said] at meets
      have fewer := devices.source.length_pieces_advance_le
      refine (h line).after rfl (Nat.le_trans (Nat.add_le_add_right fewer 2) enough) meets ?_
      simp only [perform, said]
      rfl

end Settled

/-- **With enough calls a dialogue is held up or comes to what its performance comes to.**  Two
calls are enough for any write, and one for each piece and one more for any line. -/
theorem settled (calls : Nat) (dialogue : Dialogue α) : dialogue.Settled calls := by
  induction dialogue with
  | done result =>
    intro devices _
    exact (if_neg (not_heldUp_of_meets?_eq_none rfl)).symm
  | fail interruption =>
    intro devices _
    exact (if_neg (not_heldUp_of_meets?_eq_none rfl)).symm
  | note entry next ih => exact ih.note entry
  | say text next ih => exact ih.say text
  | flush next ih => exact ih.flush
  | listen next ih => exact .listen ih

variable {dialogue : Dialogue α} {devices : Devices}

/-- **Whatever a dialogue comes to is what its performance comes to.** -/
theorem eq_on_of_attempt {calls : Nat} {outcome : Attempt α}
    (h : dialogue.attempt calls devices = some outcome) :
    ¬ dialogue.HeldUp devices ∧ outcome = (dialogue.perform devices.settled).on devices := by
  have enough := Nat.le_max_right calls (devices.source.pieces.length + 2)
  have more := attempt_of_le (Nat.le_max_left calls (devices.source.pieces.length + 2)) h
  rw [dialogue.settled _ devices enough] at more
  split at more
  · cases more
  · rename_i free
    exact ⟨free, (Option.some.inj more).symm⟩

/-- **A dialogue comes to an end exactly if it is not held up.** -/
theorem returns_iff : dialogue.Returns devices ↔ ¬ dialogue.HeldUp devices := by
  constructor
  · rintro ⟨calls, outcome, ended⟩
    exact (eq_on_of_attempt ended).1
  · intro free
    exact ⟨_, _, (dialogue.settled _ devices (Nat.le_refl _)).trans (if_neg free)⟩

end Dialogue

/-! ## Consoles -/

namespace Console

theorem fatal_toDevices (console : Console) (kind : FaultKind) : console.toDevices.Fatal kind := by
  cases kind with
  | writing => exact console.writeFatal
  | flushing => trivial
  | reading => exact console.readFatal

theorem settled_toDevices (console : Console) : console.toDevices.settled = console := by
  have failure : console.source.failure.map .settled = console.source.failure := by
    rw [Option.map_congr fun error met =>
        DeviceError.settled_of_fatal (console.readFatal error met), Option.map_id']
  have fault : (console.writeFault.map fun fault => ⟨fault.point, fault.error.settled⟩) =
      console.writeFault := by
    rw [Option.map_congr fun fault laid => congrArg (Fault.mk fault.point)
        (DeviceError.settled_of_fatal (console.writeFatal fault laid)), Option.map_id']
  apply eq_of_devices
  simp only [Devices.settled, failure, fault]

end Console

/-- **On a console every dialogue comes to what its performance comes to.** -/
theorem Dialogue.attempt_console {α : Type} (dialogue : Dialogue α) (console : Console)
    {calls : Nat} (enough : console.source.pieces.length + 2 ≤ calls) :
    let performance := dialogue.perform console
    dialogue.attempt calls console.toDevices =
      some ⟨performance.result, performance.effects, performance.console.toDevices⟩ := by
  intro performance
  have account := dialogue.perform_accounts console
  have free : ¬ dialogue.HeldUp console.toDevices := by
    rintro ⟨kind, -, held⟩
    exact held (console.fatal_toDevices kind)
  have left : console.toDevices.movedTo performance.console = performance.console.toDevices := by
    rw [Devices.movedTo, ← account.failure, ← account.writeFault]
  rw [dialogue.settled _ _ enough, if_neg free, console.settled_toDevices, Performance.on, left]

/-! ## Devices that are interrupted for ever -/

/-- A failure that ends no read and no write. -/
def DeviceError.signal : DeviceError :=
  ⟨.interrupted, "signal"⟩

/-- Some input from a reader that is interrupted behind so many octets. -/
def Wiring.interruptedReader (input : List UInt8) (point : Nat) : Wiring :=
  ⟨input, [], some ⟨point, .signal⟩, none, none⟩

/-- Some input beside a writer that is interrupted behind so many octets. -/
def Wiring.interruptedWriter (input : List UInt8) (point : Nat) : Wiring :=
  ⟨input, [], none, some ⟨point, .signal⟩, none⟩

/-- A tour whose reader or whose writer is interrupted at once has no result, neither the failure
nor what it has on a console without faults. -/
theorem Tour.not_returns_if_interrupted :
    ¬ Tour.dialogue.Returns (Wiring.interruptedReader (encode "Ada\n20\n") 0).devices ∧
      ¬ Tour.dialogue.Returns (Wiring.interruptedWriter (encode "Ada\n20\n") 0).devices := by
  simp only [Dialogue.returns_iff, not_not]
  decide +kernel

/-- Below the thresholds of a tour, among the octets that it writes and those that it reads, there
is no result either. -/
theorem Tour.not_returns_below_thresholds :
    (5 < (Setup.faultless (encode "Ada\n20\n")).tour.trace.written.length ∧
        ¬ Tour.dialogue.Returns (Wiring.interruptedWriter (encode "Ada\n20\n") 5).devices) ∧
      5 < (Setup.faultless (encode "Ada\n20\n")).tour.trace.consumed ∧
        ¬ Tour.dialogue.Returns (Wiring.interruptedReader (encode "Ada\n20\n") 5).devices := by
  simp only [Dialogue.returns_iff, not_not]
  decide +kernel

/-- A question whose reader is interrupted within the line has no answer. -/
theorem Dialogue.not_returns_ask_within_line :
    ¬ (Dialogue.ask "? ").Returns (Wiring.interruptedReader (encode "Ada\n") 2).devices :=
  mt Dialogue.returns_iff.mp (not_not.mpr (by decide +kernel))

end Walkthrough
