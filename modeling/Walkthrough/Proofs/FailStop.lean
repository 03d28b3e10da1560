import Walkthrough.Proofs.Faultless
import Walkthrough.Proofs.Joining
import Walkthrough.Tour

/-!
# A failure ends everything

A dialogue on a console with faults does what it does on the same console without them, up to the
effect in which a device fails, and nothing afterwards.  The two performances go side by side as
long as no fault is met (`Mirrors`); where one is met, the trace is cut short in that very effect
(`Trace.CutShort`) and the result is the error of the fault.  This holds of every dialogue
(`perform_failStop`), so also of the tour (`perform_dialogue_eq_or_cutShort`).  The failures of the
reader and the writer are fatal here, as they are on every console; one that interrupts its device
would hold the dialogue up instead of ending it.
-/

namespace Walkthrough

/-- The three ways in which a device may be set to fail. -/
inductive FaultKind where
  | reading
  | writing
  | flushing
deriving DecidableEq

/-- The fault of some kind that a setup lays on its devices. -/
def Setup.faultOf (setup : Setup) : FaultKind → Option Fault
  | .reading => setup.readFault
  | .writing => setup.writeFault
  | .flushing => setup.flushFault

/-- The error that a console may still meet in some way. -/
def Console.errorOf (console : Console) : FaultKind → Option DeviceError
  | .reading => console.source.failure
  | .writing => console.writeFault.map Fault.error
  | .flushing => console.flushFault.map Fault.error

namespace Trace

/-! ## Traces that are cut short -/

/-- What is left of an effect when a device fails in it: a writer has accepted fewer octets than it
was given, perhaps none; a flush that fails is an effect all the same; a reader may have given only
the front of a line. -/
inductive Remnant : FaultKind → Effect → Trace → Prop where
  | writing {octets : List UInt8} {count : Nat} (h : count < octets.length) :
      Remnant .writing (.out octets) (merge [.out (octets.take count)])
  | flushing : Remnant .flushing .flush [.flush]
  | reading {count whole : Nat} (h : count ≤ whole) : Remnant .reading (.read whole) [.read count]

/-- The first trace is the second one up to some effect, and then what is left of that effect. -/
inductive CutShort (kind : FaultKind) : Trace → Trace → Prop where
  | here {effect : Effect} {remnant : Trace} (h : Remnant kind effect remnant) (rest : Trace) :
      CutShort kind remnant (effect :: rest)
  | later (effect : Effect) {part whole : Trace} (h : CutShort kind part whole) :
      CutShort kind (effect :: part) (effect :: whole)

/-- Nothing is written, reported, read or flushed that is not in the second trace. -/
structure Within (part whole : Trace) : Prop where
  written : part.written <+: whole.written
  entries : part.entries <+: whole.entries
  consumed : part.consumed ≤ whole.consumed
  flushes : part.count .flush ≤ whole.count .flush

theorem Within.rfl {trace : Trace} : trace.Within trace :=
  ⟨List.prefix_rfl, List.prefix_rfl, Nat.le_refl _, Nat.le_refl _⟩

theorem Within.cons {part whole : Trace} (h : part.Within whole) (effect : Effect) :
    Within (effect :: part) (effect :: whole) where
  written := (List.prefix_append_right_inj _).mpr h.written
  entries := by
    simp only [Trace.entries, List.filterMap_cons]
    cases effect.entry? with
    | none => exact h.entries
    | some entry => exact List.cons_prefix_cons.mpr ⟨Eq.refl entry, h.entries⟩
  consumed := by simpa using h.consumed
  flushes := by
    have := h.flushes
    simp only [List.count_cons]
    omega

theorem Remnant.within {kind : FaultKind} {effect : Effect} {remnant : Trace}
    (h : Remnant kind effect remnant) (rest : Trace) : remnant.Within (effect :: rest) := by
  cases h with
  | @writing octets count h =>
    refine ⟨?_, ?_, ?_, ?_⟩
    · rw [written_merge]
      simpa [Effect.written] using (List.take_prefix count octets).trans (List.prefix_append _ _)
    · rw [entries_merge]
      exact List.nil_prefix
    · rw [consumed_merge]
      exact Nat.zero_le _
    · rcases octets.take count with _ | ⟨octet, taken⟩ <;> simp [merge, push]
  | flushing => exact ⟨List.nil_prefix, List.nil_prefix, Nat.zero_le _, by simp⟩
  | reading h => exact ⟨List.nil_prefix, List.nil_prefix, by simp [Effect.consumed]; omega, by simp⟩

/-- **A trace that is cut short shows nothing that the whole does not.** -/
theorem CutShort.within {kind : FaultKind} {part whole : Trace} (h : CutShort kind part whole) :
    part.Within whole := by
  induction h with
  | here h rest => exact h.within rest
  | later effect _ ih => exact ih.cons effect

/-- The same effect in front of both leaves a trace cut short, also where it joins the effect that
was cut. -/
theorem CutShort.push {kind : FaultKind} {part whole : Trace} (h : CutShort kind part whole)
    (effect : Effect) : CutShort kind (push effect part) (push effect whole) := by
  cases effect with
  | flush => exact h.later _
  | read count => exact h.later _
  | log entry => exact h.later _
  | out octets =>
    rcases octets with _ | ⟨octet, octets⟩
    · exact h
    · cases h with
      | here remnant rest =>
        cases remnant with
        | @writing more count short =>
          -- the write in front and the write that was cut are one
          change CutShort .writing (merge [.out (octet :: octets), .out (more.take count)])
            (.out ((octet :: octets) ++ more) :: rest)
          rw [merge_out_out, ← List.take_length_add_append]
          exact .here (.writing (by rw [List.length_append]; omega)) rest
        | flushing => exact .later _ (.here .flushing rest)
        | reading short => exact .later _ (.here (.reading short) rest)
      | later next h =>
        -- the cut lies further on, so whether the two writes join makes no difference to it
        cases next with
        | out more => exact h.later _
        | flush => exact (h.later _).later _
        | read count => exact (h.later _).later _
        | log entry => exact (h.later _).later _

/-- A write that is cut short, whether or not further writes join the whole of it. -/
theorem cutShort_push_out {octets : List UInt8} {count : Nat} (h : count < octets.length)
    (rest : Trace) :
    CutShort .writing (merge [.out (octets.take count)]) (Trace.push (.out octets) rest) := by
  rcases octets with _ | ⟨octet, octets⟩
  · exact absurd h (Nat.not_lt_zero _)
  · cases rest with
    | nil => exact .here (.writing h) []
    | cons effect rest =>
      cases effect with
      | out more =>
        have taken : (octet :: octets).take count = (octet :: octets ++ more).take count :=
          (List.take_append_of_le_length (Nat.le_of_lt h)).symm
        rw [taken]
        exact .here (.writing (by rw [List.length_append]; omega)) rest
      | flush => exact .here (.writing h) _
      | read count => exact .here (.writing h) _
      | log entry => exact .here (.writing h) _

end Trace

/-- A reader that fails in front of a newline says nothing but its failure. -/
theorem Source.listen_of_opened {source : Source} {error : DeviceError}
    (opened : Text.Line.isEnded source.line = false) (failure : source.failure = some error) :
    source.listen = .error (.device error) := by
  simp [Source.listen, Source.answer, opened, failure]

/-! ## Two consoles side by side -/

namespace Console

/-- A console without a fault beside one with faults, both with the same octets left to read. -/
structure Mirrors (free faulty : Console) : Prop where
  faultless : free.Faultless
  unread : free.source.unread = faulty.source.unread
  exhausted : faulty.source.failure = none → faulty.source.withheld = []

namespace Mirrors

variable {free faulty : Console}

theorem write (h : free.Mirrors faulty) (a b : List UInt8) :
    (free.write a).Mirrors (faulty.write b) :=
  ⟨h.faultless.write a, h.unread, h.exhausted⟩

theorem flush (h : free.Mirrors faulty) : free.flush.Mirrors faulty.flush :=
  ⟨h.faultless.flush, h.unread, h.exhausted⟩

/-- A line that is read to its end, or to the end of the input, is the same on both consoles. -/
theorem advance_of_whole (h : free.Mirrors faulty)
    (whole : Text.Line.isEnded faulty.source.line = true ∨ faulty.source.failure = none) :
    free.source.line = faulty.source.line ∧ free.advance.Mirrors faulty.advance := by
  rw [h.faultless.line_eq_first, line_eq, h.unread, Source.unread]
  rcases whole with ended | endless
  -- a newline was handed out, and what is withheld lies behind it
  · rw [line_eq] at ended
    obtain ⟨same, left⟩ := Text.Line.first_append_of_isEnded ended faulty.source.withheld
    refine ⟨same, h.faultless.advance, ?_, h.exhausted⟩
    rw [h.faultless.unread_advance_eq_behind, unread_advance, h.unread]
    exact left
  -- nothing is withheld, so the line is all there is on either console
  · rw [h.exhausted endless, List.append_nil]
    refine ⟨rfl, h.faultless.advance, ?_, h.exhausted⟩
    rw [h.faultless.unread_advance_eq_behind, unread_advance, h.unread, Source.unread,
      h.exhausted endless, List.append_nil, List.append_nil]

/-- Where a reader fails within a line, it has given no more than the front of it. -/
theorem length_line_le (h : free.Mirrors faulty)
    (opened : Text.Line.isEnded faulty.source.line = false) :
    faulty.source.line.length ≤ free.source.line.length := by
  rw [line_eq] at opened
  obtain ⟨front, -⟩ := Text.Line.first_append_of_not_isEnded opened faulty.source.withheld
  rw [h.faultless.line_eq_first, line_eq, h.unread, Source.unread, front, List.length_append]
  omega

/-- Such a line says the same on both. -/
theorem listen_of_whole (h : free.Mirrors faulty)
    (whole : Text.Line.isEnded faulty.source.line = true ∨ faulty.source.failure = none) :
    faulty.source.listen = free.source.listen := by
  rw [Source.listen, Source.listen, h.faultless.reader, (h.advance_of_whole whole).1]
  rcases whole with ended | endless
  · simp [Source.answer, ended]
  · rw [endless]

/-- **Reading side by side**: both read the same line, or the reader with the fault fails in it. -/
theorem listen (h : free.Mirrors faulty) :
    (faulty.source.listen = free.source.listen ∧ faulty.source.line = free.source.line ∧
        free.advance.Mirrors faulty.advance) ∨
      ∃ error, faulty.source.failure = some error ∧
        faulty.source.listen = .error (.device error) ∧
        faulty.source.line.length ≤ free.source.line.length := by
  by_cases whole : Text.Line.isEnded faulty.source.line = true ∨ faulty.source.failure = none
  · obtain ⟨same, mirrors⟩ := h.advance_of_whole whole
    exact .inl ⟨h.listen_of_whole whole, same.symm, mirrors⟩
  · rw [not_or, Bool.not_eq_true] at whole
    obtain ⟨opened, fails⟩ := whole
    obtain ⟨error, failure⟩ := Option.ne_none_iff_exists'.mp fails
    exact .inr ⟨error, failure, Source.listen_of_opened opened failure, h.length_line_le opened⟩

end Mirrors

theorem errorOf_write (console : Console) (octets : List UInt8) :
    (console.write octets).errorOf = console.errorOf := by
  funext kind
  cases kind <;> rfl

theorem errorOf_flush (console : Console) : console.flush.errorOf = console.errorOf := by
  funext kind
  cases kind <;> rfl

theorem errorOf_advance (console : Console) : console.advance.errorOf = console.errorOf := by
  funext kind
  cases kind <;> rfl

/-- A writer that refuses fails with the error of its fault, within the octets it is given. -/
theorem exists_count_of_refusal? {console : Console} {octets : List UInt8} {error : DeviceError}
    (h : console.refusal? octets = some error) :
    console.errorOf .writing = some error ∧
      ∃ count, count < octets.length ∧ console.acceptedOf octets = octets.take count := by
  obtain ⟨fault, laid, rfl, short⟩ := refusal?_eq_some_iff.mp h
  refine ⟨?_, fault.point - console.accepted, short, ?_⟩
  · rw [errorOf, laid]
    rfl
  · rw [acceptedOf, laid]

/-- A flush fails exactly if it is the one of the number of the fault. -/
theorem flushFailure?_eq_some_iff {console : Console} {error : DeviceError} :
    console.flushFailure? = some error ↔ ∃ fault, console.flushFault = some fault ∧
      fault.error = error ∧ fault.point = console.flushes + 1 := by
  unfold flushFailure?
  cases console.flushFault with
  | none => simp
  | some fault =>
    by_cases due : fault.point = console.flushes + 1
    · simp [due]
    · simp [due]

theorem errorOf_of_flushFailure? {console : Console} {error : DeviceError}
    (h : console.flushFailure? = some error) : console.errorOf .flushing = some error := by
  obtain ⟨fault, laid, same, -⟩ := flushFailure?_eq_some_iff.mp h
  exact Option.map_eq_some_iff.mpr ⟨fault, laid, same⟩

end Console

/-! ## Two performances side by side -/

namespace Performance

variable {α : Type}

/-- The first performance has met a fault in an effect of the second and has ended there. -/
def FailsIn (console : Console) (part whole : Performance α) : Prop :=
  ∃ kind error, console.errorOf kind = some error ∧ part.result = .error (.device error) ∧
    Trace.CutShort kind part.trace whole.trace

/-- The first performance is the second, and leaves a console that mirrors the other. -/
structure Matches (part whole : Performance α) : Prop where
  result : part.result = whole.result
  trace : part.trace = whole.trace
  console : whole.console.Mirrors part.console

theorem FailsIn.after {console : Console} {part whole : Performance α}
    (h : FailsIn console part whole) (effect : Effect) :
    FailsIn console (part.after effect) (whole.after effect) := by
  obtain ⟨kind, error, hkind, result, cut⟩ := h
  exact ⟨kind, error, hkind, result, cut.push effect⟩

theorem Matches.after {part whole : Performance α} (h : part.Matches whole) (effect : Effect) :
    (part.after effect).Matches (whole.after effect) :=
  ⟨h.result, congrArg (Trace.push effect) h.trace, h.console⟩

/-- What is true of the rest of two performances is true of them with the same effect in front. -/
theorem matches_or_failsIn_after {console later : Console} {part whole : Performance α}
    (same : later.errorOf = console.errorOf)
    (h : part.Matches whole ∨ FailsIn later part whole) (effect : Effect) :
    (part.after effect).Matches (whole.after effect) ∨
      FailsIn console (part.after effect) (whole.after effect) := by
  rcases h with agree | fails
  · exact .inl (agree.after effect)
  · have moved : FailsIn console part whole := by
      unfold FailsIn at fails ⊢
      rwa [same] at fails
    exact .inr (moved.after effect)

end Performance

namespace Dialogue

variable {α : Type}

/-- **Every dialogue stops where a fault is met**: beside the same dialogue on a console without a
fault it goes all the way with it, or ends with the error of a fault in an effect of the other. -/
theorem perform_failStop (dialogue : Dialogue α) {free faulty : Console}
    (h : free.Mirrors faulty) :
    (dialogue.perform faulty).Matches (dialogue.perform free) ∨
      Performance.FailsIn faulty (dialogue.perform faulty) (dialogue.perform free) := by
  -- on the requests of the dialogue; only one that asks a device for something can meet a fault
  induction dialogue generalizing free faulty with
  | done result => exact .inl ⟨rfl, rfl, h⟩
  | fail interruption => exact .inl ⟨rfl, rfl, h⟩
  | note entry next ih => exact Performance.matches_or_failsIn_after rfl (ih h) _
  | say text next ih =>
    simp only [perform, h.faultless.refusal?_eq_none]
    cases refused : faulty.refusal? (Text.Utf8.encode text) with
    | none =>
      exact Performance.matches_or_failsIn_after (Console.errorOf_write _ _) (ih (h.write _ _)) _
    | some error =>
      obtain ⟨fault, count, short, taken⟩ := Console.exists_count_of_refusal? refused
      refine .inr ⟨.writing, error, fault, rfl, ?_⟩
      simp only [taken]
      exact Trace.cutShort_push_out short _
  | flush next ih =>
    simp only [perform, h.faultless.flushFailure?_eq_none]
    cases failed : faulty.flushFailure? with
    | none =>
      exact Performance.matches_or_failsIn_after (Console.errorOf_flush _) (ih h.flush) _
    | some error =>
      exact .inr ⟨.flushing, error, Console.errorOf_of_flushFailure? failed, rfl,
        .here .flushing _⟩
  | listen next ih =>
    simp only [perform]
    rcases h.listen with ⟨said, line, mirrors⟩ | ⟨error, failure, said, short⟩
    · rw [said, line]
      cases free.source.listen with
      | error interruption => exact .inl ⟨rfl, rfl, mirrors⟩
      | ok answer =>
        exact Performance.matches_or_failsIn_after (Console.errorOf_advance _) (ih answer mirrors) _
    · rw [said]
      refine .inr ⟨.reading, error, failure, rfl, ?_⟩
      cases free.source.listen with
      | error interruption => exact .here (.reading short) _
      | ok answer => exact .here (.reading short) _

end Dialogue

theorem Setup.mirrors (setup : Setup) : setup.withoutFaults.console.Mirrors setup.console where
  faultless := Console.faultless_withoutFaults setup
  unread := by
    rw [Console.unread_withoutFaults]
    exact (Source.unread_ofOctets _ _ _).symm
  exhausted := by
    intro endless
    simp only [Setup.source_console, Source.ofOctets] at endless ⊢
    split at endless
    · rfl
    · split at endless
      · cases endless
      · simp [*]

theorem Setup.exists_fault_of_errorOf {setup : Setup} {kind : FaultKind} {error : DeviceError}
    (h : setup.console.errorOf kind = some error) :
    ∃ fault, setup.faultOf kind = some fault ∧ fault.error = error := by
  cases kind with
  | reading =>
    simp only [Console.errorOf, Setup.source_console, Source.ofOctets] at h
    cases fault : setup.readFault with
    | none => rw [fault] at h; cases h
    | some f =>
      rw [fault] at h
      simp only at h
      split at h
      · exact ⟨f, fault, Option.some.inj h⟩
      · cases h
  | writing => exact Option.map_eq_some_iff.mp h
  | flushing => exact Option.map_eq_some_iff.mp h

/-- The tour on a console that is set up in some way. -/
def Setup.tour (setup : Setup) : Performance Unit :=
  Tour.dialogue.perform setup.console

/-- **A tour stops where a fault is met.**  Under any faults, of which that of a flush alone may be
an interruption, it comes to exactly what it comes to without them, or its result is the error of
one of the faults and its trace is cut short in the effect in which that fault was met.  Either way
it shows nothing that it does not show without faults. -/
theorem Tour.perform_dialogue_eq_or_cutShort (setup : Setup) :
    ((setup.tour.result = setup.withoutFaults.tour.result ∧
          setup.tour.trace = setup.withoutFaults.tour.trace ∧
          setup.tour.unread = setup.withoutFaults.tour.unread) ∨
        ∃ kind fault, setup.faultOf kind = some fault ∧
          setup.tour.result = .error (.device fault.error) ∧
          Trace.CutShort kind setup.tour.trace setup.withoutFaults.tour.trace) ∧
      setup.tour.trace.Within setup.withoutFaults.tour.trace := by
  rcases Tour.dialogue.perform_failStop setup.mirrors with agree | ⟨kind, error, h, result, cut⟩
  · have unread : setup.tour.unread = setup.withoutFaults.tour.unread :=
      congrArg List.length agree.console.unread.symm
    refine ⟨.inl ⟨agree.result, agree.trace, unread⟩, ?_⟩
    rw [show setup.tour.trace = setup.withoutFaults.tour.trace from agree.trace]
    exact .rfl
  · obtain ⟨fault, laid, rfl⟩ := Setup.exists_fault_of_errorOf h
    exact ⟨.inr ⟨kind, fault, laid, result, cut⟩, cut.within⟩

end Walkthrough
