import Mathlib.Data.List.Infix
import Walkthrough.Proofs.Position
import Walkthrough.Proofs.Readers

/-!
# In whatever pieces the input comes

A reader hands out its octets piece by piece, and nobody can tell from a script how they were cut.
Whatever the pieces of a console are, every dialogue has the result and the effects that it has
where all is handed out at once (`Dialogue.perform_of_recut`), also under faults: what is read
depends on what is handed out and not on its cuts, which may go through a character or a terminator.

The reader asks for pieces as long as it needs them (`Supply.collect`): it takes a piece, consumes
it up to and with the newline, and asks for the next where there was none.  This comes to an end,
since each piece brings it further, and what was collected is the first line (`Supply.collect_eq`).
-/

namespace Walkthrough

open Text.Line (first behind isEnded newline)

/-! ## Pieces that are not seen -/

/-- The same source with all that it hands out in one piece. -/
def Source.atOnce (source : Source) : Source :=
  { source with pieces := [source.handedOut] }

theorem Source.handedOut_atOnce (source : Source) :
    source.atOnce.handedOut = source.handedOut := by
  simp [atOnce, handedOut]

/-- A reader does not fail otherwise because some lines were read. -/
theorem Source.failure_iterate_advance (source : Source) (lines : Nat) :
    (advance^[lines] source).failure = source.failure := by
  induction lines with
  | zero => rfl
  | succ lines ih =>
    rw [Function.iterate_succ_apply']
    exact ih

theorem Source.atOnce_atOnce (source : Source) : source.atOnce.atOnce = source.atOnce := by
  show { source.atOnce with pieces := [source.atOnce.handedOut] } = source.atOnce
  rw [handedOut_atOnce]
  rfl

namespace Console

/-- The same console with all that its reader hands out in one piece. -/
def atOnce (console : Console) : Console :=
  { console with source := console.source.atOnce }

/-- Two consoles that differ at most in how what they hand out is cut into pieces. -/
def Recut (a b : Console) : Prop :=
  a.atOnce = b.atOnce

theorem recut_atOnce (console : Console) : console.Recut console.atOnce := by
  apply eq_of_devices
  show { console.toDevices with source := console.source.atOnce } =
    { console.toDevices with source := console.source.atOnce.atOnce }
  rw [Source.atOnce_atOnce]

/-- Such consoles differ in their readers alone, and these in their pieces. -/
theorem recut_iff {a b : Console} :
    a.Recut b ↔ a.SameWriter b ∧ a.source.atOnce = b.source.atOnce := by
  constructor
  · intro recut
    have devices : a.atOnce.toDevices = b.atOnce.toDevices := congrArg toDevices recut
    refine ⟨⟨eq_of_devices ?_⟩, congrArg Devices.source devices⟩
    exact congrArg (fun devices => { devices with source := b.source }) devices
  · rintro ⟨⟨elsewhere⟩, reader⟩
    apply eq_of_devices
    show { a.toDevices with source := a.source.atOnce } = b.atOnce.toDevices
    rw [reader]
    exact congrArg (fun console => { console.toDevices with source := b.source.atOnce }) elsewhere

end Console

section AtOnce

variable {s t : Source} (h : s.atOnce = t.atOnce)

include h

theorem Source.handedOut_eq_of_atOnce : s.handedOut = t.handedOut := by
  have same := congrArg handedOut h
  rwa [handedOut_atOnce, handedOut_atOnce] at same

theorem Source.unread_eq_of_atOnce : s.unread = t.unread := by
  have withheld : s.withheld = t.withheld := (congrArg Source.withheld h :)
  show s.handedOut ++ s.withheld = t.handedOut ++ t.withheld
  rw [handedOut_eq_of_atOnce h, withheld]

/-- The next line is the same, and so is everything behind it. -/
theorem Source.read_eq_of_atOnce :
    s.line = t.line ∧ s.listen = t.listen ∧ s.advance.atOnce = t.advance.atOnce := by
  have handedOut : s.pieces.flatten = t.pieces.flatten := handedOut_eq_of_atOnce h
  have failure : s.failure = t.failure := (congrArg Source.failure h :)
  have line : s.line = t.line := by rw [line_eq_first, line_eq_first, handedOut]
  refine ⟨line, by rw [listen, listen, failure, line], ?_⟩
  have left : s.advance.handedOut = t.advance.handedOut := by
    rw [Source.handedOut, Source.handedOut, flatten_advance, flatten_advance, handedOut]
  rw [atOnce, left]
  exact congrArg (fun source => { source with pieces := [t.advance.handedOut] }) h

end AtOnce

/-- Two performances that show the same and leave consoles that differ at most in their pieces. -/
structure Performance.Recut {α : Type} (p q : Performance α) : Prop where
  result : p.result = q.result
  effects : p.effects = q.effects
  console : p.console.Recut q.console

theorem Dialogue.respects_atOnce {α : Type} :
    Respects fun (_ : Dialogue α) s t => s.atOnce = t.atOnce where
  note := id
  say := id
  flush := id
  line h := ⟨(Source.read_eq_of_atOnce h).1, (Source.read_eq_of_atOnce h).2.1⟩
  advance h _ := (Source.read_eq_of_atOnce h).2.2

/-- **No dialogue can tell in what pieces its input comes**, whichever devices fail. -/
theorem Dialogue.perform_of_recut {α : Type} (dialogue : Dialogue α) {a b : Console}
    (h : a.Recut b) : (dialogue.perform a).Recut (dialogue.perform b) := by
  obtain ⟨writer, reader⟩ := Console.recut_iff.mp h
  have shown := perform_of_respects respects_atOnce dialogue writer reader
  obtain ⟨-, left⟩ := shown.reader
  exact ⟨shown.result, shown.effects, Console.recut_iff.mpr ⟨shown.writer, left⟩⟩

/-! ## Collecting a line piece by piece -/

/-- How many octets a reader hands out at each call, as long as it has any. -/
structure Schedule where
  size : Nat → Nat
  positive : ∀ call, 0 < size call

/-- One octet at each call. -/
def Schedule.single : Schedule :=
  ⟨fun _ => 1, fun _ => Nat.one_pos⟩

/-- The octets that a reader has still to hand out, and how often it was asked before. -/
structure Supply where
  octets : List UInt8
  calls : Nat

namespace Supply

variable (schedule : Schedule) (supply : Supply)

/-- The next piece. -/
def piece : List UInt8 :=
  supply.octets.take (schedule.size supply.calls)

/-- What the next piece gives to the line: all of it, or its front up to and with the newline. -/
def taken : List UInt8 :=
  (Text.Line.split (supply.piece schedule)).1

/-- The supply behind what was taken; the next piece begins there. -/
def consume : Supply :=
  ⟨supply.octets.drop (supply.taken schedule).length, supply.calls + 1⟩

theorem taken_eq : supply.taken schedule = first (supply.piece schedule) := by
  rw [taken, Text.Line.split_eq]

/-- What is taken from a piece and what is left of the supply are the supply. -/
theorem taken_append_octets_consume :
    supply.taken schedule ++ (supply.consume schedule).octets = supply.octets := by
  apply List.prefix_iff_eq_append.mp
  rw [taken_eq]
  exact List.IsPrefix.trans ⟨_, Text.Line.first_append_behind _⟩ (List.take_prefix _ _)

/-- Every piece that is not empty brings the reader further. -/
theorem length_octets_consume_lt (h : supply.taken schedule ≠ []) :
    (supply.consume schedule).octets.length < supply.octets.length := by
  have whole := congrArg List.length (supply.taken_append_octets_consume schedule)
  have some := List.length_pos_of_ne_nil h
  rw [List.length_append] at whole
  omega

/-- Collect a line: take pieces until one has the newline, or there is none any more. -/
def collect (supply : Supply) : List UInt8 × Supply :=
  if supply.taken schedule = [] ∨ isEnded (supply.taken schedule) = true then
    (supply.taken schedule, supply.consume schedule)
  else
    let more := (supply.consume schedule).collect
    (supply.taken schedule ++ more.1, more.2)
termination_by supply.octets.length
decreasing_by
  rename_i goesOn
  exact supply.length_octets_consume_lt schedule (not_or.mp goesOn).1

/-- The pieces of which a supply is used up line by line. -/
def pieces (supply : Supply) : List (List UInt8) :=
  if supply.taken schedule = [] then []
  else supply.taken schedule :: (supply.consume schedule).pieces
termination_by supply.octets.length
decreasing_by
  rename_i something
  exact supply.length_octets_consume_lt schedule something

variable {supply}

/-- A schedule gives something as long as there is something. -/
theorem octets_eq_nil_of_taken (h : supply.taken schedule = []) : supply.octets = [] := by
  rw [taken_eq] at h
  have nothing : supply.piece schedule = [] := Text.Line.eq_nil_of_first_eq_nil h
  rcases List.take_eq_nil_iff.mp nothing with zero | empty
  · exact absurd zero (Nat.ne_of_gt (schedule.positive _))
  · exact empty

/-- A piece without a newline is taken as it is, and the line goes on behind it. -/
theorem first_octets_of_opened (h : isEnded (supply.taken schedule) = false) :
    first supply.octets = supply.taken schedule ++ first (supply.consume schedule).octets ∧
      behind supply.octets = behind (supply.consume schedule).octets := by
  have whole := supply.taken_append_octets_consume schedule
  rw [taken_eq] at h
  have all : first (supply.taken schedule) = supply.taken schedule := by
    rw [taken_eq, Text.Line.first_of_not_isEnded h, Text.Line.first_of_not_isEnded h]
  have opened : isEnded (first (supply.taken schedule)) = false := by
    rw [all, taken_eq]
    exact h
  have goesOn := Text.Line.first_append_of_not_isEnded opened (supply.consume schedule).octets
  rwa [whole, all] at goesOn

/-- A piece with a newline ends the line. -/
theorem first_octets_of_ended (h : isEnded (supply.taken schedule) = true) :
    first supply.octets = supply.taken schedule ∧
      behind supply.octets = (supply.consume schedule).octets := by
  have whole := supply.taken_append_octets_consume schedule
  rw [taken_eq] at h
  have line : first supply.octets = supply.taken schedule := by
    rw [taken_eq, ← (Text.Line.first_append_of_isEnded h
      (supply.octets.drop (schedule.size supply.calls))).1, piece, List.take_append_drop]
  refine ⟨line, ?_⟩
  have split := Text.Line.first_append_behind supply.octets
  rw [line] at split
  exact List.append_cancel_left (split.trans whole.symm)

/-- **What is collected piece by piece is the first line**, by whatever schedule the pieces come,
and what is left is what lies behind it. -/
theorem collect_eq (supply : Supply) :
    (supply.collect schedule).1 = first supply.octets ∧
      (supply.collect schedule).2.octets = behind supply.octets := by
  fun_induction collect schedule supply with
  | case1 supply h =>
    rcases h with none | ended
    · have whole := supply.taken_append_octets_consume schedule
      have empty := octets_eq_nil_of_taken schedule none
      rw [none, empty, List.nil_append] at whole
      rw [none, whole, empty]
      exact ⟨rfl, rfl⟩
    · obtain ⟨line, left⟩ := first_octets_of_ended schedule ended
      exact ⟨line.symm, left.symm⟩
  | case2 supply h more ih =>
    obtain ⟨-, opened⟩ := not_or.mp h
    obtain ⟨line, left⟩ := first_octets_of_opened schedule (Bool.eq_false_iff.mpr opened)
    rw [line, left, ih.1, ih.2]
    exact ⟨rfl, rfl⟩

theorem flatten_pieces (supply : Supply) : (supply.pieces schedule).flatten = supply.octets := by
  fun_induction pieces schedule supply with
  | case1 supply h => exact (octets_eq_nil_of_taken schedule h).symm
  | case2 supply h ih =>
    rw [List.flatten_cons, ih, taken_append_octets_consume]

/-- The supply behind a line. -/
def next (supply : Supply) : Supply :=
  (supply.collect schedule).2

/-- Line by line a source gives what is collected from its octets. -/
theorem line_iterate_advance (source : Source) (lines : Nat) :
    (Source.advance^[lines] source).line =
        (((next schedule)^[lines] ⟨source.handedOut, 0⟩).collect schedule).1 ∧
      (Source.advance^[lines] source).handedOut =
        ((next schedule)^[lines] ⟨source.handedOut, 0⟩).octets := by
  suffices handed : (Source.advance^[lines] source).handedOut =
      ((next schedule)^[lines] ⟨source.handedOut, 0⟩).octets by
    refine ⟨?_, handed⟩
    rw [(collect_eq schedule _).1, ← handed, Source.line_eq_first]
    rfl
  induction lines with
  | zero => rfl
  | succ lines ih =>
    rw [Function.iterate_succ_apply', Function.iterate_succ_apply', next, (collect_eq schedule _).2,
      ← ih]
    exact Source.flatten_advance _

end Supply

/-! ## Scripts -/

/-- The console of a setup whose reader hands out its octets by a schedule.  Where a piece was not
consumed to its end, the next one begins there. -/
def Setup.suppliedBy (setup : Setup) (schedule : Schedule) : Console :=
  let supply : Supply := ⟨setup.handedOut, 0⟩
  { setup.console with
    source := { setup.console.source with pieces := supply.pieces schedule } }

theorem Setup.recut_suppliedBy (setup : Setup) (schedule : Schedule) :
    (setup.suppliedBy schedule).Recut setup.console := by
  have handed : (setup.suppliedBy schedule).source.handedOut = setup.console.source.handedOut := by
    rw [Setup.handedOut_console]
    exact Supply.flatten_pieces schedule _
  simp only [Console.Recut, Console.atOnce, Source.atOnce, handed]
  rfl

namespace Script

/-- What is seen of the steps of a script: the outcome of each, and how much it has left unread. -/
def answers (steps : List Step) (console : Console) :
    List ((Except Interruption Reply × Trace) × Nat) :=
  (run steps console).map fun performance => (performance.outcome, performance.unread)

theorem answers_of_recut {a b : Console} (h : a.Recut b) (steps : List Step) :
    answers steps a = answers steps b := by
  induction steps generalizing a b with
  | nil => rfl
  | cons step steps ih =>
    have recut := step.dialogue.perform_of_recut h
    have outcome : (step.dialogue.perform a).outcome = (step.dialogue.perform b).outcome := by
      rw [Performance.outcome, Performance.outcome, Performance.trace, Performance.trace,
        recut.result, recut.effects]
    have unread : (step.dialogue.perform a).unread = (step.dialogue.perform b).unread :=
      congrArg List.length
        (Source.unread_eq_of_atOnce (Console.recut_iff.mp recut.console).2)
    simp only [answers, run, List.map_cons, outcome, unread, List.cons.injEq, true_and]
    exact ih recut.console

/-- **Nobody can tell in what pieces the input came.**  A script has the same results, the same
traces and as much left unread as where everything is handed out at once, whichever faults are laid
on its devices: when the input was cut beforehand into pieces of the sizes of the setup, and when
each piece is cut by a schedule where the one before was consumed.  In the latter case each line
that is read is the one that is collected piece by piece, and it is taken for text as a whole. -/
theorem answers_suppliedBy (setup : Setup) (schedule : Schedule) (steps : List Step)
    (lines : Nat) :
    let whole := answers steps setup.console.atOnce
    let source := Source.advance^[lines] (setup.suppliedBy schedule).source
    let supply := (Supply.next schedule)^[lines] ⟨setup.handedOut, 0⟩
    answers steps setup.console = whole ∧
      answers steps (setup.suppliedBy schedule) = whole ∧
      source.line = (supply.collect schedule).1 ∧
      source.listen = Source.answer setup.console.source.failure (supply.collect schedule).1 ∧
      source.handedOut = supply.octets := by
  intro whole source supply
  have cut : setup.console.Recut setup.console.atOnce := setup.console.recut_atOnce
  have supplied : (setup.suppliedBy schedule).Recut setup.console.atOnce :=
    (setup.recut_suppliedBy schedule).trans cut
  refine ⟨answers_of_recut cut steps, answers_of_recut supplied steps, ?_⟩
  have handed : (setup.suppliedBy schedule).source.handedOut = setup.handedOut :=
    Supply.flatten_pieces schedule _
  obtain ⟨line, left⟩ :=
    Supply.line_iterate_advance schedule (setup.suppliedBy schedule).source lines
  rw [handed] at line left
  have failure : source.failure = setup.console.source.failure :=
    Source.failure_iterate_advance (setup.suppliedBy schedule).source lines
  refine ⟨line, ?_, left⟩
  rw [Source.listen, failure, line]

/-- Octet by octet a name is read through a character of two octets and through its terminator, and
the reader fails in the line behind it. -/
theorem answers_suppliedBy_single :
    let setup : Setup := {
      toWiring := ⟨Text.Utf8.encode "Zoë\r\n20\n", [], some ⟨8, ⟨.timedOut, "late"⟩⟩, none, none⟩
      readFatal := by decide
      writeFatal := by decide }
    (answers [.question "? ", .tour] (setup.suppliedBy .single)).map (fun answer => answer.1.1) =
      [.ok (.line "Zoë"), .error (.device ⟨.timedOut, "late"⟩)] := by
  intro setup
  obtain ⟨-, same, -⟩ := answers_suppliedBy setup .single [.question "? ", .tour] 0
  rw [same]
  decide +kernel

end Script

end Walkthrough
