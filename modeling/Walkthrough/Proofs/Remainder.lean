import Walkthrough.Proofs.Position
import Walkthrough.Proofs.Readers

/-!
# What lies behind the lines that are read

Nobody is asked for more than is wanted: a dialogue that listens a number of times learns nothing of
what lies behind as many lines of the input, not even whether anything does or whether the reader
could go on there.  Two sources from which the same lines come first may differ in the rest
(`Source.SharesLines`); no dialogue that asks for these lines at most can tell them apart
(`Dialogue.respects_sharesLines`), so a tour cannot where both its lines have a newline
(`Tour.perform_dialogue_of_two_lines`).
-/

namespace Walkthrough

open Text.Line (newline first behind)

/-! ## Lines that have their newline -/

/-- Octets that consist of that many lines, each with its newline. -/
def Text.Line.EndedLines : Nat → List UInt8 → Prop
  | 0, octets => octets = []
  | count + 1, octets => ∃ content later, newline ∉ content ∧
      octets = content ++ newline :: later ∧ EndedLines count later

/-- Octets that end with a newline consist of as many ended lines as they have newlines. -/
theorem Text.Line.endedLines_of_count {count : Nat} {octets : List UInt8}
    (lines : octets.count newline = count)
    (ended : octets = [] ∨ octets.getLast? = some newline) : EndedLines count octets := by
  induction count generalizing octets with
  | zero =>
    have notMem : newline ∉ octets := List.count_eq_zero.mp lines
    rcases ended with empty | last
    · exact empty
    · exact absurd (List.mem_of_getLast? last) notMem
  | succ count ih =>
    have mem : newline ∈ octets := List.count_pos_iff.mp (by omega)
    obtain ⟨content, later, whole, notMem⟩ := List.eq_append_cons_of_mem mem
    refine ⟨content, later, notMem, whole, ih ?_ ?_⟩
    · rw [whole, List.count_append, List.count_eq_zero.mpr notMem, List.count_cons_self] at lines
      omega
    · rcases later with _ | ⟨octet, later⟩
      · exact .inl rfl
      · rw [whole] at ended
        exact .inr (by simpa [List.getLast?_append] using ended)

namespace Source

/-- The source hands out the front, and the rest lies behind it, handed out or not. -/
structure Begins (source : Source) (front rest : List UInt8) : Prop where
  handedOut : front <+: source.handedOut
  unread : source.unread = front ++ rest

/-- A line that has its newline is read from the front alone, and the next lines follow. -/
theorem Begins.read {source : Source} {content front rest : List UInt8}
    (h : source.Begins (content ++ newline :: front) rest) (oneLine : newline ∉ content) :
    source.line = content ++ [newline] ∧ source.listen = interpret (content ++ [newline]) ∧
      source.advance.Begins front rest := by
  obtain ⟨more, handedOut⟩ := h.handedOut
  have flat : source.pieces.flatten = content ++ newline :: (front ++ more) := by
    rw [← List.cons_append, ← List.append_assoc]
    exact handedOut.symm
  have line : source.line = content ++ [newline] := by
    rw [line_eq_first, flat, Text.Line.first_append_newline oneLine]
  have left : source.advance.handedOut = front ++ more := by
    rw [Source.handedOut, flatten_advance, flat, Text.Line.behind_append_newline oneLine]
  have ended : Text.Line.isEnded (content ++ [newline]) = true := by
    rw [Text.Line.isEnded, List.getLast?_concat]
    rfl
  refine ⟨line, ?_, ⟨more, left.symm⟩, ?_⟩
  · rw [listen, line]
    exact if_pos ended
  · have whole := source.line_append_unread_advance
    rw [line, h.unread] at whole
    exact List.append_cancel_left (whole.trans (by simp))

/-! ## Sources from which the same lines come first -/

/-- From both sources that many ended lines are to come first, the same from both, and then what may
differ. -/
def SharesLines (source other : Source) (count : Nat) (rest otherRest : List UInt8) : Prop :=
  ∃ front, Text.Line.EndedLines count front ∧ source.Begins front rest ∧
    other.Begins front otherRest

namespace SharesLines

variable {source other : Source} {count : Nat} {rest otherRest : List UInt8}

/-- The first of the lines is the same from both, and there is one less behind it. -/
theorem read (h : source.SharesLines other (count + 1) rest otherRest) :
    source.line = other.line ∧ source.listen = other.listen ∧
      source.advance.SharesLines other.advance count rest otherRest := by
  obtain ⟨front, ⟨content, later, oneLine, rfl, ended⟩, begins, otherBegins⟩ := h
  obtain ⟨line, said, left⟩ := begins.read oneLine
  obtain ⟨otherLine, otherSaid, otherLeft⟩ := otherBegins.read oneLine
  exact ⟨line.trans otherLine.symm, said.trans otherSaid.symm, later, ended, left, otherLeft⟩

/-- Both have as much unread in front of the rest. -/
theorem exists_unread (h : source.SharesLines other count rest otherRest) :
    ∃ front, source.unread.length = front + rest.length ∧
      other.unread.length = front + otherRest.length := by
  obtain ⟨front, -, begins, otherBegins⟩ := h
  refine ⟨front.length, ?_, ?_⟩
  · rw [begins.unread, List.length_append]
  · rw [otherBegins.unread, List.length_append]

end SharesLines

end Source

/-- **No dialogue learns what lies behind the lines that it asks for.** -/
theorem Dialogue.respects_sharesLines {α : Type} (rest otherRest : List UInt8) :
    Respects fun (dialogue : Dialogue α) s t =>
      ∃ count, dialogue.AsksAtMost count ∧ s.SharesLines t count rest otherRest where
  note := id
  say := id
  flush := id
  line := by
    rintro next s t ⟨count, ⟨fewer, rfl, -⟩, shares⟩
    exact ⟨shares.read.1, shares.read.2.1⟩
  advance := by
    rintro next s t ⟨count, ⟨fewer, rfl, later⟩, shares⟩ answer
    exact ⟨fewer, later answer, shares.read.2.2⟩

/-! ## Tours -/

/-- A reader that does not fail within the front hands it out. -/
theorem Setup.begins_console {setup : Setup} {front rest : List UInt8}
    (input : setup.input = front ++ rest)
    (beyond : ∀ fault ∈ setup.readFault, front.length ≤ fault.point) :
    setup.console.source.Begins front rest where
  handedOut := by
    rw [setup.handedOut_console, handedOut, input]
    cases laid : setup.readFault with
    | none => exact List.prefix_append front rest
    | some fault =>
      exact List.prefix_take_iff.mpr ⟨List.prefix_append front rest, beyond fault laid⟩
  unread := by rw [setup.unread_console, input]

/-- **A tour looks at nothing behind its second newline.** -/
theorem Tour.perform_dialogue_of_two_lines (setup : Setup) {front : List UInt8}
    (two : front.count newline = 2) (ended : front.getLast? = some newline)
    (rest other : List UInt8) (sizes otherSizes : List Nat) {fault otherFault : Option Fault}
    (fatal : ∀ f ∈ fault, f.error.Fatal) (otherFatal : ∀ f ∈ otherFault, f.error.Fatal)
    (beyond : ∀ f ∈ fault, front.length ≤ f.point)
    (otherBeyond : ∀ f ∈ otherFault, front.length ≤ f.point) :
    let tour := Setup.tour
      { setup with input := front ++ rest, sizes, readFault := fault, readFatal := fatal }
    let otherTour := Setup.tour
      { setup with
        input := front ++ other
        sizes := otherSizes
        readFault := otherFault
        readFatal := otherFatal }
    tour.result = otherTour.result ∧ tour.trace = otherTour.trace ∧
      (tour.unread : Int) - otherTour.unread = (rest.length : Int) - other.length := by
  intro tour otherTour
  have lines := Text.Line.endedLines_of_count two (.inr ended)
  have shown : tour.ShowsAlike _ otherTour :=
    Dialogue.perform_of_respects (Dialogue.respects_sharesLines rest other) Tour.dialogue ⟨rfl⟩
      ⟨2, Tour.asksAtMost_dialogue, front, lines, Setup.begins_console rfl beyond,
        Setup.begins_console rfl otherBeyond⟩
  obtain ⟨-, count, -, shares⟩ := shown.reader
  obtain ⟨left, unread, otherUnread⟩ := shares.exists_unread
  refine ⟨shown.result, congrArg Trace.merge shown.effects, ?_⟩
  rw [Performance.unread, Performance.unread, unread, otherUnread]
  omega

/-- A reader that fails right behind the age is not asked again, so its error is not seen. -/
theorem Tour.perform_dialogue_of_two_lines_at_boundary :
    let front := Text.Utf8.encode "Ada\r\n13\n"
    let setup := Setup.faultless []
    let fault : Fault := ⟨front.length, .notText⟩
    let failing := Setup.tour
      { setup with
        input := front ++ [0xc3]
        sizes := [3]
        readFault := some fault
        readFatal := by decide }
    let plain := Setup.tour { setup with input := front ++ [], sizes := [], readFault := none }
    failing.result = plain.result ∧ failing.trace = plain.trace ∧
      (failing.unread : Int) - plain.unread = 1 := by
  intro front setup fault failing plain
  have fatal : ∀ f ∈ some fault, f.error.Fatal := by decide
  have none : ∀ f ∈ (none : Option Fault), f.error.Fatal := by
    intro f laid
    cases laid
  have beyond : ∀ f ∈ some fault, front.length ≤ f.point := by
    intro f laid
    cases laid
    exact le_refl _
  apply perform_dialogue_of_two_lines setup (by decide) (by decide) [0xc3] [] [3] [] fatal none
    beyond
  intro f laid
  cases laid

end Walkthrough
