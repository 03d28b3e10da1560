import Walkthrough.Proofs.Journal
import Walkthrough.Proofs.Transcript

/-!
# Visitors one after the other

Tours that are held back to back on one input do not disturb each other.  Every visitor types a line
for a name and a line for an age; a tour takes exactly these two lines, also where the second is no
age or no text at all (`Visitor.transcript_of_octets_append`), so the next visitor is met as if
nobody had been there before (`outcomes_visitors`).
-/

namespace Walkthrough

open Text.Utf8 (encode IsText)
open Text.Line (first behind body said newline)

namespace Script

/-- What a visitor types: a text for a name, and whatever for an age, each on a line of its own. -/
structure Visitor where
  name : List UInt8
  age : List UInt8
  name_oneLine : newline ∉ name
  name_isText : IsText name
  age_oneLine : newline ∉ age

namespace Visitor

/-- The octets that a visitor types. -/
def octets (visitor : Visitor) : List UInt8 :=
  visitor.name ++ newline :: (visitor.age ++ [newline])

/-- The outcome of a tour without faults whose input is what the visitor types and nothing else. -/
def alone (visitor : Visitor) (setup : Setup) : Except Interruption Reply × Trace :=
  let tour := { setup with input := visitor.octets }.withoutFaults.tour
  (tour.result.map fun _ => .done, tour.trace)

/-- The name is cut off where it ends, and the age behind it, whatever stands behind both. -/
theorem cut_octets_append (visitor : Visitor) (rest : List UInt8) :
    first (visitor.octets ++ rest) = visitor.name ++ [newline] ∧
      first (behind (visitor.octets ++ rest)) = visitor.age ++ [newline] ∧
      behind (behind (visitor.octets ++ rest)) = rest := by
  have whole : visitor.octets ++ rest =
      visitor.name ++ newline :: (visitor.age ++ newline :: rest) := by
    simp [octets]
  rw [whole, Text.Line.first_append_newline visitor.name_oneLine,
    Text.Line.behind_append_newline visitor.name_oneLine,
    Text.Line.first_append_newline visitor.age_oneLine,
    Text.Line.behind_append_newline visitor.age_oneLine]
  exact ⟨rfl, rfl, rfl⟩

/-- **A tour takes what its visitor types and leaves the rest as it is**, whatever comes of it. -/
theorem transcript_of_octets_append (visitor : Visitor) (rest : List UInt8) :
    Transcript.of (visitor.octets ++ rest) = { Transcript.of visitor.octets with rest } := by
  obtain ⟨nameLine, ageLine, left⟩ := visitor.cut_octets_append rest
  obtain ⟨nameAlone, ageAlone, nothing⟩ := visitor.cut_octets_append []
  rw [List.append_nil] at nameAlone ageAlone nothing
  obtain ⟨name, named⟩ := Text.Line.exists_said_newline visitor.name_isText
  simp only [Transcript.of, nameLine, ageLine, left, nameAlone, ageAlone, nothing, named]
  cases said (visitor.age ++ [newline]) with
  | error interruption => rfl
  | ok answer =>
    simp only
    cases Tour.ageOf answer with
    | error interruption => rfl
    | ok age => rfl

end Visitor

/-! ## One tour -/

variable {console : Console} {rest : List UInt8}

/-- The outcome of a tour that finds the input closed when it asks for the name. -/
def closedOutcome : Except Interruption Reply × Trace :=
  (.error .inputClosed, [.log .started, .out (encode Tour.opening), .flush, .read 0])

/-- A tour in a script without a fault comes to the transcript of what is left of the input. -/
theorem outcome_perform_tour (h : console.Faultless) :
    (Step.tour.dialogue.perform console).outcome =
        ((Transcript.of console.source.unread).result.map fun _ => .done,
          (Transcript.of console.source.unread).trace) ∧
      (Step.tour.dialogue.perform console).console.Faultless ∧
      (Step.tour.dialogue.perform console).console.source.unread =
        (Transcript.of console.source.unread).rest := by
  have kept := ((Step.tour.dialogue.perform_accounts console).faultless h)
  refine ⟨?_, kept, ?_⟩
  · rw [← h.transcript_perform, perform_tour]
    rfl
  · rw [← h.transcript_perform, perform_tour]
    rfl

/-- A tour whose visitor comes first goes as if the visitor were alone. -/
theorem outcome_perform_tour_of_visitor (h : console.Faultless) {visitor : Visitor}
    (unread : console.source.unread = visitor.octets ++ rest) (setup : Setup) :
    (Step.tour.dialogue.perform console).outcome = visitor.alone setup ∧
      (Step.tour.dialogue.perform console).console.Faultless ∧
      (Step.tour.dialogue.perform console).console.source.unread = rest := by
  obtain ⟨outcome, kept, left⟩ := outcome_perform_tour h
  rw [unread, visitor.transcript_of_octets_append] at outcome left
  have alone := (Console.faultless_withoutFaults
    { setup with input := visitor.octets }).transcript_perform
  rw [Console.unread_withoutFaults] at alone
  refine ⟨?_, kept, left⟩
  rw [outcome, ← alone]
  rfl

/-- A tour to which nobody comes finds the input closed. -/
theorem outcome_perform_tour_of_nil (h : console.Faultless) (unread : console.source.unread = []) :
    (Step.tour.dialogue.perform console).outcome = closedOutcome ∧
      (Step.tour.dialogue.perform console).console.Faultless ∧
      (Step.tour.dialogue.perform console).console.source.unread = [] := by
  obtain ⟨outcome, kept, left⟩ := outcome_perform_tour h
  rw [unread] at outcome left
  exact ⟨outcome, kept, left⟩

/-! ## Many tours -/

theorem outcomes_of_nil (h : console.Faultless) (unread : console.source.unread = [])
    (count : Nat) :
    (run (List.replicate count .tour) console).map Performance.outcome =
      List.replicate count closedOutcome := by
  induction count generalizing console with
  | zero => rfl
  | succ count ih =>
    obtain ⟨outcome, kept, left⟩ := outcome_perform_tour_of_nil h unread
    simp only [List.replicate_succ, run, List.map_cons, outcome, ih kept left]

theorem outcomes_of_visitors (h : console.Faultless) {visitors : List Visitor}
    (unread : console.source.unread = visitors.flatMap Visitor.octets) (setup : Setup)
    (further : Nat) :
    (run (List.replicate (visitors.length + further) .tour) console).map Performance.outcome =
      visitors.map (fun visitor => visitor.alone setup) ++
        List.replicate further closedOutcome := by
  induction visitors generalizing console with
  | nil =>
    rw [List.length_nil, Nat.zero_add]
    exact outcomes_of_nil h unread further
  | cons visitor visitors ih =>
    rw [List.flatMap_cons] at unread
    -- this visitor's tour hands on exactly what the others have typed
    obtain ⟨outcome, kept, left⟩ := outcome_perform_tour_of_visitor h unread setup
    rw [List.length_cons, Nat.add_right_comm, List.replicate_succ]
    simp only [run, List.map_cons, outcome, ih kept left, List.cons_append]

/-- After some tours the input is left to the visitors whose turn has not come. -/
theorem unread_left_tours (h : console.Faultless) {visitors : List Visitor}
    (unread : console.source.unread = visitors.flatMap Visitor.octets) (count : Nat) :
    (left (List.replicate count .tour) console).source.unread =
      (visitors.drop count).flatMap Visitor.octets := by
  induction count generalizing console visitors with
  | zero => exact unread
  | succ count ih =>
    rw [List.replicate_succ, left]
    cases visitors with
    | nil =>
      obtain ⟨-, kept, still⟩ := outcome_perform_tour_of_nil h unread
      have nobody : _ = ([] : List Visitor).flatMap Visitor.octets := still
      simpa using ih kept nobody
    | cons visitor visitors =>
      rw [List.flatMap_cons] at unread
      obtain ⟨-, kept, others⟩ := outcome_perform_tour_of_visitor h unread (.faultless [])
      exact ih kept others

/-- **Visitors who come one after the other do not disturb each other.**  On an input that some
visitors have typed, as many tours without faults have, each, the result and the trace of a tour
that its visitor has alone, whatever came of the tours before; every further tour finds the input
closed when it asks for the name.  After any number of tours exactly what the other visitors have
typed is left, and nothing once everyone has had a turn. -/
theorem outcomes_visitors (setup : Setup) (visitors : List Visitor) (further count : Nat) :
    let console := { setup with input := visitors.flatMap Visitor.octets }.withoutFaults.console
    (run (List.replicate (visitors.length + further) .tour) console).map Performance.outcome =
        visitors.map (fun visitor => visitor.alone setup) ++
          List.replicate further closedOutcome ∧
      (left (List.replicate count .tour) console).source.unread =
        (visitors.drop count).flatMap Visitor.octets ∧
      (left (List.replicate (visitors.length + further) .tour) console).source.unread = [] := by
  intro console
  have faultless : console.Faultless := Console.faultless_withoutFaults _
  have unread : console.source.unread = visitors.flatMap Visitor.octets :=
    Console.unread_withoutFaults _
  have done : visitors.drop (visitors.length + further) = [] :=
    List.drop_eq_nil_of_le (Nat.le_add_right _ _)
  refine ⟨outcomes_of_visitors faultless unread setup further,
    unread_left_tours faultless unread count, ?_⟩
  rw [unread_left_tours faultless unread, done]
  rfl

/-- A visitor without a name, whose answer to the question for an age is no text. -/
def Visitor.nameless : Visitor where
  name := []
  age := [0xff]
  name_oneLine := List.not_mem_nil
  name_isText := Text.Utf8.isText_encode ""
  age_oneLine := by
    intro mem
    have same : newline = 0xff := List.mem_singleton.mp mem
    exact absurd same (by decide)

/-- A visitor with a name, whose age is accepted. -/
def Visitor.grown : Visitor where
  name := encode "Zoë"
  age := encode "20"
  name_oneLine := by decide
  name_isText := Text.Utf8.isText_encode "Zoë"
  age_oneLine := by decide

/-- The tour of the second visitor is not disturbed by the first, who made it end early. -/
theorem outcomes_nameless_grown :
    let visitors := [Visitor.nameless, Visitor.grown]
    let console := { Setup.faultless [] with
      input := visitors.flatMap Visitor.octets }.withoutFaults.console
    (run [.tour, .tour, .tour] console).map Performance.outcome =
        [Visitor.nameless.alone (.faultless []), Visitor.grown.alone (.faultless []),
          closedOutcome] ∧
      (Visitor.nameless.alone (.faultless [])).1 = .error (.device .notText) ∧
      (Visitor.grown.alone (.faultless [])).1 = .ok .done ∧
      (left [.tour] console).source.unread = Visitor.grown.octets := by
  intro visitors console
  obtain ⟨outcomes, left, -⟩ := outcomes_visitors (.faultless []) visitors 1 1
  exact ⟨outcomes, by decide +kernel, by decide +kernel, left⟩

end Script

end Walkthrough
