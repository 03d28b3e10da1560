import Mathlib.Data.List.Basic
import Walkthrough.Proofs.FailStop
import Walkthrough.Proofs.Transcript

/-!
# What a tour discloses

Who sees only what a tour writes learns how far it has come, how the person was welcomed and which
bracket the age falls into, and nothing else: two tours on which no device fails write the same
octets exactly if they agree on these (`Tour.written_eq_iff`).  How the age was spelled, how the
lines were ended and what follows them in the input makes no difference.  Conversely a name is
always on one line, so whatever it says it cannot pass for a line of the program.
-/

namespace Walkthrough

open Text.Utf8 (encode)
open Text.Line (first behind body said newline)
open Diagnostics (Entry)

namespace Tour

/-! ## How far a tour comes -/

/-- How far a tour comes. -/
inductive Stage where
  /-- no name was read -/
  | unnamed
  /-- a name was read, but no age was accepted -/
  | named
  /-- an age was accepted -/
  | classified
deriving DecidableEq

/-- How far a tour comes, with what it was told and makes known. -/
inductive Progress where
  | unnamed
  | named (name : String)
  | classified (name : String) (bracket : Bracket)
deriving DecidableEq

namespace Progress

/-- The stage alone. -/
def stage : Progress → Stage
  | unnamed => .unnamed
  | named _ => .named
  | classified _ _ => .classified

/-- All that is said on the way. -/
def shown : Progress → String
  | unnamed => opening
  | named name => opening ++ interlude name
  | classified name bracket => opening ++ interlude name ++ parting bracket

/-- The two agree on the stage, the welcome and the bracket, as far as they have come. -/
def LooksLike : Progress → Progress → Prop
  | unnamed, unnamed => True
  | named name, named other => welcome name = welcome other
  | classified name bracket, classified other sameBracket =>
    welcome name = welcome other ∧ bracket = sameBracket
  | _, _ => False

/-- The reports tell of that progress. -/
def ReportedIn (entries : List Entry) : Progress → Prop
  | unnamed => entries = [.started]
  | named name => entries = [.started, .nameRead name.isEmpty] ∨
      ∃ interruption, entries = [.started, .nameRead name.isEmpty, .ageRejected interruption]
  | classified name bracket => ∃ age : Age, age.bracket = bracket ∧
      entries = [.started, .nameRead name.isEmpty, .ageClassified age bracket, .finished]

/-- The name, if there is one, is on one line. -/
def OneLine : Progress → Prop
  | unnamed => True
  | named name => newline ∉ encode name
  | classified name _ => newline ∉ encode name

end Progress

end Tour

open Tour (Progress Stage opening interlude parting welcome ageOf)

/-- How far a tour comes with what a source gives, when no device fails. -/
def Source.progress (source : Source) : Progress :=
  match source.listen with
  | .error _ => .unnamed
  | .ok name =>
    match source.advance.listen with
    | .error _ => .named name
    | .ok answer =>
      match ageOf answer with
      | .error _ => .named name
      | .ok age => .classified name age.bracket

/-- How far a tour comes with an input when no device fails. -/
def Setup.progress (setup : Setup) : Progress :=
  setup.withoutFaults.console.source.progress

/-- The number of lines that are ended in a stage and the ones before it. -/
def Tour.Stage.lines : Stage → Nat
  | unnamed => 1
  | named => 15
  | classified => 18

theorem Tour.Stage.lines_injective {a b : Stage} (h : a.lines = b.lines) : a = b := by
  cases a <;> cases b <;> first | rfl | cases h

/-! ## A name is on one line -/

/-- Without its terminator a line has no newline. -/
theorem Text.Line.newline_notMem_body_first (octets : List UInt8) :
    newline ∉ body (first octets) := by
  rcases exists_newline_or_notMem octets with ⟨before, rest, notMem, rfl⟩ | notMem
  · rw [first_append_newline notMem]
    unfold body
    rw [if_pos List.getLast?_concat, List.dropLast_concat]
    split
    · exact fun mem => notMem (List.dropLast_subset before mem)
    · exact notMem
  · rwa [first_of_notMem notMem, body_of_notMem notMem]

/-- What a line says is on one line. -/
theorem Text.Line.newline_notMem_of_said {octets : List UInt8} {text : String}
    (h : said (first octets) = .ok text) : newline ∉ encode text := by
  rw [encode_of_said h]
  exact newline_notMem_body_first octets

namespace Console.Faultless

variable {console : Console}

/-- The second line says what lies behind the first. -/
theorem listen_advance_eq (h : console.Faultless) :
    console.source.advance.listen = said (first (behind console.source.unread)) := by
  rw [← h.unread_advance_eq_behind]
  exact h.advance.listen_eq

theorem oneLine_progress (h : console.Faultless) : console.source.progress.OneLine := by
  unfold Source.progress
  rw [h.listen_eq]
  cases heard : said (first console.source.unread) with
  | error interruption => trivial
  | ok name =>
    have oneLine := Text.Line.newline_notMem_of_said heard
    cases console.source.advance.listen with
    | error interruption => exact oneLine
    | ok answer =>
      simp only
      cases ageOf answer with
      | error interruption => exact oneLine
      | ok age => exact oneLine

/-- **A tour says what its progress says**, and reports it. -/
theorem written_perform (h : console.Faultless) :
    (Tour.dialogue.perform console).trace.written = encode console.source.progress.shown ∧
      console.source.progress.ReportedIn (Tour.dialogue.perform console).trace.entries := by
  have whole := h.transcript_perform
  have trace : (Tour.dialogue.perform console).trace =
      (Transcript.of console.source.unread).trace := congrArg Transcript.trace whole
  have written : (Tour.dialogue.perform console).trace.written =
      (Transcript.of console.source.unread).written := congrArg Transcript.written whole
  rw [written, trace]
  simp only [Transcript.of, Source.progress, h.listen_eq, h.listen_advance_eq]
  cases heard : said (first console.source.unread) with
  | error interruption => exact ⟨rfl, rfl⟩
  | ok name =>
    have octets := encode_of_said heard
    simp only [← octets, Tour.interludeOctets_encode, ← isEmpty_eq_decide (Eq.refl (encode name))]
    cases said (first (behind console.source.unread)) with
    | error interruption => exact ⟨(Text.Utf8.encode_append _ _).symm, .inl rfl⟩
    | ok answer =>
      simp only
      cases ageOf answer with
      | error interruption =>
        exact ⟨(Text.Utf8.encode_append _ _).symm, .inr ⟨interruption, rfl⟩⟩
      | ok age =>
        simp only [Progress.shown, Text.Utf8.encode_append]
        exact ⟨trivial, age, rfl, rfl⟩

end Console.Faultless

namespace Tour

theorem newline_notMem_encode_welcome {name : String} (h : newline ∉ encode name) :
    newline ∉ encode (welcome name) := by
  unfold welcome
  split
  · decide +kernel
  · simp only [Text.Utf8.encode_append, List.mem_append, not_or]
    exact ⟨⟨by decide +kernel, h⟩, by decide +kernel⟩

theorem count_newline_opening : (encode opening).count newline = 1 := by decide +kernel

theorem count_newline_parting (bracket : Bracket) :
    (encode (parting bracket)).count newline = 3 := by
  cases bracket <;> decide +kernel

/-- All that is said between the welcome and the age. -/
def listing : String := countingBlock ++ fruitBlock ++ ageQuestion

theorem encode_interlude (name : String) :
    encode (interlude name) = encode (welcome name) ++ newline :: encode listing := by
  have line : encode "\n" = [newline] := by decide +kernel
  simp [interlude, listing, line]

theorem count_newline_interlude {name : String} (h : newline ∉ encode name) :
    (encode (interlude name)).count newline = 14 := by
  have listed : (encode listing).count newline = 13 := by decide +kernel
  rw [encode_interlude, List.count_append, List.count_cons_self, listed,
    List.count_eq_zero.mpr (newline_notMem_encode_welcome h)]

/-- **As many lines are ended as the stage says**, whatever the name is. -/
theorem Progress.count_newline_shown {progress : Progress} (h : progress.OneLine) :
    (encode progress.shown).count newline = progress.stage.lines := by
  cases progress with
  | unnamed => exact count_newline_opening
  | named name =>
    rw [shown, Text.Utf8.encode_append, List.count_append, count_newline_opening,
      count_newline_interlude h]
    rfl
  | classified name bracket =>
    rw [shown, Text.Utf8.encode_append, Text.Utf8.encode_append, List.count_append,
      List.count_append, count_newline_opening, count_newline_interlude h, count_newline_parting]
    rfl

/-- The welcome ends with the first newline, so it can be told from what follows. -/
theorem interlude_append_inj {name other : String} (h : newline ∉ encode name)
    (k : newline ∉ encode other) {a b : List UInt8}
    (same : encode (interlude name) ++ a = encode (interlude other) ++ b) :
    welcome name = welcome other ∧ a = b := by
  rw [encode_interlude, encode_interlude, List.append_assoc, List.append_assoc, List.cons_append,
    List.cons_append] at same
  have front := congrArg first same
  have back := congrArg behind same
  rw [Text.Line.first_append_newline (newline_notMem_encode_welcome h),
    Text.Line.first_append_newline (newline_notMem_encode_welcome k)] at front
  rw [Text.Line.behind_append_newline (newline_notMem_encode_welcome h),
    Text.Line.behind_append_newline (newline_notMem_encode_welcome k)] at back
  exact ⟨Text.Utf8.encode_injective (List.append_cancel_right front), List.append_cancel_left back⟩

theorem parting_injective {a b : Bracket} (h : encode (parting a) = encode (parting b)) :
    a = b := by
  simp only [parting, Text.Utf8.encode_append, List.append_cancel_right_eq] at h
  exact Bracket.message_injective (Text.Utf8.encode_injective h)

/-! ## What two tours have in common -/

/-- Only a person without a name and one of the name of a guest are welcomed alike. -/
theorem welcome_eq_iff {name other : String} :
    welcome name = welcome other ↔
      name = other ∨ (name = "" ∧ other = "guest") ∨ (name = "guest" ∧ other = "") := by
  -- a person without a name is welcomed by the name of a guest
  have called (name : String) : welcome name =
      "Welcome, " ++ (if name = "" then "guest" else name) ++ "!" := by
    by_cases empty : name = ""
    · subst empty
      decide +kernel
    · rw [welcome, if_neg (by simpa using empty), if_neg empty]
  rw [called, called, String.append_left_inj, String.append_right_inj]
  by_cases empty : name = ""
  · by_cases otherEmpty : other = ""
    · simp [empty, otherEmpty]
    · simpa [empty, otherEmpty, Ne.symm otherEmpty] using eq_comm
  · by_cases otherEmpty : other = ""
    · simp [empty, otherEmpty]
    · simp [empty, otherEmpty]

/-- Who looks alike has been told the same. -/
theorem Progress.LooksLike.shown_eq {progress other : Progress} (h : progress.LooksLike other) :
    progress.shown = other.shown := by
  cases progress with
  | unnamed =>
    cases other with
    | unnamed => rfl
    | named | classified => exact h.elim
  | named name =>
    cases other with
    | named otherName =>
      have welcomes : welcome name = welcome otherName := h
      simp only [shown, interlude, welcomes]
    | unnamed | classified => exact h.elim
  | classified name bracket =>
    cases other with
    | classified otherName otherBracket =>
      obtain ⟨welcomes, rfl⟩ := h
      simp only [shown, interlude, welcomes]
    | unnamed | named => exact h.elim

/-- **What is said on the way can be told apart** exactly as far as it differs in the stage, the
welcome or the bracket. -/
theorem Progress.encode_shown_eq_iff {progress other : Progress} (h : progress.OneLine)
    (k : other.OneLine) :
    encode progress.shown = encode other.shown ↔ progress.LooksLike other := by
  constructor
  · intro same
    have stages : progress.stage = other.stage := Stage.lines_injective (by
      rw [← count_newline_shown h, ← count_newline_shown k, same])
    cases progress with
    | unnamed =>
      cases other with
      | unnamed => trivial
      | named | classified => cases stages
    | named name =>
      cases other with
      | named otherName =>
        simp only [shown, Text.Utf8.encode_append, List.append_cancel_left_eq] at same
        exact (interlude_append_inj h k (congrArg (· ++ []) same)).1
      | unnamed | classified => cases stages
    | classified name bracket =>
      cases other with
      | classified otherName otherBracket =>
        simp only [shown, Text.Utf8.encode_append, List.append_assoc,
          List.append_cancel_left_eq] at same
        obtain ⟨welcomes, brackets⟩ := interlude_append_inj h k same
        exact ⟨welcomes, parting_injective brackets⟩
      | unnamed | named => cases stages
  · intro alike
    exact congrArg encode alike.shown_eq

/-- **A tour discloses its stage, the welcome and the bracket, and nothing else.**  Two tours on
which no device fails have written the same octets exactly if neither has come to a name, or both
have come to a name and not to an age and have welcomed alike, or both have come to an age of the
same bracket and have welcomed alike.  Welcomes are alike only for the same name, or for no name and
that of a guest.  How many lines a tour has ended says how far it has come and no more, and how far
it has come is what it reports. -/
theorem written_eq_iff (a b : Setup) :
    let written := a.withoutFaults.tour.trace.written
    let other := b.withoutFaults.tour.trace.written
    (written = other ↔ a.progress.LooksLike b.progress) ∧
      (∀ name other : String, welcome name = welcome other ↔
        name = other ∨ (name = "" ∧ other = "guest") ∨ (name = "guest" ∧ other = "")) ∧
      written.count newline = a.progress.stage.lines ∧
      (written.count newline = other.count newline ↔ a.progress.stage = b.progress.stage) ∧
      a.progress.ReportedIn a.withoutFaults.tour.trace.entries := by
  intro written other
  have faultless := Console.faultless_withoutFaults a
  have otherFaultless := Console.faultless_withoutFaults b
  have oneLine := faultless.oneLine_progress
  have otherOneLine := otherFaultless.oneLine_progress
  have shown : written = encode a.progress.shown := faultless.written_perform.1
  have otherShown : other = encode b.progress.shown := otherFaultless.written_perform.1
  have counted : written.count newline = a.progress.stage.lines :=
    shown ▸ Progress.count_newline_shown oneLine
  have otherCounted : other.count newline = b.progress.stage.lines :=
    otherShown ▸ Progress.count_newline_shown otherOneLine
  refine ⟨?_, fun _ _ => welcome_eq_iff, counted, ?_, faultless.written_perform.2⟩
  · rw [shown, otherShown]
    exact Progress.encode_shown_eq_iff oneLine otherOneLine
  · rw [counted, otherCounted]
    exact ⟨Stage.lines_injective, congrArg Stage.lines⟩

/-- One who is called like a guest and one who gives no name cannot be told apart, however they spell
an age of the same bracket. -/
example : (Setup.faultless (encode "guest\r\n+42")).tour.trace.written =
    (Setup.faultless (encode "\n2_0\nand so on")).tour.trace.written := by
  decide +kernel

end Tour

end Walkthrough
