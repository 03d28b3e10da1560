import Walkthrough.Proofs.Accounting
import Walkthrough.Proofs.Sheets

/-!
# Text line by line

Octets are a text exactly if each of their lines is one: a newline is a character of its own, so
cutting at it goes through no character, and what is no text does not become one by being put
together (`isText_append_newline_append_iff`, `isText_iff_forall_mem_lines`).  So somebody who asks
for lines until the input is closed is answered as often as there are lines, and has met something
that is no text exactly if the input as a whole is none (`interview_withoutFaults`).
-/

namespace Walkthrough

open Text.Utf8 (encode decode? IsText)
open Text.Line (newline first behind said isEnded)

/-! ## Cutting a text at a newline -/

namespace Text.Utf8

variable {a b : List UInt8}

theorem isText_iff_exists_chars {octets : List UInt8} :
    IsText octets ↔ ∃ text : List Char, text.flatMap String.utf8EncodeChar = octets := by
  constructor
  · rintro ⟨text, rfl⟩
    exact ⟨text.toList, rfl⟩
  · rintro ⟨text, rfl⟩
    exact ⟨String.ofList text, by simp [encode]⟩

theorem isText_append (ha : IsText a) (hb : IsText b) : IsText (a ++ b) := by
  obtain ⟨front, rfl⟩ := ha
  obtain ⟨back, rfl⟩ := hb
  exact ⟨front ++ back, encode_append front back⟩

/-- A newline among the octets of some characters is one of the characters, so it stands between two
texts. -/
theorem isText_of_flatMap_eq {text : List Char}
    (h : text.flatMap String.utf8EncodeChar = a ++ newline :: b) : IsText a ∧ IsText b := by
  induction text generalizing a with
  | nil => simp at h
  | cons c rest ih =>
    rw [List.flatMap_cons] at h
    by_cases line : c = '\n'
    -- the newline is the first character, or stands behind it
    · subst line
      rw [utf8EncodeChar_of_lt (by decide), List.singleton_append, Line.octetOf_newline] at h
      rcases a with _ | ⟨octet, a⟩
      · obtain ⟨-, rfl⟩ := List.cons.inj h
        exact ⟨⟨"", rfl⟩, isText_iff_exists_chars.mpr ⟨rest, rfl⟩⟩
      · obtain ⟨rfl, later⟩ := List.cons.inj h
        obtain ⟨front, back⟩ := ih later
        exact ⟨isText_append ⟨"\n", rfl⟩ front, back⟩
    -- no octet of another character is a newline
    · have notMem : newline ∉ String.utf8EncodeChar c :=
        mt (mem_utf8EncodeChar_iff (c := '\n') (by decide)).mp line
      rcases List.append_eq_append_iff.mp h with ⟨more, rfl, later⟩ | ⟨more, whole, later⟩
      · obtain ⟨front, back⟩ := ih later
        have first : IsText (String.utf8EncodeChar c) :=
          isText_iff_exists_chars.mpr ⟨[c], by simp⟩
        exact ⟨isText_append first front, back⟩
      · rcases more with _ | ⟨octet, more⟩
        · rw [List.append_nil] at whole
          obtain ⟨-, back⟩ := ih (a := []) later.symm
          exact ⟨isText_iff_exists_chars.mpr ⟨[c], by simpa using whole⟩, back⟩
        · obtain ⟨rfl, -⟩ := List.cons.inj later
          exact absurd (by simp [whole]) notMem

/-- **A newline stands between two texts**, and two texts with a newline between them are one. -/
theorem isText_append_newline_append_iff (a b : List UInt8) :
    IsText (a ++ newline :: b) ↔ IsText a ∧ IsText b := by
  constructor
  · intro h
    obtain ⟨text, octets⟩ := isText_iff_exists_chars.mp h
    exact isText_of_flatMap_eq octets
  · rintro ⟨front, back⟩
    exact isText_append front (isText_append (a := [newline]) ⟨"\n", rfl⟩ back)

end Text.Utf8

/-! ## The lines of some octets -/

namespace Text.Line

theorem length_behind_lt {octets : List UInt8} (h : octets ≠ []) :
    (behind octets).length < octets.length := by
  have some := List.length_pos_iff.mpr (mt eq_nil_of_first_eq_nil h)
  have whole := length_first_add_length_behind octets
  omega

/-- The lines of some octets, each with its terminator. -/
def lines (octets : List UInt8) : List (List UInt8) :=
  if octets = [] then [] else first octets :: lines (behind octets)
termination_by octets.length
decreasing_by
  rename_i something
  exact length_behind_lt something

/-- How many lines there are: one for each newline, and one more if something stands behind the last
of them. -/
def countLines (octets : List UInt8) : Nat :=
  octets.count newline + if octets = [] ∨ isEnded octets = true then 0 else 1

@[simp]
theorem lines_nil : lines [] = [] := by
  rw [lines, if_pos rfl]

theorem lines_of_ne_nil {octets : List UInt8} (h : octets ≠ []) :
    lines octets = first octets :: lines (behind octets) := by
  rw [lines, if_neg h]

theorem lines_append_newline {before : List UInt8} (h : newline ∉ before) (rest : List UInt8) :
    lines (before ++ newline :: rest) = (before ++ [newline]) :: lines rest := by
  rw [lines_of_ne_nil (by simp), first_append_newline h, behind_append_newline h]

theorem lines_of_notMem {octets : List UInt8} (h : newline ∉ octets) (something : octets ≠ []) :
    lines octets = [octets] := by
  rw [lines_of_ne_nil something, first_of_notMem h, behind_of_notMem h, lines_nil]

theorem isEnded_of_notMem {octets : List UInt8} (h : newline ∉ octets) :
    isEnded octets = false := by
  apply Bool.eq_false_iff.mpr
  intro ended
  exact h (List.mem_of_getLast? (beq_iff_eq.mp ended))

theorem countLines_append_newline {before : List UInt8} (h : newline ∉ before)
    (rest : List UInt8) : countLines (before ++ newline :: rest) = countLines rest + 1 := by
  have count : (before ++ newline :: rest).count newline = rest.count newline + 1 := by
    rw [List.count_append, List.count_eq_zero.mpr h, List.count_cons_self, Nat.zero_add]
  have ended : (before ++ newline :: rest = [] ∨ isEnded (before ++ newline :: rest) = true) ↔
      (rest = [] ∨ isEnded rest = true) := by
    rcases rest with _ | ⟨octet, rest⟩
    · simp [isEnded]
    · simp [isEnded, List.getLast?_append]
  simp only [countLines, count, ended]
  omega

theorem countLines_of_notMem {octets : List UInt8} (h : newline ∉ octets)
    (something : octets ≠ []) : countLines octets = 1 := by
  rw [countLines, List.count_eq_zero.mpr h, isEnded_of_notMem h]
  simp [something]

/-- There are as many lines as the newlines and the end say. -/
theorem length_lines (octets : List UInt8) : (lines octets).length = countLines octets := by
  induction h : octets.length using Nat.strongRecOn generalizing octets with
  | ind count ih =>
    rcases exists_newline_or_notMem octets with ⟨before, rest, notMem, rfl⟩ | notMem
    · have shorter : rest.length < count := by
        rw [← h, List.length_append, List.length_cons]
        omega
      rw [lines_append_newline notMem, countLines_append_newline notMem, List.length_cons,
        ih _ shorter rest rfl]
    · by_cases empty : octets = []
      · subst empty
        rw [lines_nil]
        rfl
      · rw [lines_of_notMem notMem empty, countLines_of_notMem notMem empty]
        rfl

/-- **Octets are a text exactly if every line of them is one.** -/
theorem isText_iff_forall_mem_lines (octets : List UInt8) :
    IsText octets ↔ ∀ line ∈ lines octets, IsText line := by
  induction h : octets.length using Nat.strongRecOn generalizing octets with
  | ind count ih =>
    rcases exists_newline_or_notMem octets with ⟨before, rest, notMem, rfl⟩ | notMem
    · have shorter : rest.length < count := by
        rw [← h, List.length_append, List.length_cons]
        omega
      have line : IsText (before ++ [newline]) ↔ IsText before :=
        isText_append_terminator before .newline
      rw [lines_append_newline notMem, List.forall_mem_cons, line, ← ih _ shorter rest rfl]
      exact Utf8.isText_append_newline_append_iff before rest
    · by_cases empty : octets = []
      · subst empty
        simp only [lines_nil, List.not_mem_nil, false_implies, implies_true, iff_true]
        exact ⟨"", rfl⟩
      · rw [lines_of_notMem notMem empty]
        simp

theorem ne_nil_of_mem_lines {octets line : List UInt8} (h : line ∈ lines octets) : line ≠ [] := by
  fun_induction lines octets with
  | case1 => cases h
  | case2 octets something ih =>
    rcases List.mem_cons.mp h with rfl | later
    · exact mt eq_nil_of_first_eq_nil something
    · exact ih later

end Text.Line

/-! ## Asking until the input is closed -/

namespace Script

variable {console : Console}

/-- Whether a question found the input closed. -/
def foundClosed : Except Interruption Reply → Bool
  | .error .inputClosed => true
  | _ => false

/-- A question that does not find the input closed takes something of it. -/
theorem length_unread_lt_of_answered (h : console.Faultless) {question : String}
    (answered : foundClosed ((Step.question question).dialogue.perform console).result = false) :
    ((Step.question question).dialogue.perform console).console.source.unread.length <
      console.source.unread.length := by
  obtain ⟨result, left⟩ := performed_question h question
  rw [left, h.unread_asked]
  apply Text.Line.length_behind_lt
  intro nothing
  rw [result, nothing] at answered
  cases answered

/-- Ask one question after the other until one finds the input closed, and keep what each of them
comes to. -/
def interview (questions : Nat → String) (console : Console) (h : console.Faultless) :
    List (Except Interruption Reply) :=
  let performance := (Step.question (questions 0)).dialogue.perform console
  if foundClosed performance.result then [performance.result]
  else
    performance.result :: interview (fun asked => questions (asked + 1)) performance.console
      ((Dialogue.perform_accounts _ console).faultless h)
termination_by console.source.unread.length
decreasing_by
  rename_i answered
  exact length_unread_lt_of_answered h (Bool.eq_false_iff.mpr answered)

/-- What a line says is never that the input is closed, as long as there is a line. -/
theorem foundClosed_said_iff (octets : List UInt8) :
    foundClosed ((said (first octets)).map Reply.line) = true ↔ octets = [] := by
  rw [← Text.Line.said_first_eq_inputClosed_iff]
  cases said (first octets) with
  | ok text => simp [foundClosed, Except.map]
  | error interruption => cases interruption <;> simp [foundClosed, Except.map]

/-- What questions come to that are answered with each line of some octets in turn. -/
def lineReplies (octets : List UInt8) : List (Except Interruption Reply) :=
  (Text.Line.lines octets).map fun line => (said line).map Reply.line

/-- **Somebody who asks for lines is answered with each of them in turn**, and then the input is
closed. -/
theorem interview_eq (questions : Nat → String) (h : console.Faultless) :
    interview questions console h =
      lineReplies console.source.unread ++ [.error .inputClosed] := by
  fun_induction interview questions console h with
  | case1 questions console h performance closed =>
    obtain ⟨result, -⟩ := performed_question h (questions 0)
    rw [result, foundClosed_said_iff] at closed
    rw [result, closed, lineReplies, Text.Line.lines_nil]
    rfl
  | case2 questions console h performance answered ih =>
    obtain ⟨result, left⟩ := performed_question h (questions 0)
    rw [result, foundClosed_said_iff] at answered
    rw [ih, left, h.unread_asked, result, lineReplies, lineReplies,
      Text.Line.lines_of_ne_nil answered]
    rfl

/-- These are the replies that as many questions of a script come to. -/
theorem interview_eq_replies (questions : Nat → String) (h : console.Faultless) :
    interview questions console h =
      replies ((List.range (interview questions console h).length).map questions) console := by
  fun_induction interview questions console h with
  | case1 questions console h performance closed => rfl
  | case2 questions console h performance answered ih =>
    rw [List.length_cons, List.range_succ_eq_map, List.map_cons, List.map_map]
    exact congrArg (List.cons _) ih

theorem length_lineReplies (octets : List UInt8) :
    (lineReplies octets).length = Text.Line.countLines octets := by
  rw [lineReplies, List.length_map, Text.Line.length_lines]

/-- The lines of some octets come to an error exactly if the octets are no text. -/
theorem error_mem_lineReplies_iff {octets : List UInt8} {interruption : Interruption} :
    .error interruption ∈ lineReplies octets ↔
      interruption = .device .notText ∧ ¬ IsText octets := by
  have failed (line : List UInt8) (mem : line ∈ Text.Line.lines octets) :
      (said line).map Reply.line = .error interruption ↔
        interruption = .device .notText ∧ ¬ IsText line := by
    rw [← Text.Line.said_eq_error_iff (Text.Line.ne_nil_of_mem_lines mem)]
    cases said line <;> simp [Except.map]
  rw [Text.Line.isText_iff_forall_mem_lines, not_forall, lineReplies, List.mem_map]
  constructor
  · rintro ⟨line, mem, answered⟩
    obtain ⟨rfl, noText⟩ := (failed line mem).mp answered
    exact ⟨rfl, line, fun isText => noText (isText mem)⟩
  · rintro ⟨rfl, line, noText⟩
    obtain ⟨mem, noText⟩ := Classical.not_imp.mp noText
    exact ⟨line, mem, (failed line mem).mpr ⟨rfl, noText⟩⟩

/-- **Asking line by line finds what reading at once finds.**  On an input without faults, asking
until the input is closed comes to an end: there are as many answers as newlines in the input, and
one more if something stands behind the last of them, and then the question that finds it closed.
One of the answers is that something is no text exactly if the input as a whole is none, since a
newline stands between two texts wherever it stands in one. -/
theorem interview_withoutFaults (setup : Setup) (questions : Nat → String) :
    let console := setup.withoutFaults.console
    let heard := interview questions console (Console.faultless_withoutFaults setup)
    let lines := Text.Line.countLines setup.input
    heard = replies ((List.range (lines + 1)).map questions) console ∧
      (∃ answers, heard = answers ++ [.error .inputClosed] ∧ answers.length = lines ∧
        .error .inputClosed ∉ answers) ∧
      (.error (.device .notText) ∈ heard ↔ decode? setup.input = none) ∧
      ∀ a b, IsText (a ++ newline :: b) ↔ IsText a ∧ IsText b := by
  intro console heard lines
  have faultless : console.Faultless := Console.faultless_withoutFaults setup
  have answered : heard = lineReplies setup.input ++ [.error .inputClosed] := by
    rw [← Console.unread_withoutFaults setup]
    exact interview_eq questions faultless
  have length : heard.length = lines + 1 := by
    rw [answered, List.length_append, length_lineReplies]
    rfl
  refine ⟨?_, ⟨_, answered, length_lineReplies _, ?_⟩, ?_,
    Text.Utf8.isText_append_newline_append_iff⟩
  · rw [← length]
    exact interview_eq_replies questions faultless
  · rw [error_mem_lineReplies_iff]
    simp
  · rw [answered, List.mem_append, error_mem_lineReplies_iff, Text.Utf8.decode?_eq_none_iff]
    simp

end Script

end Walkthrough
