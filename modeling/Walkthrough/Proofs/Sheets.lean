import Walkthrough.Proofs.Faultless
import Walkthrough.Script

/-!
# Sheets

What is written line by line is read line by line.  A sheet holds texts, each with the terminator it
is written with, some of them smudged: garbage stands in their place.  Questions on a console whose
input is a sheet are answered with its texts in their order, except for the smudged ones, and
further questions find the input closed (`replies_sheet`).
-/

namespace Walkthrough.Script

open Text.Utf8 (encode IsText)
open Text.Line (Terminator newline first behind said)

/-- Octets that are no text and stay on one line. -/
structure Garbage where
  octets : List UInt8
  oneLine : newline ∉ octets
  noText : ¬ IsText octets

/-- A text on a line of its own, and how the line is written. -/
structure Line where
  text : String
  terminator : Terminator
  /-- what stands in the place of the text -/
  smudge : Option Garbage
  oneLine : '\n' ∉ text.toList
  /-- the terminator does not take the end of the text with it -/
  apart : terminator = .newline → text.toList.getLast? ≠ some '\r'

/-- A text at the end of the input, which no terminator follows. -/
structure OpenLine where
  text : String
  oneLine : '\n' ∉ text.toList
  nonempty : text ≠ ""

/-- Lines, and perhaps an open one behind them. -/
structure Sheet where
  lines : List Line
  last : Option OpenLine

namespace Line

/-- What stands in front of the terminator. -/
def content (line : Line) : List UInt8 :=
  match line.smudge with
  | none => encode line.text
  | some garbage => garbage.octets

/-- The octets of a line. -/
def octets (line : Line) : List UInt8 :=
  line.content ++ line.terminator.octets

/-- What a question that meets the line comes to. -/
def reply (line : Line) : Except Interruption Reply :=
  match line.smudge with
  | none => .ok (.line line.text)
  | some _ => .error (.device .notText)

theorem newline_notMem_content (line : Line) : newline ∉ line.content := by
  unfold content
  cases line.smudge with
  | none => exact Text.Line.newline_notMem_encode line.oneLine
  | some garbage => exact garbage.oneLine

/-- A line is cut off where it ends, whatever stands behind it. -/
theorem first_octets_append (line : Line) (rest : List UInt8) :
    first (line.octets ++ rest) = line.octets ∧ behind (line.octets ++ rest) = rest :=
  Text.Line.first_append_terminator line.newline_notMem_content line.terminator rest

theorem said_octets (line : Line) : (said line.octets).map Reply.line = line.reply := by
  unfold octets content reply
  cases line.smudge with
  | none =>
    rw [Text.Line.said_terminated line.apart]
    rfl
  | some garbage =>
    rw [Text.Line.said_terminated_of_not_isText garbage.noText]
    rfl

end Line

namespace Sheet

/-- The octets of a sheet. -/
def octets (sheet : Sheet) : List UInt8 :=
  sheet.lines.flatMap Line.octets ++ sheet.last.toList.flatMap fun line => encode line.text

/-- What the questions that meet the lines come to. -/
def replies (sheet : Sheet) : List (Except Interruption Reply) :=
  sheet.lines.map Line.reply ++ sheet.last.toList.map fun line => .ok (.line line.text)

end Sheet

/-- What questions come to that are asked one after the other. -/
def replies (questions : List String) (console : Console) : List (Except Interruption Reply) :=
  (run (questions.map .question) console).map (·.result)

variable {console : Console}

/-- A question in a script without a fault is answered with what the next line says, and the console
is left behind that line. -/
theorem performed_question (h : console.Faultless) (question : String) :
    ((Step.question question).dialogue.perform console).result =
        (said (first console.source.unread)).map Reply.line ∧
      ((Step.question question).dialogue.perform console).console = console.asked question := by
  change (((Dialogue.ask question).bind fun line => .done (Reply.line line)).perform console).result
      = _ ∧ (((Dialogue.ask question).bind fun line => .done (Reply.line line)).perform
        console).console = _
  rw [h.perform_ask_bind]
  cases said (first console.source.unread) <;> exact ⟨rfl, rfl⟩

/-- One question takes one line and leaves the rest to those that follow. -/
theorem replies_cons (h : console.Faultless) (question : String) (questions : List String) :
    replies (question :: questions) console =
      (said (first console.source.unread)).map Reply.line ::
        replies questions (console.asked question) := by
  obtain ⟨result, left⟩ := performed_question h question
  simp only [replies, List.map_cons, run, result, left]

/-- Where nothing is left every question finds the input closed. -/
theorem replies_of_unread_eq_nil (h : console.Faultless) (empty : console.source.unread = [])
    (questions : List String) :
    replies questions console = questions.map fun _ => .error .inputClosed := by
  induction questions generalizing console with
  | nil => rfl
  | cons question questions ih =>
    have left : (console.asked question).source.unread = [] := by
      rw [h.unread_asked, empty]
      rfl
    rw [replies_cons h, empty, ih (h.asked question) left]
    rfl

/-- Questions that take the lines in front of the input leave a console with the rest of it. -/
theorem exists_replies_lines (h : console.Faultless) (lines : List Line) (rest : List UInt8)
    (unread : console.source.unread = lines.flatMap Line.octets ++ rest)
    (questions : List String) (count : questions.length = lines.length) :
    ∃ left : Console, left.Faultless ∧ left.source.unread = rest ∧ ∀ further,
      replies (questions ++ further) console = lines.map Line.reply ++ replies further left := by
  induction lines generalizing console questions with
  | nil =>
    obtain rfl := List.eq_nil_of_length_eq_zero count
    exact ⟨console, h, unread, fun _ => rfl⟩
  | cons line lines ih =>
    obtain ⟨question, questions, rfl⟩ := List.exists_cons_of_length_eq_add_one count
    rw [List.flatMap_cons, List.append_assoc] at unread
    obtain ⟨taken, behindLine⟩ := line.first_octets_append (lines.flatMap Line.octets ++ rest)
    -- the answer to this question takes exactly its own line, garbage or not
    have next : (console.asked question).source.unread = lines.flatMap Line.octets ++ rest := by
      rw [h.unread_asked, unread, behindLine]
    obtain ⟨left, faultless, unreadLeft, later⟩ :=
      ih (h.asked question) next questions (Nat.succ.inj count)
    refine ⟨left, faultless, unreadLeft, fun further => ?_⟩
    rw [List.cons_append, replies_cons h, unread, taken, line.said_octets, later, List.map_cons,
      List.cons_append]

theorem replies_of_unread_eq_octets (h : console.Faultless) (sheet : Sheet)
    (unread : console.source.unread = sheet.octets) (questions further : List String)
    (count : questions.length = sheet.lines.length + sheet.last.toList.length) :
    replies (questions ++ further) console =
      sheet.replies ++ further.map fun _ => .error .inputClosed := by
  obtain ⟨lines, last⟩ := sheet
  cases last with
  | none =>
    have even : questions.length = lines.length := by simpa using count
    obtain ⟨left, faultless, unreadLeft, later⟩ :=
      exists_replies_lines h lines [] (by simpa [Sheet.octets] using unread) questions even
    rw [later, replies_of_unread_eq_nil faultless unreadLeft]
    simp [Sheet.replies]
  | some line =>
    -- one question more than there are ended lines: the last one meets the open line
    have longer : questions.length = lines.length + 1 := by simpa using count
    obtain rfl | ⟨questions, question, rfl⟩ := List.eq_nil_or_concat questions
    · cases longer
    have even : questions.length = lines.length := by simpa using longer
    obtain ⟨left, faultless, unreadLeft, later⟩ :=
      exists_replies_lines h lines (encode line.text) (by simpa [Sheet.octets] using unread)
        questions even
    have notMem := Text.Line.newline_notMem_encode line.oneLine
    have closed : (left.asked question).source.unread = [] := by
      rw [faultless.unread_asked, unreadLeft, Text.Line.behind_of_notMem notMem]
    rw [List.concat_append, later, replies_cons faultless, unreadLeft,
      Text.Line.first_of_notMem notMem, Text.Line.said_open line.oneLine line.nonempty,
      replies_of_unread_eq_nil (faultless.asked question) closed]
    simp [Sheet.replies, Except.map]

/-- **What is written line by line is read line by line**: on input that a sheet was written to, as
many questions as it has lines are answered with their texts, the smudged ones apart, and every
further question finds the input closed. -/
theorem replies_sheet (setup : Setup) (sheet : Sheet) (questions further : List String)
    (count : questions.length = sheet.lines.length + sheet.last.toList.length) :
    replies (questions ++ further) { setup with input := sheet.octets }.withoutFaults.console =
      sheet.replies ++ further.map fun _ => .error .inputClosed :=
  replies_of_unread_eq_octets (Console.faultless_withoutFaults _) sheet
    (Console.unread_withoutFaults _) questions further count

/-- A text that keeps its carriage return, an empty one, a smudged one, one behind it, and an open
line. -/
def smudgedSheet : Sheet where
  lines := [
    ⟨"Ada\r", .returnNewline, none, by decide, by decide⟩,
    ⟨"", .newline, none, by decide, by decide⟩,
    ⟨"Zoe", .newline, some ⟨[0xff, 13], by decide, Text.Utf8.decode?_eq_none_iff.mp (by decide)⟩,
      by decide, by decide⟩,
    ⟨"é", .newline, none, by decide, by decide⟩]
  last := some ⟨"42\r", by decide, by decide⟩

theorem replies_smudgedSheet :
    ["1?", "2?", "3?", "4?", "5?"].length =
        smudgedSheet.lines.length + smudgedSheet.last.toList.length ∧
      replies (["1?", "2?", "3?", "4?", "5?"] ++ ["6?", "7?"])
          (Setup.faultless smudgedSheet.octets).withoutFaults.console =
        [.ok (.line "Ada\r"), .ok (.line ""), .error (.device .notText), .ok (.line "é"),
          .ok (.line "42\r"), .error .inputClosed, .error .inputClosed] :=
  ⟨rfl, replies_sheet (.faultless []) smudgedSheet _ _ rfl⟩

end Walkthrough.Script
