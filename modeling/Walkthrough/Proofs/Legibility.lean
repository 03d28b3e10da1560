import Walkthrough.Proofs.Disclosure
import Walkthrough.Proofs.Success

/-!
# What is reported stays legible

What a person types comes back in the reports of a call only in quotes, with every character
escaped that is not seen or that moves what is seen (`legible_quote`).  So nobody can forge a
report: the error output of a call is made of complete lines, one for each report that the filter
shows and then those about the failure.  How many there are is known from how far the tour came and
how it ended, and each of them is legible from end to end (`stderr_run_plain`).
-/

namespace Walkthrough

open Dialogue (linesText)

/-! ## Legible texts -/

namespace Text

/-- Whether a character is seen where it stands and leaves everything else in its place. -/
def isLegible (c : Char) : Bool :=
  !isUnprintable c && !(c == '\t' || c == '\n' || c == '\r' || c == '\x00')

/-- A text of which every character is legible; so it is on one line. -/
def Legible (text : String) : Prop :=
  ∀ c ∈ text.toList, isLegible c = true

/-- A text of printable ASCII characters. -/
def Plain (text : String) : Prop :=
  ∀ c ∈ text.toList, 32 ≤ c.toNat ∧ c.toNat ≤ 126

-- the test runs over the text, not over all characters
instance (text : String) : Decidable (Plain text) :=
  List.decidableBAll (fun c : Char => 32 ≤ c.toNat ∧ c.toNat ≤ 126) text.toList

theorem isLegible_iff {c : Char} :
    isLegible c = true ↔
      isUnprintable c = false ∧ c ≠ '\t' ∧ c ≠ '\n' ∧ c ≠ '\r' ∧ c ≠ '\x00' := by
  simp [isLegible, and_assoc]

/-- No printable ASCII character is escaped by number. -/
theorem isUnprintable_of_ascii {c : Char} (low : 32 ≤ c.toNat) (high : c.toNat ≤ 126) :
    isUnprintable c = false := by
  have apart : ∀ span ∈ unprintables, span.last < 32 ∨ 126 < span.first := by decide +kernel
  apply Bool.eq_false_iff.mpr
  intro listed
  obtain ⟨span, mem, first, last⟩ := (liesIn_iff unprintables c).mp listed
  rcases apart span mem with before | after <;> omega

theorem isLegible_of_ascii {c : Char} (low : 32 ≤ c.toNat) (high : c.toNat ≤ 126) :
    isLegible c = true := by
  refine isLegible_iff.mpr ⟨isUnprintable_of_ascii low high, ?_, ?_, ?_, ?_⟩ <;>
  · rintro rfl
    revert low
    decide

theorem Plain.legible {text : String} (h : Plain text) : Legible text := by
  intro c mem
  exact isLegible_of_ascii (h c mem).1 (h c mem).2

theorem Legible.append {a b : String} (ha : Legible a) (hb : Legible b) : Legible (a ++ b) := by
  intro c mem
  rw [String.toList_append, List.mem_append] at mem
  rcases mem with front | back
  · exact ha c front
  · exact hb c back

theorem Legible.spaced {a b : String} (ha : Legible a) (hb : Legible b) :
    Legible (a ++ " " ++ b) := by
  have space : Plain " " := by decide
  exact (ha.append space.legible).append hb

theorem Legible.newline_notMem {text : String} (h : Legible text) : '\n' ∉ text.toList := by
  intro mem
  exact (isLegible_iff.mp (h _ mem)).2.2.1 rfl

/-! ## Numbers and quoted texts -/

/-- The digits of a number are ASCII, up to base sixteen. -/
theorem ascii_of_mem_toDigits {base : Nat} (two : 1 < base) (sixteen : base ≤ 16) (n : Nat) :
    ∀ c ∈ Nat.toDigits base n, 32 ≤ c.toNat ∧ c.toNat ≤ 126 := by
  have digit (k : Nat) (small : k < base) :
      32 ≤ (Nat.digitChar k).toNat ∧ (Nat.digitChar k).toNat ≤ 126 := by
    have all : ∀ k : Fin 16, 32 ≤ (Nat.digitChar k).toNat ∧ (Nat.digitChar k).toNat ≤ 126 := by
      decide
    exact all ⟨k, Nat.lt_of_lt_of_le small sixteen⟩
  induction n using Nat.strongRecOn with
  | ind n ih =>
    intro c mem
    rw [Nat.toDigits_eq_if two] at mem
    split at mem
    · rename_i small
      obtain rfl := List.mem_singleton.mp mem
      exact digit n small
    · rename_i large
      rcases List.mem_append.mp mem with front | last
      · exact ih (n / base) (Nat.div_lt_self (by omega) two) c front
      · obtain rfl := List.mem_singleton.mp last
        exact digit (n % base) (Nat.mod_lt n (by omega))

theorem plain_ofInt (z : Int) : Plain (Decimal.ofInt z) := by
  have digits := ascii_of_mem_toDigits (by decide : 1 < 10) (by decide) z.natAbs
  intro c mem
  rw [Decimal.ofInt, String.toList_ofList] at mem
  split at mem
  · rcases List.mem_cons.mp mem with rfl | digit
    · decide
    · exact digits c digit
  · exact digits c mem

/-- **An escaped character is legible**, whatever it is. -/
theorem isLegible_of_mem_escape {c d : Char} (h : d ∈ Quoted.escape c) : isLegible d = true := by
  unfold Quoted.escape at h
  cases short : Quoted.shortEscape? c with
  | some letter =>
    have ascii : 32 ≤ letter.toNat ∧ letter.toNat ≤ 126 := by
      unfold Quoted.shortEscape? at short
      split at short <;> cases short <;> decide
    rw [short] at h
    rcases List.mem_cons.mp h with rfl | mem
    · exact isLegible_of_ascii (by decide) (by decide)
    · obtain rfl := List.mem_singleton.mp mem
      exact isLegible_of_ascii ascii.1 ascii.2
  | none =>
    rw [short] at h
    by_cases hidden : isUnprintable c = true
    · rw [if_pos hidden] at h
      have digits := ascii_of_mem_toDigits (by decide : 1 < 16) (by decide) c.toNat
      simp only [Quoted.numbered, List.mem_cons, List.mem_append, List.not_mem_nil,
        or_false] at h
      rcases h with rfl | rfl | rfl | digit | rfl
      · exact isLegible_of_ascii (by decide) (by decide)
      · exact isLegible_of_ascii (by decide) (by decide)
      · exact isLegible_of_ascii (by decide) (by decide)
      · exact isLegible_of_ascii (digits d digit).1 (digits d digit).2
      · exact isLegible_of_ascii (by decide) (by decide)
    · rw [if_neg hidden] at h
      obtain rfl := List.mem_singleton.mp h
      -- a character that would move others has a short escape
      refine isLegible_iff.mpr ⟨Bool.eq_false_iff.mpr hidden, ?_, ?_, ?_, ?_⟩ <;>
      · rintro rfl
        cases short

theorem legible_quote (text : String) : Legible (Quoted.quote text) := by
  intro c mem
  rw [Quoted.quote, String.toList_ofList, Quoted.encode] at mem
  rcases List.mem_cons.mp mem with rfl | inside
  · exact isLegible_of_ascii (by decide) (by decide)
  · rcases List.mem_append.mp inside with escaped | last
    · obtain ⟨d, -, escaped⟩ := List.mem_flatMap.mp escaped
      exact isLegible_of_mem_escape escaped
    · obtain rfl := List.mem_singleton.mp last
      exact isLegible_of_ascii (by decide) (by decide)

/-- A text on one line is set in as one line. -/
theorem indent_of_newline_notMem {text : String} (h : '\n' ∉ text.toList) :
    Diagnostics.indent text = "    " ++ text := by
  have plain : text.toList.flatMap (fun c => if c = '\n' then c :: Diagnostics.margin else [c]) =
      text.toList.flatMap fun c => [c] :=
    List.flatMap_congr fun c mem => if_neg (ne_of_mem_of_not_mem mem h)
  rw [← String.toList_inj, Diagnostics.toList_indent, plain, List.flatMap_singleton',
    String.toList_append]
  rfl

/-! ## Texts made of lines -/

theorem toList_linesText (lines : List String) :
    (linesText lines).toList = lines.flatMap fun line => line.toList ++ ['\n'] := by
  induction lines with
  | nil => rfl
  | cons line lines ih =>
    rw [List.flatMap_cons, ← ih]
    simp [linesText]

theorem linesText_append (front back : List String) :
    linesText (front ++ back) = linesText front ++ linesText back := by
  rw [← String.toList_inj, String.toList_append]
  simp only [toList_linesText, List.flatMap_append]

theorem join_map_newline (lines : List String) :
    String.join (lines.map (· ++ "\n")) = linesText lines := by
  induction lines with
  | nil => rfl
  | cons line lines ih =>
    rw [List.map_cons, String.join_cons, ih]
    rfl

/-- A text made of legible lines is legible but for the newlines that end its lines. -/
theorem eq_newline_or_isLegible {lines : List String} (h : ∀ line ∈ lines, Legible line) {c : Char}
    (mem : c ∈ (linesText lines).toList) : c = '\n' ∨ isLegible c = true := by
  rw [toList_linesText] at mem
  obtain ⟨line, listed, inside⟩ := List.mem_flatMap.mp mem
  rcases List.mem_append.mp inside with content | terminator
  · exact .inr (h line listed c content)
  · exact .inl (List.mem_singleton.mp terminator)

/-- Legible lines are as many as the newlines of their text. -/
theorem count_newline_linesText {lines : List String} (h : ∀ line ∈ lines, Legible line) :
    (linesText lines).toList.count '\n' = lines.length := by
  have one : ∀ line ∈ lines, (line.toList ++ ['\n']).count '\n' = 1 := by
    intro line mem
    rw [List.count_append, List.count_eq_zero.mpr (h line mem).newline_notMem]
    rfl
  rw [toList_linesText, List.count_flatMap]
  refine (congrArg List.sum (List.map_congr_left one)).trans ?_
  simp

end Text

open Text (Legible Plain)
open Diagnostics (Entry Filter)
open Tour (Stage)

/-! ## How a tour ends, and what it reports until then -/

namespace Tour

/-- How a tour ends. -/
inductive Ending where
  /-- with the farewell -/
  | completed
  /-- with an answer that is no age -/
  | rejected
  /-- where no line was left -/
  | closed
  /-- with the failure of a device -/
  | failed
deriving DecidableEq

/-- The ending that a result tells of. -/
def Ending.of : Except Interruption Unit → Ending
  | .ok () => .completed
  | .error (.ageRejected _ _) => .rejected
  | .error .inputClosed => .closed
  | .error (.device _) => .failed

/-- The number of lines about a failure. -/
def Ending.lines : Ending → Nat
  | completed => 0
  | rejected => 1
  | closed => 1
  | failed => 4

/-- The number of reports without urgency up to a stage. -/
def Stage.reports : Stage → Nat
  | unnamed => 1
  | named => 2
  | classified => 4

/-- The number of lines in the error output, by what is shown of warnings and of what is less
urgent, by the stage that is reached, and by the ending. -/
def reportedLines (warnings details : Bool) (stage : Stage) (ending : Ending) : Nat :=
  (if details then stage.reports else 0) + (if warnings ∧ ending = .rejected then 1 else 0) +
    ending.lines

/-- What a tour on which no device fails reports, by the stage that it reaches and by its result. -/
inductive Reports : Stage → Except Interruption Unit → List Entry → Prop
  /-- no line of text was left for the name -/
  | unnamed {interruption : Interruption}
      (mute : interruption = .inputClosed ∨ interruption = .device .notText) :
      Reports .unnamed (.error interruption) [.started]
  /-- no line of text was left for the age -/
  | unanswered (guest : Bool) {interruption : Interruption}
      (mute : interruption = .inputClosed ∨ interruption = .device .notText) :
      Reports .named (.error interruption) [.started, .nameRead guest]
  /-- what was left is no age -/
  | rejected (guest : Bool) (answer : String) (defect : Age.Defect) :
      Reports .named (.error (.ageRejected answer defect.reason))
        [.started, .nameRead guest, .ageRejected (.ageRejected answer defect.reason)]
  | completed (guest : Bool) (age : Age) :
      Reports .classified (.ok ())
        [.started, .nameRead guest, .ageClassified age age.bracket, .finished]

end Tour

open Tour (Ending Reports reportedLines)

/-- A line that says nothing was closed or is no text. -/
theorem Text.Line.mute_of_said {line : List UInt8} {interruption : Interruption}
    (h : said line = .error interruption) :
    interruption = .inputClosed ∨ interruption = .device .notText := by
  by_cases empty : line = []
  · rw [empty, said_nil] at h
    exact .inl (Except.error.inj h).symm
  · exact .inr ((said_eq_error_iff empty).mp h).1

/-- **What is reported on a console without a fault.** -/
theorem Console.Faultless.reports {console : Console} (h : console.Faultless) :
    Reports console.source.progress.stage (Tour.dialogue.perform console).result
      (Tour.dialogue.perform console).trace.entries := by
  have whole := h.transcript_perform
  have result : (Tour.dialogue.perform console).result =
      (Transcript.of console.source.unread).result := congrArg Transcript.result whole
  have trace : (Tour.dialogue.perform console).trace =
      (Transcript.of console.source.unread).trace := congrArg Transcript.trace whole
  rw [result, trace]
  simp only [Transcript.of, Source.progress, h.listen_eq, h.listen_advance_eq]
  cases heard : Text.Line.said (Text.Line.first console.source.unread) with
  | error interruption => exact .unnamed (Text.Line.mute_of_said heard)
  | ok name =>
    simp only
    cases answered : Text.Line.said
        (Text.Line.first (Text.Line.behind console.source.unread)) with
    | error interruption => exact .unanswered _ (Text.Line.mute_of_said answered)
    | ok answer =>
      simp only [Tour.ageOf]
      cases Age.read answer with
      | error defect => exact .rejected _ answer defect
      | ok age => exact .completed _ age

/-! ## Every report is legible -/

theorem Age.Defect.plain_reason (defect : Age.Defect) : Plain defect.reason := by
  cases defect with
  | unreadable defect => cases defect <;> decide
  | empty | notANumber | misplacedSeparator => decide

theorem legible_message_ageRejected (answer : String) (defect : Age.Defect) :
    Legible (Interruption.ageRejected answer defect.reason).message := by
  have front : Plain "invalid literal for integer age: " := by decide
  have opened : Plain " (" := by decide
  have closed : Plain ")" := by decide
  exact (((front.legible.append (Text.legible_quote answer)).append opened.legible).append
    defect.plain_reason.legible).append closed.legible

theorem legible_text_ageClassified (age : Age) (bracket : Bracket) :
    Legible (Entry.ageClassified age bracket).text := by
  have front : Plain "age classified age=" := by decide
  have between : Plain " bracket=" := by decide
  have name : Plain bracket.name := by cases bracket <;> decide
  exact ((front.legible.append (Text.plain_ofInt _).legible).append between.legible).append
    name.legible

theorem plain_label (level : Diagnostics.Level) : Plain level.label := by
  cases level <;> decide

theorem legible_line {entry : Entry} (h : Legible entry.text) : Legible entry.line :=
  (plain_label entry.level).legible.spaced h

/-- The lines about the failure that a result tells of: its wording, and below it what lies behind
the failure of a device. -/
def closingLines : Except Interruption Unit → List String
  | .ok () => []
  | .error (.device error) =>
    ["Error: " ++ (Interruption.device error).message, "", "Caused by:", "    " ++ error.text]
  | .error interruption => ["Error: " ++ interruption.message]

namespace Tour.Reports

variable {stage : Stage} {result : Except Interruption Unit} {entries : List Entry}

/-- **Whatever is typed, the reports are legible.** -/
theorem legible_entries (h : Reports stage result entries) :
    ∀ entry ∈ entries, Legible entry.line := by
  have started : Plain Entry.started.text := by decide
  have nameRead (guest : Bool) : Plain (Entry.nameRead guest).text := by
    cases guest <;> decide
  have finished : Plain Entry.finished.text := by decide
  intro entry mem
  apply legible_line
  cases h with
  | unnamed mute =>
    obtain rfl := List.mem_singleton.mp mem
    exact started.legible
  | unanswered guest mute =>
    simp only [List.mem_cons, List.not_mem_nil, or_false] at mem
    rcases mem with rfl | rfl
    · exact started.legible
    · exact (nameRead guest).legible
  | rejected guest answer defect =>
    simp only [List.mem_cons, List.not_mem_nil, or_false] at mem
    rcases mem with rfl | rfl | rfl
    · exact started.legible
    · exact (nameRead guest).legible
    · have front : Plain "age rejected error=" := by decide
      exact front.legible.append (legible_message_ageRejected answer defect)
  | completed guest age =>
    simp only [List.mem_cons, List.not_mem_nil, or_false] at mem
    rcases mem with rfl | rfl | rfl | rfl
    · exact started.legible
    · exact (nameRead guest).legible
    · exact legible_text_ageClassified age age.bracket
    · exact finished.legible

/-- Whatever is typed, the lines about the failure are legible. -/
theorem legible_closingLines (h : Reports stage result entries) :
    ∀ line ∈ closingLines result, Legible line := by
  have mute {interruption : Interruption}
      (mute : interruption = .inputClosed ∨ interruption = .device .notText) :
      ∀ line ∈ closingLines (.error interruption), Legible line := by
    have plain : ∀ line ∈ closingLines (.error interruption), Plain line := by
      rcases mute with rfl | rfl <;> decide
    exact fun line mem => (plain line mem).legible
  cases h with
  | unnamed silent | unanswered _ silent => exact mute silent
  | rejected guest answer defect =>
    intro line mem
    obtain rfl := List.mem_singleton.mp mem
    have front : Plain "Error: " := by decide
    exact front.legible.append (legible_message_ageRejected answer defect)
  | completed guest age => exact fun _ mem => absurd mem List.not_mem_nil

/-- The reports that are shown and the lines about the failure are as many as the stage and the
ending say. -/
theorem length_shown (h : Reports stage result entries) (shows : Diagnostics.Level → Bool) :
    (entries.filter fun entry => shows entry.level).length + (closingLines result).length =
      reportedLines (shows .warn) (shows .debug) stage (.of result) := by
  have mute {interruption : Interruption}
      (mute : interruption = .inputClosed ∨ interruption = .device .notText) :
      (closingLines (.error interruption)).length = (Ending.of (.error interruption)).lines ∧
        Ending.of (.error interruption) ≠ .rejected := by
    rcases mute with rfl | rfl <;> decide
  cases h with
  | unnamed silent | unanswered _ silent =>
    obtain ⟨lines, other⟩ := mute silent
    cases details : shows .debug <;>
      simp [reportedLines, Stage.reports, Entry.level, details, lines, other]
  | rejected guest answer defect =>
    cases details : shows .debug <;> cases warnings : shows .warn <;>
      simp [reportedLines, Stage.reports, Entry.level, details, warnings, closingLines, Ending.of,
        Ending.lines]
  | completed guest age =>
    cases details : shows .debug <;>
      simp [reportedLines, Stage.reports, Entry.level, details, closingLines, Ending.of,
        Ending.lines]

end Tour.Reports

/-! ## The error output -/

namespace CommandLine

/-- The report of an interruption is made of its closing lines, if these are lines indeed. -/
theorem interruptionReport_eq {interruption : Interruption}
    (h : ∀ line ∈ closingLines (.error interruption), Legible line) :
    interruptionReport interruption = linesText (closingLines (.error interruption)) := by
  have single (line : String) : linesText [line] = line ++ "\n" := String.append_empty
  cases interruption with
  | ageRejected input reason => exact (single _).symm
  | inputClosed => exact (single _).symm
  | device error =>
    have heading : "\n\nCaused by:\n" = "\n" ++ linesText ["", "Caused by:"] := by decide
    have last : Legible ("    " ++ error.text) := h _ (by simp [closingLines])
    have inset : Diagnostics.indent error.text = "    " ++ error.text := by
      apply Text.indent_of_newline_notMem
      intro mem
      exact last.newline_notMem (by simp [mem])
    have parts (first last : String) : linesText [first, "", "Caused by:", last] =
        linesText [first] ++ linesText ["", "Caused by:"] ++ linesText [last] := by
      rw [← Text.linesText_append, ← Text.linesText_append]
      rfl
    rw [closingLines, parts, single, single]
    simp only [interruptionReport, Diagnostics.failureReport, Interruption.cause?, heading, inset,
      String.append_assoc]

/-- The lines of the error output of a tour: the reports that are shown, and those about the
failure. -/
def errorLines (filter : Filter) (stamp : String) (entries : List Entry)
    (result : Except Interruption Unit) : List String :=
  ((entries.filter fun entry => filter.shows logTarget entry.level).map fun entry =>
    stamp ++ " " ++ entry.line) ++ closingLines result

section Reports

variable {stage : Stage} {result : Except Interruption Unit} {entries : List Entry}
variable (h : Reports stage result entries) (filter : Filter)

include h

theorem legible_errorLines {stamp : String} (stamped : Legible stamp) :
    ∀ line ∈ errorLines filter stamp entries result, Legible line := by
  intro line mem
  rcases List.mem_append.mp mem with reported | closing
  · obtain ⟨entry, shown, rfl⟩ := List.mem_map.mp reported
    exact stamped.spaced (h.legible_entries entry (List.mem_filter.mp shown).1)
  · exact h.legible_closingLines line closing

theorem length_errorLines (stamp : String) :
    (errorLines filter stamp entries result).length = reportedLines (filter.shows logTarget .warn)
      (filter.shows logTarget .debug) stage (.of result) := by
  rw [errorLines, List.length_append, List.length_map]
  exact h.length_shown (filter.shows logTarget)

/-- What a performed tour leaves in the error output is made of these lines. -/
theorem stderr_ofPerformance {performance : Performance Unit} (stamp : String)
    (ended : performance.result = result) (reported : performance.trace.entries = entries) :
    (Departure.ofPerformance filter stamp performance).stderr =
      linesText (errorLines filter stamp entries result) := by
  have log : String.join (shownLog filter stamp entries) =
      linesText ((entries.filter fun entry => filter.shows logTarget entry.level).map fun entry =>
        stamp ++ " " ++ entry.line) := by
    rw [← Text.join_map_newline, List.map_map]
    rfl
  rw [errorLines, Text.linesText_append, ← log, Departure.ofPerformance, ended, reported]
  cases result with
  | ok done => exact (String.append_empty).symm
  | error interruption =>
    rw [← interruptionReport_eq h.legible_closingLines]

end Reports

/-- **The error output of a call without arguments cannot be forged.**  Whatever the input is and
whatever the log is set to, the error output consists of complete lines: one for each report that
is shown, and behind them none after a success, one if the age was rejected or the input was
closed, and four if the input is no text.  How many there are depends on the stage that was reached,
on the ending, and on whether warnings and less urgent reports are shown, but on nothing else that
was typed.  Every one of them is legible from end to end. -/
theorem stderr_run_plain (stdin : List UInt8) (setting : Option String) {stamp : String}
    (stamped : Legible stamp) :
    let departure := (Invocation.plain stdin setting).run stamp
    let tour := (Setup.faultless stdin).tour
    let filter := Filter.ofSetting setting
    let lines := errorLines filter stamp tour.trace.entries tour.result
    departure.stderr = linesText lines ∧
      departure.exitCode = (if Ending.of tour.result = .completed then 0 else 1) ∧
      (∀ line ∈ lines, Legible line) ∧
      lines.length = reportedLines (filter.shows logTarget .warn) (filter.shows logTarget .debug)
        (Setup.faultless stdin).progress.stage (Ending.of tour.result) ∧
      departure.stderr.toList.count '\n' = lines.length ∧
      ∀ c ∈ departure.stderr.toList, c = '\n' ∨
        (Text.isUnprintable c = false ∧ c ≠ '\t' ∧ c ≠ '\r' ∧ c ≠ '\x00') := by
  intro departure tour filter lines
  have reports : Reports (Setup.faultless stdin).progress.stage tour.result tour.trace.entries := by
    have free := Console.faultless_withoutFaults (Setup.faultless stdin)
    rw [Setup.withoutFaults_faultless] at free
    exact free.reports
  have legible : ∀ line ∈ lines, Legible line := legible_errorLines reports filter stamped
  have stderr : departure.stderr = linesText lines :=
    stderr_ofPerformance reports filter stamp rfl rfl
  refine ⟨stderr, ?_, legible, length_errorLines reports filter stamp, ?_, ?_⟩
  · have departed : departure = .ofPerformance filter stamp tour := rfl
    rw [departed, Departure.ofPerformance]
    rcases tour.result with (_ | _ | _) | _ <;> rfl
  · rw [stderr]
    exact Text.count_newline_linesText legible
  · intro c mem
    rw [stderr] at mem
    rcases Text.eq_newline_or_isLegible legible mem with ended | seen
    · exact .inl ended
    · obtain ⟨printable, tab, -, returned, null⟩ := Text.isLegible_iff.mp seen
      exact .inr ⟨printable, tab, returned, null⟩

/-- A name that would wipe the screen and an age that would turn the line around and forge a report
change nothing: with all details shown there are four lines. -/
theorem stderr_run_plain_forged :
    let stdin := Text.Utf8.encode "\u001b[2J\rguest\n7\t\u202e\rERROR session lost\n"
    let stderr := ((Invocation.plain stdin (some "debug")).run "2025-11-19T02:45:00.000000Z").stderr
    Legible "2025-11-19T02:45:00.000000Z" ∧ stderr.toList.count '\n' = 4 ∧
      ∀ c ∈ stderr.toList, c = '\n' ∨
        (Text.isUnprintable c = false ∧ c ≠ '\t' ∧ c ≠ '\r' ∧ c ≠ '\x00') := by
  intro stdin stderr
  have stamped : Legible "2025-11-19T02:45:00.000000Z" := by
    have plain : Plain "2025-11-19T02:45:00.000000Z" := by decide
    exact plain.legible
  obtain ⟨-, -, -, length, count, seen⟩ := stderr_run_plain stdin (some "debug") stamped
  refine ⟨stamped, ?_, seen⟩
  rw [count, length]
  decide +kernel

/-- A sound mark that was typed for an age is reported as it is, although it extends the character
before it. -/
theorem stderr_run_plain_soundMark :
    let stderr := ((Invocation.plain (Text.Utf8.encode "x\n\uff9f\n") none).run "").stderr
    Text.isUnprintableOrExtending '\uff9f' = true ∧ '\uff9f' ∈ stderr.toList ∧
      ¬ ∀ c ∈ stderr.toList, c = '\n' ∨ Text.isUnprintableOrExtending c = false := by
  intro stderr
  have listed : Text.isUnprintableOrExtending '\uff9f' = true := by decide +kernel
  have typed : '\uff9f' ∈ stderr.toList := by decide +kernel
  refine ⟨listed, typed, fun legible => ?_⟩
  rcases legible _ typed with newline | other
  · exact absurd newline (by decide)
  · rw [listed] at other
    cases other

end CommandLine

end Walkthrough
