import Walkthrough.Console.Source
import Walkthrough.Proofs.Utf8

/-!
# Lines as octets

The first line of some octets, what lies behind it, and what a line says once its terminator is
gone, all told on the octets alone.  A reader that comes to the end of its input without a failure
cuts lines this way (`split_eq`) and answers with what they say (`answer_none`).  Main statements on
the text that a line carries: its octets are those of the line without the terminator
(`encode_chomp`), and a text that is written with a terminator, or as the rest of the input, is what
the line says (`said_terminated`, `said_open`).
-/

namespace Walkthrough.Text.Line

open Utf8 (encode decode? octetOf IsText)

/-- The octet that may stand in front of a newline and is then part of the terminator. -/
def carriageReturn : UInt8 := 13

theorem octetOf_newline : octetOf '\n' = newline := rfl

theorem octetOf_carriageReturn : octetOf '\r' = carriageReturn := rfl

/-- The octets up to and with the first newline, or all of them where there is none. -/
def first (octets : List UInt8) : List UInt8 :=
  octets.takeWhile (· != newline) ++ (octets.dropWhile (· != newline)).take 1

/-- What lies behind the first line. -/
def behind (octets : List UInt8) : List UInt8 :=
  (octets.dropWhile (· != newline)).drop 1

/-- A line without its terminator: without the newline and, only in front of a newline, one carriage
return. -/
def body (line : List UInt8) : List UInt8 :=
  if line.getLast? = some newline then
    if line.dropLast.getLast? = some carriageReturn then line.dropLast.dropLast
    else line.dropLast
  else line

/-- What a line says.  One without octets is none, and one that is no text says nothing. -/
def said (line : List UInt8) : Except Interruption String :=
  if line = [] then .error .inputClosed
  else
    match decode? line, decode? (body line) with
    | some _, some text => .ok text
    | _, _ => .error (.device .notText)

/-! ## Cutting off a line -/

theorem first_append_behind (octets : List UInt8) : first octets ++ behind octets = octets := by
  rw [first, behind, List.append_assoc, List.take_append_drop, List.takeWhile_append_dropWhile]

theorem length_first_add_length_behind (octets : List UInt8) :
    (first octets).length + (behind octets).length = octets.length := by
  rw [← List.length_append, first_append_behind]

theorem bne_newline_of_notMem {octets : List UInt8} (h : newline ∉ octets) :
    ∀ octet ∈ octets, (octet != newline) = true := by
  intro octet mem
  rw [bne_iff_ne]
  exact fun same => h (same ▸ mem)

theorem first_of_notMem {octets : List UInt8} (h : newline ∉ octets) : first octets = octets := by
  have all := bne_newline_of_notMem h
  rw [first, ← List.append_nil octets, List.takeWhile_append_of_pos all,
    List.dropWhile_append_of_pos all]
  simp

theorem behind_of_notMem {octets : List UInt8} (h : newline ∉ octets) : behind octets = [] := by
  have all := bne_newline_of_notMem h
  rw [behind, ← List.append_nil octets, List.dropWhile_append_of_pos all]
  rfl

theorem first_append_newline {octets : List UInt8} (h : newline ∉ octets) (rest : List UInt8) :
    first (octets ++ newline :: rest) = octets ++ [newline] := by
  have all := bne_newline_of_notMem h
  rw [first, List.takeWhile_append_of_pos all, List.dropWhile_append_of_pos all]
  simp

theorem behind_append_newline {octets : List UInt8} (h : newline ∉ octets) (rest : List UInt8) :
    behind (octets ++ newline :: rest) = rest := by
  have all := bne_newline_of_notMem h
  rw [behind, List.dropWhile_append_of_pos all]
  simp

/-- Octets have a newline behind a stretch without one, or none at all. -/
theorem exists_newline_or_notMem (octets : List UInt8) :
    (∃ before rest, newline ∉ before ∧ octets = before ++ newline :: rest) ∨ newline ∉ octets := by
  by_cases mem : newline ∈ octets
  · obtain ⟨before, rest, whole, notMem⟩ := List.eq_append_cons_of_mem mem
    exact .inl ⟨before, rest, notMem, whole⟩
  · exact .inr mem

theorem split_eq (octets : List UInt8) : split octets = (first octets, behind octets) := by
  induction octets with
  | nil => rfl
  | cons octet rest ih =>
    rw [split]
    by_cases same : octet = newline
    · simp [same, first, behind]
    · have other : (octet != newline) = true := bne_iff_ne.mpr same
      rw [if_neg same, ih]
      simp only [first, behind, List.takeWhile_cons, List.dropWhile_cons, other, if_true,
        List.cons_append]

/-- Octets behind an ended line do not belong to it. -/
theorem first_append_of_isEnded {octets : List UInt8} (h : isEnded (first octets) = true)
    (more : List UInt8) :
    first (octets ++ more) = first octets ∧ behind (octets ++ more) = behind octets ++ more := by
  have cut : split (octets ++ more) = (first octets, behind octets ++ more) := by
    rw [split_append_of_isEnded (by rw [split_eq]; exact h), split_eq]
  rw [split_eq] at cut
  exact Prod.mk.inj cut

/-- A line that has not ended goes on in the octets behind it. -/
theorem first_append_of_not_isEnded {octets : List UInt8} (h : isEnded (first octets) = false)
    (more : List UInt8) :
    first (octets ++ more) = first octets ++ first more ∧ behind (octets ++ more) = behind more := by
  have cut : split (octets ++ more) = (first octets ++ first more, behind more) := by
    rw [split_append_of_not_isEnded (by rw [split_eq]; exact h), split_eq, split_eq]
  rw [split_eq] at cut
  exact Prod.mk.inj cut

/-- Nothing lies behind a line that has not ended. -/
theorem behind_of_not_isEnded {octets : List UInt8} (h : isEnded (first octets) = false) :
    behind octets = [] := by
  have left := (first_append_of_not_isEnded h []).2
  rwa [List.append_nil] at left

/-- A line that has not ended is all there is. -/
theorem first_of_not_isEnded {octets : List UInt8} (h : isEnded (first octets) = false) :
    first octets = octets := by
  have whole := first_append_behind octets
  rwa [behind_of_not_isEnded h, List.append_nil] at whole

/-- Only where there is nothing the first line is empty. -/
theorem eq_nil_of_first_eq_nil {octets : List UInt8} (h : first octets = []) : octets = [] := by
  have opened : isEnded (first octets) = false := by
    rw [h]
    rfl
  rw [← first_of_not_isEnded opened, h]

/-! ## What a line says -/

theorem body_append_newline {octets : List UInt8} (h : octets.getLast? ≠ some carriageReturn) :
    body (octets ++ [newline]) = octets := by
  rw [body, List.getLast?_concat, if_pos rfl, List.dropLast_concat, if_neg h]

theorem body_append_returnNewline (octets : List UInt8) :
    body (octets ++ [carriageReturn, newline]) = octets := by
  rw [List.append_cons, body, List.getLast?_concat, if_pos rfl, List.dropLast_concat,
    List.getLast?_concat, if_pos rfl, List.dropLast_concat]

theorem body_of_notMem {octets : List UInt8} (h : newline ∉ octets) : body octets = octets :=
  if_neg fun last => h (List.mem_of_getLast? last)

theorem encode_dropLast {c : Char} (low : c.toNat < 128) {text : List Char}
    (h : text.getLast? = some c) :
    encode (String.ofList text.dropLast) = (encode (String.ofList text)).dropLast := by
  obtain ⟨before, rfl⟩ := List.getLast?_eq_some_iff.mp h
  rw [Utf8.encode_ofList_append_singleton low, List.dropLast_concat, List.dropLast_concat]

/-- The octets of a text without its terminator are its octets without theirs. -/
theorem encode_chomp (text : String) :
    encode (String.ofList (chomp text.toList)) = body (encode text) := by
  have lastOf : ∀ {c : Char}, c.toNat < 128 → ∀ cs : List Char,
      (encode (String.ofList cs)).getLast? = some (octetOf c) ↔ cs.getLast? = some c := by
    intro c low cs
    rw [Utf8.getLast?_encode_iff low, String.toList_ofList]
  rw [← String.ofList_toList (s := text), String.toList_ofList]
  generalize text.toList = cs
  rw [body, ← octetOf_newline, ← octetOf_carriageReturn, chomp]
  by_cases ended : cs.getLast? = some '\n'
  · have octets := encode_dropLast (by decide) ended
    rw [if_pos ended, if_pos ((lastOf (by decide) cs).mpr ended), ← octets]
    by_cases returned : cs.dropLast.getLast? = some '\r'
    · rw [if_pos returned, if_pos ((lastOf (by decide) cs.dropLast).mpr returned),
        encode_dropLast (by decide) returned]
    · rw [if_neg returned, if_neg (mt (lastOf (by decide) cs.dropLast).mp returned)]
  · rw [if_neg ended, if_neg (mt (lastOf (by decide) cs).mp ended)]

theorem newline_notMem_encode {text : String} (h : '\n' ∉ text.toList) : newline ∉ encode text :=
  mt (Utf8.mem_encode_iff (c := '\n') (by decide) text).mp h

theorem said_nil : said [] = .error .inputClosed := rfl

theorem said_of_not_isText {line : List UInt8} (h : line ≠ []) (noText : ¬ IsText line) :
    said line = .error (.device .notText) := by
  rw [said, if_neg h, Utf8.decode?_eq_none_iff.mpr noText]

theorem said_of_isText {line : List UInt8} {text : String} (h : line ≠ []) (isText : IsText line)
    (content : body line = encode text) : said line = .ok text := by
  obtain ⟨whole, rfl⟩ := isText
  rw [said, if_neg h, content, Utf8.decode?_encode, Utf8.decode?_encode]

/-- A line that is a text says it without its terminator. -/
theorem said_encode {text : String} (h : encode text ≠ []) :
    said (encode text) = .ok (String.ofList (chomp text.toList)) :=
  said_of_isText h (Utf8.isText_encode text) (encode_chomp text).symm

/-- A line says nothing only where it is no text. -/
theorem said_eq_error_iff {line : List UInt8} (h : line ≠ []) {interruption : Interruption} :
    said line = .error interruption ↔ interruption = .device .notText ∧ ¬ IsText line := by
  by_cases isText : IsText line
  · obtain ⟨text, rfl⟩ := isText
    rw [said_encode h]
    simp [Utf8.isText_encode]
  · rw [said_of_not_isText h isText]
    simp [isText, eq_comm]

/-- The first line says that the input is closed only where there is nothing. -/
theorem said_first_eq_inputClosed_iff {octets : List UInt8} :
    said (first octets) = .error .inputClosed ↔ octets = [] := by
  constructor
  · intro closed
    by_cases empty : first octets = []
    · exact eq_nil_of_first_eq_nil empty
    · cases ((said_eq_error_iff empty).mp closed).1
  · rintro rfl
    rfl

/-- A reader that ends without a failure answers with what the line says. -/
theorem answer_none (line : List UInt8) : Source.answer none line = said line := by
  by_cases empty : line = []
  · subst empty
    rfl
  · have answered : Source.answer none line = Source.interpret line := by
      simp [Source.answer, empty]
    rw [answered, Source.interpret]
    cases read : decode? line with
    | none => exact (said_of_not_isText empty (Utf8.decode?_eq_none_iff.mp read)).symm
    | some text =>
      rw [← Utf8.encode_of_decode? read] at empty ⊢
      exact (said_encode empty).symm

/-! ## Lines that are written with a terminator -/

/-- What a line may be ended with. -/
inductive Terminator where
  | newline
  | returnNewline
deriving DecidableEq

/-- The octets of a terminator. -/
def Terminator.octets : Terminator → List UInt8
  | newline => [Line.newline]
  | returnNewline => [carriageReturn, Line.newline]

/-- A terminator ends the first line. -/
theorem first_append_terminator {content : List UInt8} (h : newline ∉ content)
    (terminator : Terminator) (rest : List UInt8) :
    first (content ++ terminator.octets ++ rest) = content ++ terminator.octets ∧
      behind (content ++ terminator.octets ++ rest) = rest := by
  cases terminator with
  | newline =>
    simp only [Terminator.octets, List.append_assoc, List.singleton_append]
    exact ⟨first_append_newline h rest, behind_append_newline h rest⟩
  | returnNewline =>
    have notMem : newline ∉ content ++ [carriageReturn] := by
      rw [List.mem_append, not_or]
      exact ⟨h, by decide⟩
    have whole : content ++ Terminator.returnNewline.octets ++ rest =
        (content ++ [carriageReturn]) ++ newline :: rest := by
      simp [Terminator.octets]
    rw [whole, first_append_newline notMem, behind_append_newline notMem]
    simp [Terminator.octets]

theorem isText_append_terminator (octets : List UInt8) (terminator : Terminator) :
    IsText (octets ++ terminator.octets) ↔ IsText octets := by
  cases terminator with
  | newline => exact Utf8.isText_append_iff (c := '\n') (by decide) octets
  | returnNewline =>
    rw [Terminator.octets, List.append_cons]
    exact (Utf8.isText_append_iff (c := '\n') (by decide) _).trans
      (Utf8.isText_append_iff (c := '\r') (by decide) octets)

theorem append_terminator_ne_nil (octets : List UInt8) (terminator : Terminator) :
    octets ++ terminator.octets ≠ [] := by
  cases terminator <;> simp [Terminator.octets]

/-- A text is what its line says, however the line is ended, provided that no carriage return of the
text itself stands in front of a bare newline. -/
theorem said_terminated {text : String} {terminator : Terminator}
    (h : terminator = .newline → text.toList.getLast? ≠ some '\r') :
    said (encode text ++ terminator.octets) = .ok text := by
  refine said_of_isText (append_terminator_ne_nil _ _)
    ((isText_append_terminator _ _).mpr (Utf8.isText_encode text)) ?_
  cases terminator with
  | newline =>
    refine body_append_newline fun last => h rfl ?_
    exact (Utf8.getLast?_encode_iff (c := '\r') (by decide) text).mp last
  | returnNewline => exact body_append_returnNewline _

/-- A text with a newline behind it says something. -/
theorem exists_said_newline {octets : List UInt8} (h : IsText octets) :
    ∃ text, said (octets ++ [newline]) = .ok text := by
  obtain ⟨text, whole⟩ := (isText_append_terminator octets .newline).mpr h
  have nonempty : encode text ≠ [] := by
    rw [whole]
    exact append_terminator_ne_nil octets .newline
  refine ⟨String.ofList (chomp text.toList), ?_⟩
  show said (octets ++ Terminator.newline.octets) = _
  rw [← whole, said_encode nonempty]

theorem said_terminated_of_not_isText {octets : List UInt8} (noText : ¬ IsText octets)
    (terminator : Terminator) :
    said (octets ++ terminator.octets) = .error (.device .notText) :=
  said_of_not_isText (append_terminator_ne_nil _ _)
    (mt (isText_append_terminator _ _).mp noText)

/-- A text without a newline that ends with the input is what its line says, unless it is empty. -/
theorem said_open {text : String} (noNewline : '\n' ∉ text.toList) (h : text ≠ "") :
    said (encode text) = .ok text :=
  said_of_isText (mt Utf8.encode_eq_nil.mp h) (Utf8.isText_encode text)
    (body_of_notMem (newline_notMem_encode noNewline))

end Walkthrough.Text.Line
