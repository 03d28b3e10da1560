import Walkthrough.Proofs.Success

/-!
# Why a text is no age

A text that spells no numeral between blanks is refused with one of three reasons.  Each reason
stands for a fact about the text alone (`Defect.Applies`): no text has two of them, a text with one
of them is no numeral, and the reader names the one that the text has (`read_eq_error_iff`).  So the
answer to a question for an age is either an age or refused for a reason that can be checked without
the reader, and the numeral parser behind the checks has nothing left to complain about
(`Tour.ageOf_verdict`).
-/

namespace Walkthrough

open Numeral (spellGroups)

namespace Age

/-- A text and what stands behind its sign, if it has one. -/
inductive Unsigns : List Char → List Char → Prop where
  | signed (sign : Sign) (body : List Char) : Unsigns (sign.char :: body) body
  | bare {body : List Char} (h : ∀ sign : Sign, body.head? ≠ some sign.char) : Unsigns body body

theorem unsigns_splitSign (text : List Char) : Unsigns text (splitSign text).2 := by
  unfold splitSign
  split
  · exact .signed .minus _
  · exact .signed .plus _
  · rename_i notMinus notPlus
    refine .bare fun sign head => ?_
    obtain ⟨rest, rfl⟩ := List.head?_eq_some_iff.mp head
    cases sign with
    | minus => exact notMinus rest rfl
    | plus => exact notPlus rest rfl

/-! ## What each defect says of a text -/

/-- What is wrong with a text that has a defect, its outer blanks left out. -/
def Defect.Applies (text : List Char) : Defect → Prop
  | .empty => text = []
  | .notANumber =>
    text ≠ [] ∧ ((splitSign text).2 = [] ∨
      ∃ c ∈ (splitSign text).2, c.isDigit = false ∧ c ≠ separator)
  | .misplacedSeparator =>
    (splitSign text).2 ≠ [] ∧ (∀ c ∈ (splitSign text).2, c.isDigit = true ∨ c = separator) ∧
      ¬ ∃ leading more, (splitSign text).2 = spellGroups leading more
  | .unreadable _ => False

variable {text : List Char} {a b : Defect}

/-- What is no number has no body of digits and separators. -/
theorem Defect.Applies.not_charset (h : Applies text .notANumber)
    (nonempty : (splitSign text).2 ≠ []) :
    ¬ ∀ c ∈ (splitSign text).2, c.isDigit = true ∨ c = separator := by
  intro charset
  rcases h.2 with empty | ⟨c, mem, noDigit, other⟩
  · exact nonempty empty
  · rcases charset c mem with digit | same
    · exact absurd (noDigit.symm.trans digit) (by decide)
    · exact other same

theorem Defect.Applies.not_grouped (h : a.Applies text) : ¬ Grouped (splitSign text).2 := by
  intro grouped
  have checked := grouped.checked
  cases a with
  | empty =>
    obtain rfl : text = [] := h
    exact checked.nonempty rfl
  | notANumber => exact h.not_charset checked.nonempty checked.charset
  | misplacedSeparator =>
    obtain ⟨leading, more, spelled⟩ := grouped_iff_exists_groups.mp grouped
    exact h.2.2 ⟨leading, more, spelled.symm⟩
  | unreadable defect => exact h

/-- No text has two defects. -/
theorem Defect.Applies.unique (ha : a.Applies text) (hb : b.Applies text) : a = b := by
  have notBoth : Applies text .notANumber → ¬ Applies text .misplacedSeparator :=
    fun noNumber misplaced => noNumber.not_charset misplaced.1 misplaced.2.1
  have notEmpty : Applies text .empty → ¬ Applies text .misplacedSeparator := by
    rintro empty ⟨nonempty, -⟩
    obtain rfl : text = [] := empty
    exact nonempty rfl
  cases a with
  | empty =>
    cases b with
    | empty => rfl
    | notANumber => exact absurd ha hb.1
    | misplacedSeparator => exact absurd hb (notEmpty ha)
    | unreadable defect => exact hb.elim
  | notANumber =>
    cases b with
    | empty => exact absurd hb ha.1
    | notANumber => rfl
    | misplacedSeparator => exact absurd hb (notBoth ha)
    | unreadable defect => exact hb.elim
  | misplacedSeparator =>
    cases b with
    | empty => exact absurd ha (notEmpty hb)
    | notANumber => exact absurd ha (notBoth hb)
    | misplacedSeparator => rfl
    | unreadable defect => exact hb.elim
  | unreadable defect => exact ha.elim

/-! ## The reader names the defect -/

/-- A text without its outer blanks is read, or it has the defect that the reader names. -/
theorem readTrimmed_cases (text : List Char) :
    (∃ age, readTrimmed text = .ok age) ∨
      ∃ defect, readTrimmed text = .error defect ∧ Defect.Applies text defect := by
  by_cases empty : text = []
  · exact .inr ⟨.empty, by rw [empty]; rfl, empty⟩
  by_cases grouped : Grouped (splitSign text).2
  · exact .inl (exists_readTrimmed_eq_ok_iff.mpr ⟨empty, grouped⟩)
  -- the checks are made in the order of the defects, and a body that passes them is grouped
  refine .inr ?_
  rw [readTrimmed, if_neg (by simpa using empty)]
  simp only
  by_cases strange : ((splitSign text).2.isEmpty ||
      !(splitSign text).2.all fun c => c.isDigit || c == separator) = true
  · refine ⟨.notANumber, if_pos strange, empty, ?_⟩
    simpa using strange
  · rw [Bool.not_eq_true] at strange
    have misplaced : hasMisplacedSeparator (splitSign text).2 = true := by
      cases placed : hasMisplacedSeparator (splitSign text).2 with
      | true => rfl
      | false => exact absurd (checked_iff.mpr ⟨strange, placed⟩).grouped grouped
    obtain ⟨nonempty, charset⟩ := charset_eq_false_iff.mp strange
    refine ⟨.misplacedSeparator, ?_, nonempty, charset, ?_⟩
    · rw [strange, misplaced]
      rfl
    · rintro ⟨leading, more, spelled⟩
      exact grouped (spelled ▸ grouped_spellGroups leading more)

/-- **A text is refused for a defect exactly if it has that defect.** -/
theorem read_eq_error_iff {text : String} {defect : Defect} :
    read text = .error defect ↔ defect.Applies (Text.trim text.toList) := by
  rcases readTrimmed_cases (Text.trim text.toList) with ⟨age, accepted⟩ | ⟨named, refused, applies⟩
  · have grouped := (exists_readTrimmed_eq_ok_iff.mp ⟨age, accepted⟩).2
    rw [read, accepted]
    exact iff_of_false (by simp) fun h => h.not_grouped grouped
  · rw [read, refused, Except.error.injEq]
    constructor
    · rintro rfl
      exact applies
    · exact applies.unique

/-- The numeral behind the checks can always be read. -/
theorem read_ne_unreadable (text : String) (defect : Text.Decimal.Defect) :
    read text ≠ .error (.unreadable defect) :=
  fun refused => read_eq_error_iff.mp refused

end Age

/-! ## The verdict on an answer -/

namespace Tour

variable {answer : String}

theorem ageOf_eq_error_iff {interruption : Interruption} :
    ageOf answer = .error interruption ↔
      ∃ defect, Age.read answer = .error defect ∧
        interruption = .ageRejected answer defect.reason := by
  unfold ageOf
  cases Age.read answer with
  | ok age => simp
  | error defect => simp [eq_comm]

/-- The wording of a reason tells the defect. -/
theorem ageOf_eq_ageRejected_iff (defect : Age.Defect) (known : ∀ d, defect ≠ .unreadable d) :
    ageOf answer = .error (.ageRejected answer defect.reason) ↔
      defect.Applies (Text.trim answer.toList) := by
  rw [ageOf_eq_error_iff, ← Age.read_eq_error_iff]
  constructor
  · rintro ⟨named, refused, same⟩
    have reasons : defect.reason = named.reason := (Interruption.ageRejected.inj same).2
    have differ : ∀ d, named ≠ .unreadable d := by
      rintro d rfl
      exact Age.read_ne_unreadable answer d refused
    have equal : defect = named := by
      cases defect <;> cases named <;> simp_all [Age.Defect.reason]
    rw [equal, refused]
  · intro refused
    exact ⟨defect, refused, rfl⟩

/-- **The verdict on an answer** to the question for an age.  Without its outer blanks and its sign
the answer has a body.  It is accepted exactly if it spells a numeral; otherwise it is kept as it
was given, with the first of three reasons that it gives: nothing was answered, the body is no run
of digits and separators, or its separators do not stand between digits.  There is no other reason,
and the parser of numerals that the reader ends with refuses nothing. -/
theorem ageOf_verdict (answer : String) :
    let trimmed := Text.trim answer.toList
    let body := (Age.splitSign trimmed).2
    Text.Trims answer.toList trimmed ∧ Age.Unsigns trimmed body ∧
      ((∃ age, ageOf answer = .ok age) ↔ ∃ numeral : Numeral, trimmed = numeral.spell) ∧
      (ageOf answer = .error (.ageRejected answer "empty input") ↔ trimmed = []) ∧
      (ageOf answer = .error (.ageRejected answer "not a number") ↔
        trimmed ≠ [] ∧ (body = [] ∨ ∃ c ∈ body, c.isDigit = false ∧ c ≠ '_')) ∧
      (ageOf answer = .error (.ageRejected answer "misplaced digit separator") ↔
        body ≠ [] ∧ (∀ c ∈ body, c.isDigit = true ∨ c = '_') ∧
          ¬ ∃ leading more, body = spellGroups leading more) ∧
      (∀ interruption, ageOf answer = .error interruption →
        ∃ reason ∈ ["empty input", "not a number", "misplaced digit separator"],
          interruption = .ageRejected answer reason) ∧
      ∀ defect, Age.read answer ≠ .error (.unreadable defect) := by
  intro trimmed body
  refine ⟨Text.trims_trim _, Age.unsigns_splitSign _, exists_ageOf_eq_ok_iff, ?_, ?_, ?_, ?_,
    Age.read_ne_unreadable answer⟩
  · exact ageOf_eq_ageRejected_iff .empty (by simp)
  · exact ageOf_eq_ageRejected_iff .notANumber (by simp)
  · exact ageOf_eq_ageRejected_iff .misplacedSeparator (by simp)
  · intro interruption refused
    obtain ⟨defect, named, rfl⟩ := ageOf_eq_error_iff.mp refused
    refine ⟨defect.reason, ?_, rfl⟩
    cases defect with
    | unreadable d => exact absurd named (Age.read_ne_unreadable answer d)
    | empty | notANumber | misplacedSeparator => decide

end Tour

end Walkthrough
