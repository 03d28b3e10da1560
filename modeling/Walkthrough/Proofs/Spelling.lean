import Walkthrough.Age.Numeral
import Walkthrough.Age.Reading

/-!
# Which texts are ages

Reading an age accepts exactly the spellings of numerals, between blanks
(`exists_read_eq_ok_iff`).  Between the checks that the reader makes and the groups of a numeral
stands the grammar of the body, letter by letter (`Grouped`): the checks pass exactly on it
(`grouped_iff`), and it is exactly what groups of digits spell (`grouped_iff_exists_groups`).
-/

namespace Walkthrough.Age

open Numeral (digitChar spellGroup spellGroups)

/-- One or more digits, with single separators between them. -/
inductive Grouped : List Char → Prop where
  | single {c : Char} (h : c.isDigit = true) : Grouped [c]
  | digit {c : Char} {rest : List Char} (h : c.isDigit = true) (more : Grouped rest) :
      Grouped (c :: rest)
  | separated {c : Char} {rest : List Char} (h : c.isDigit = true) (more : Grouped rest) :
      Grouped (c :: separator :: rest)

theorem ne_separator_of_isDigit {c : Char} (h : c.isDigit = true) : c ≠ separator := by
  rintro rfl
  revert h
  decide

theorem ne_sign_of_isDigit {c : Char} (h : c.isDigit = true) : c ≠ '-' ∧ c ≠ '+' := by
  constructor <;>
  · rintro rfl
    exact absurd h (by decide)

theorem Grouped.ne_nil {body : List Char} (h : Grouped body) : body ≠ [] := by
  cases h <;> exact List.cons_ne_nil _ _

theorem Grouped.exists_head {body : List Char} (h : Grouped body) :
    ∃ c rest, body = c :: rest ∧ c.isDigit = true := by
  cases h with
  | single h => exact ⟨_, _, rfl, h⟩
  | digit h => exact ⟨_, _, rfl, h⟩
  | separated h => exact ⟨_, _, rfl, h⟩

/-! ## The checks of the reader -/

theorem hasDoubledSeparator_cons {c : Char} (h : c ≠ separator) (rest : List Char) :
    hasDoubledSeparator (c :: rest) = hasDoubledSeparator rest := by
  cases rest with
  | nil => rfl
  | cons d rest => simp [hasDoubledSeparator, h]

theorem hasDoubledSeparator_separator_cons {c : Char} (h : c ≠ separator) (rest : List Char) :
    hasDoubledSeparator (separator :: c :: rest) = hasDoubledSeparator (c :: rest) := by
  simp [hasDoubledSeparator, h]

/-- What the reader asks of the text behind the sign. -/
structure Checked (body : List Char) : Prop where
  nonempty : body ≠ []
  charset : ∀ c ∈ body, c.isDigit = true ∨ c = separator
  head : body.head? ≠ some separator
  last : body.getLast? ≠ some separator
  single : hasDoubledSeparator body = false

theorem Grouped.checked {body : List Char} (h : Grouped body) : Checked body := by
  induction h with
  | single h =>
    have ne := ne_separator_of_isDigit h
    exact ⟨List.cons_ne_nil _ _, by simp [h], by simpa using ne, by simpa using ne, rfl⟩
  | @digit c rest h more ih =>
    have ne := ne_separator_of_isDigit h
    obtain ⟨d, tail, rfl, -⟩ := more.exists_head
    refine ⟨List.cons_ne_nil _ _, ?_, by simpa using ne, ?_, ?_⟩
    · exact List.forall_mem_cons.mpr ⟨.inl h, ih.charset⟩
    · rw [List.getLast?_cons_cons]
      exact ih.last
    · rw [hasDoubledSeparator_cons ne]
      exact ih.single
  | @separated c rest h more ih =>
    have ne := ne_separator_of_isDigit h
    obtain ⟨d, tail, rfl, digit⟩ := more.exists_head
    refine ⟨List.cons_ne_nil _ _, ?_, by simpa using ne, ?_, ?_⟩
    · exact List.forall_mem_cons.mpr ⟨.inl h, List.forall_mem_cons.mpr ⟨.inr rfl, ih.charset⟩⟩
    · rw [List.getLast?_cons_cons, List.getLast?_cons_cons]
      exact ih.last
    · rw [hasDoubledSeparator_cons ne,
        hasDoubledSeparator_separator_cons (ne_separator_of_isDigit digit)]
      exact ih.single

/-- The front of a body that passes the checks is cut off one digit at a time, with the separator
behind it if there is one; what is left passes them again. -/
theorem Checked.grouped : ∀ {body : List Char}, Checked body → Grouped body
  | [], h => absurd rfl h.nonempty
  | [c], h => by
    have digit := (h.charset c (List.mem_singleton_self c)).resolve_right
      fun same => h.head (by rw [same]; rfl)
    exact .single digit
  | c :: d :: rest, h => by
    have ne : c ≠ separator := fun same => h.head (by rw [same]; rfl)
    have digit := (h.charset c List.mem_cons_self).resolve_right ne
    have charset := (List.forall_mem_cons.mp h.charset).2
    have last := h.last
    have single := h.single
    rw [List.getLast?_cons_cons] at last
    rw [hasDoubledSeparator_cons ne] at single
    by_cases sep : d = separator
    · subst sep
      -- a digit stands behind the separator: it is neither the last letter nor doubled
      cases rest with
      | nil => exact absurd rfl last
      | cons e rest =>
        have ne' : e ≠ separator := by
          rintro rfl
          simp [hasDoubledSeparator] at single
        rw [hasDoubledSeparator_separator_cons ne'] at single
        rw [List.getLast?_cons_cons] at last
        exact .separated digit (Checked.grouped ⟨List.cons_ne_nil _ _,
          (List.forall_mem_cons.mp charset).2, by simpa using ne', last, single⟩)
    · exact .digit digit (Checked.grouped ⟨List.cons_ne_nil _ _, charset, by simpa using sep,
        last, single⟩)

theorem grouped_iff {body : List Char} : Grouped body ↔ Checked body :=
  ⟨Grouped.checked, Checked.grouped⟩

/-! ## The groups of a numeral -/

theorem isDigit_digitChar (digit : Fin 10) : (digitChar digit).isDigit = true := by
  revert digit
  decide

theorem exists_digitChar {c : Char} (h : c.isDigit = true) : ∃ digit, digitChar digit = c := by
  have spelled : ∀ n < 58, 48 ≤ n → ∃ digit, digitChar digit = Char.ofNat n := by decide
  simp only [Char.isDigit, Bool.and_eq_true, decide_eq_true_eq, ge_iff_le,
    UInt32.le_iff_toNat_le] at h
  obtain ⟨digit, same⟩ := spelled c.toNat (Nat.lt_succ_of_le h.2) h.1
  exact ⟨digit, same.trans (Char.ofNat_toNat c)⟩

/-- A group spells digits, whatever well-formed rest follows its separator. -/
theorem grouped_spellGroup_append (first : Fin 10) (digits : List (Fin 10)) {rest : List Char}
    (h : rest = [] ∨ ∃ more, rest = separator :: more ∧ Grouped more) :
    Grouped (spellGroup ⟨first, digits⟩ ++ rest) := by
  induction digits generalizing first with
  | nil =>
    rcases h with rfl | ⟨more, rfl, grouped⟩
    · exact .single (isDigit_digitChar first)
    · exact .separated (isDigit_digitChar first) grouped
  | cons next digits ih => exact .digit (isDigit_digitChar first) (ih next)

theorem grouped_spellGroups (leading : DigitGroup) (more : List DigitGroup) :
    Grouped (spellGroups leading more) := by
  induction more generalizing leading with
  | nil => exact grouped_spellGroup_append leading.first leading.rest (.inl rfl)
  | cons next more ih =>
    exact grouped_spellGroup_append leading.first leading.rest (.inr ⟨_, rfl, ih next⟩)

theorem Grouped.exists_groups {body : List Char} (h : Grouped body) :
    ∃ leading more, spellGroups leading more = body := by
  induction h with
  | single h =>
    obtain ⟨digit, rfl⟩ := exists_digitChar h
    exact ⟨⟨digit, []⟩, [], rfl⟩
  | digit h _ ih =>
    obtain ⟨digit, rfl⟩ := exists_digitChar h
    obtain ⟨leading, more, rfl⟩ := ih
    exact ⟨⟨digit, leading.digits⟩, more, rfl⟩
  | separated h _ ih =>
    obtain ⟨digit, rfl⟩ := exists_digitChar h
    obtain ⟨leading, more, rfl⟩ := ih
    exact ⟨⟨digit, []⟩, leading :: more, rfl⟩

theorem grouped_iff_exists_groups {body : List Char} :
    Grouped body ↔ ∃ leading more, spellGroups leading more = body := by
  constructor
  · exact Grouped.exists_groups
  · rintro ⟨leading, more, rfl⟩
    exact grouped_spellGroups leading more

/-! ## Reading the digits -/

/-- Digits are counted to the end, or until the total leaves the range on their side. -/
theorem accumulate_eq_ok_or_overflow (way : Text.Decimal.Direction) (total : Int64)
    {digits : List Char} (h : ∀ c ∈ digits, c.isDigit = true) :
    (∃ value, Text.Decimal.accumulate way total digits = .ok value) ∨
      Text.Decimal.accumulate way total digits = .error way.overflow := by
  induction digits generalizing total with
  | nil => exact .inl ⟨total, rfl⟩
  | cons c digits ih =>
    obtain ⟨digit, rest⟩ := List.forall_mem_cons.mp h
    rw [Text.Decimal.accumulate, if_pos digit]
    cases way.extend? total (Text.Decimal.digitValue c) with
    | some extended => exact ih extended rest
    | none => exact .inr rfl

theorem read_of_isDigit {digits : List Char} (nonempty : digits ≠ [])
    (h : ∀ c ∈ digits, c.isDigit = true) (negative : Bool) :
    Text.Decimal.read (if negative then '-' :: digits else digits) =
      Text.Decimal.accumulate (if negative then .down else .up) 0 digits := by
  rcases digits with _ | ⟨c, digits⟩
  · exact absurd rfl nonempty
  · cases negative with
    | true => rfl
    | false =>
      obtain ⟨notMinus, notPlus⟩ := ne_sign_of_isDigit (h c List.mem_cons_self)
      simp only [Bool.false_eq_true, if_false]
      unfold Text.Decimal.read
      split <;> simp_all

/-- Digits are always an age, at the end of the range if need be. -/
theorem exists_ofReading_eq_ok {digits : List Char} (nonempty : digits ≠ [])
    (h : ∀ c ∈ digits, c.isDigit = true) (negative : Bool) :
    ∃ age, ofReading (Text.Decimal.read (if negative then '-' :: digits else digits)) = .ok age := by
  rw [read_of_isDigit nonempty h]
  rcases accumulate_eq_ok_or_overflow (if negative then .down else .up) 0 h with
    ⟨value, read⟩ | overflow
  · rw [read]
    exact ⟨⟨value⟩, rfl⟩
  · rw [overflow]
    cases negative with
    | true => exact ⟨⟨Int64.minValue⟩, rfl⟩
    | false => exact ⟨⟨Int64.maxValue⟩, rfl⟩

/-! ## Reading an age -/

theorem hasMisplacedSeparator_eq_false_iff {body : List Char} :
    hasMisplacedSeparator body = false ↔ body.head? ≠ some separator ∧
      body.getLast? ≠ some separator ∧ hasDoubledSeparator body = false := by
  simp [hasMisplacedSeparator, and_assoc]

/-- A body passes the first check if it is a run of digits and separators. -/
theorem charset_eq_false_iff {body : List Char} :
    (body.isEmpty || !body.all fun c => c.isDigit || c == separator) = false ↔
      body ≠ [] ∧ ∀ c ∈ body, c.isDigit = true ∨ c = separator := by
  have charset : (body.all fun c => c.isDigit || c == separator) = true ↔
      ∀ c ∈ body, c.isDigit = true ∨ c = separator := by
    simp
  rw [Bool.or_eq_false_iff, Bool.not_eq_false', charset, List.isEmpty_eq_false_iff]

/-- The checks of the reader, as it makes them. -/
theorem checked_iff {body : List Char} :
    Checked body ↔ (body.isEmpty || !body.all fun c => c.isDigit || c == separator) = false ∧
      hasMisplacedSeparator body = false := by
  rw [hasMisplacedSeparator_eq_false_iff, charset_eq_false_iff]
  constructor
  · rintro ⟨nonempty, all, head, last, single⟩
    exact ⟨⟨nonempty, all⟩, head, last, single⟩
  · rintro ⟨⟨nonempty, all⟩, head, last, single⟩
    exact ⟨nonempty, all, head, last, single⟩

/-- A body that passes the checks is a number once its separators are left out. -/
theorem Checked.digits {body : List Char} (h : Checked body) :
    (body.filter fun c => c != separator) ≠ [] ∧
      ∀ c ∈ body.filter fun c => c != separator, c.isDigit = true := by
  constructor
  · obtain ⟨c, rest, rfl, digit⟩ := h.grouped.exists_head
    rw [List.filter_cons_of_pos (by simpa using ne_separator_of_isDigit digit)]
    exact List.cons_ne_nil _ _
  · intro c mem
    rw [List.mem_filter] at mem
    exact (h.charset c mem.1).resolve_right (by simpa using mem.2)

theorem exists_readTrimmed_eq_ok_iff {text : List Char} :
    (∃ age, readTrimmed text = .ok age) ↔ text ≠ [] ∧ Grouped (splitSign text).2 := by
  rw [grouped_iff]
  unfold readTrimmed
  by_cases empty : text = []
  · simp [empty]
  · rw [if_neg (by simpa using empty)]
    obtain ⟨negative, body⟩ := splitSign text
    simp only
    -- past the checks only the range could be an obstacle, and it is none
    by_cases checked : Checked body
    · obtain ⟨charset, placed⟩ := checked_iff.mp checked
      obtain ⟨age, read⟩ := exists_ofReading_eq_ok checked.digits.1 checked.digits.2 negative
      simp only [charset, placed, Bool.false_eq_true, if_false]
      exact ⟨fun _ => ⟨empty, checked⟩, fun _ => ⟨age, read⟩⟩
    · refine ⟨?_, fun h => absurd h.2 checked⟩
      rintro ⟨age, read⟩
      split at read
      · cases read
      · split at read
        · cases read
        · rename_i charset placed
          rw [Bool.not_eq_true] at charset placed
          exact absurd (checked_iff.mpr ⟨charset, placed⟩) checked

/-- The sign of a numeral is cut off, and nothing else. -/
theorem splitSign_spell (numeral : Numeral) :
    splitSign numeral.spell =
      (numeral.sign == some .minus, spellGroups numeral.leading numeral.more) := by
  obtain ⟨sign, leading, more⟩ := numeral
  rcases sign with _ | _ | _
  · obtain ⟨c, rest, body, digit⟩ := (grouped_spellGroups leading more).exists_head
    obtain ⟨notMinus, notPlus⟩ := ne_sign_of_isDigit digit
    have spelled : Numeral.spell ⟨none, leading, more⟩ = c :: rest := body
    rw [spelled, body]
    unfold splitSign
    split <;> simp_all
  · rfl
  · rfl

/-- Every text is a sign that is cut off, or none, in front of its body. -/
theorem exists_sign_of_splitSign (text : List Char) :
    ∃ sign : Option Sign, text = (sign.map Sign.char).toList ++ (splitSign text).2 := by
  unfold splitSign
  split
  · exact ⟨some .minus, rfl⟩
  · exact ⟨some .plus, rfl⟩
  · exact ⟨none, rfl⟩

/-- A text is a numeral exactly if its body is one or more digits with single separators. -/
theorem exists_spell_iff {text : List Char} :
    (∃ numeral : Numeral, text = numeral.spell) ↔ Grouped (splitSign text).2 := by
  constructor
  · rintro ⟨numeral, rfl⟩
    rw [splitSign_spell]
    exact grouped_iff_exists_groups.mpr ⟨_, _, rfl⟩
  · intro grouped
    obtain ⟨leading, more, body⟩ := grouped_iff_exists_groups.mp grouped
    obtain ⟨sign, whole⟩ := exists_sign_of_splitSign text
    refine ⟨⟨sign, leading, more⟩, ?_⟩
    rw [whole, ← body]
    rfl

/-- **What is read as an age** is what spells a numeral between blanks. -/
theorem exists_read_eq_ok_iff {text : String} :
    (∃ age, read text = .ok age) ↔
      ∃ numeral : Numeral, Text.trim text.toList = numeral.spell := by
  rw [read, exists_readTrimmed_eq_ok_iff, exists_spell_iff, and_iff_right_iff_imp]
  intro grouped empty
  rw [empty] at grouped
  exact grouped.ne_nil rfl

end Walkthrough.Age
