import Walkthrough.Text.CodePoints

/-!
# Blank characters

The characters with the Unicode property White_Space, and the removal of them from both ends of a
text.  The information separators (U+001C to U+001F), the zero width space and the byte order mark
are not among them.
-/

namespace Walkthrough.Text

/-- The code points with the property White_Space. -/
def blanks : List Span :=
  [⟨0x9, 0xd⟩, ⟨0x20, 0x20⟩, ⟨0x85, 0x85⟩, ⟨0xa0, 0xa0⟩, ⟨0x1680, 0x1680⟩, ⟨0x2000, 0x200a⟩,
    ⟨0x2028, 0x2029⟩, ⟨0x202f, 0x202f⟩, ⟨0x205f, 0x205f⟩, ⟨0x3000, 0x3000⟩]

/-- Whether a character is blank. -/
def isBlank (c : Char) : Bool :=
  liesIn blanks c

/-- The text without the blanks at its two ends. -/
def trim (text : List Char) : List Char :=
  ((text.dropWhile isBlank).reverse.dropWhile isBlank).reverse

example : inOrder blanks = true := by decide

example : trim " \t 4 2\u3000\r\n".toList = "4 2".toList := by decide

/-- One text is another without the blanks at its two ends. -/
structure Trims (text trimmed : List Char) : Prop where
  whole : ∃ front back, text = front ++ trimmed ++ back ∧
    (∀ c ∈ front, isBlank c = true) ∧ ∀ c ∈ back, isBlank c = true
  head : ∀ c ∈ trimmed.head?, isBlank c = false
  last : ∀ c ∈ trimmed.getLast?, isBlank c = false

theorem isBlank_of_mem_takeWhile {text : List Char} {c : Char} (h : c ∈ text.takeWhile isBlank) :
    isBlank c = true :=
  List.all_eq_true.mp List.all_takeWhile c h

theorem isBlank_of_mem_head?_dropWhile {text : List Char} {c : Char}
    (h : c ∈ (text.dropWhile isBlank).head?) : isBlank c = false := by
  have first := List.head?_dropWhile_not isBlank text
  rwa [Option.mem_def.mp h] at first

theorem trims_trim (text : List Char) : Trims text (trim text) := by
  have front := List.takeWhile_append_dropWhile (p := isBlank) (l := text)
  have back := List.takeWhile_append_dropWhile (p := isBlank)
    (l := (text.dropWhile isBlank).reverse)
  have rest : text.dropWhile isBlank =
      trim text ++ ((text.dropWhile isBlank).reverse.takeWhile isBlank).reverse := by
    rw [trim, ← List.reverse_append, back, List.reverse_reverse]
  refine ⟨⟨text.takeWhile isBlank,
    ((text.dropWhile isBlank).reverse.takeWhile isBlank).reverse, ?_, ?_, ?_⟩, ?_, ?_⟩
  · rw [List.append_assoc, ← rest, front]
  · exact fun c mem => isBlank_of_mem_takeWhile mem
  · exact fun c mem => isBlank_of_mem_takeWhile (List.mem_reverse.mp mem)
  · intro c first
    have head : c ∈ (text.dropWhile isBlank).head? := by
      rw [rest, List.head?_append, Option.mem_def.mp first]
      rfl
    exact isBlank_of_mem_head?_dropWhile head
  · intro c last
    rw [trim, List.getLast?_reverse] at last
    exact isBlank_of_mem_head?_dropWhile last

/-- Blanks at the two ends make no difference to a text without its outer blanks. -/
theorem trim_padded {front back : List Char} (h : ∀ c ∈ front, isBlank c = true)
    (k : ∀ c ∈ back, isBlank c = true) (text : List Char) :
    trim (front ++ text ++ back) = trim text := by
  rw [trim, trim, List.append_assoc, List.dropWhile_append_of_pos h, List.dropWhile_append]
  cases rest : text.dropWhile isBlank with
  | nil =>
    have gone : (back ++ []).dropWhile isBlank = [] := List.dropWhile_append_of_pos k
    rw [List.append_nil] at gone
    simp [gone]
  | cons c more =>
    have behind : ∀ c ∈ back.reverse, isBlank c = true :=
      fun c mem => k c (List.mem_reverse.mp mem)
    simp only [List.isEmpty_cons, Bool.false_eq_true, if_false]
    rw [List.reverse_append, List.dropWhile_append_of_pos behind]

/-- A text without blanks has none at its ends. -/
theorem trim_eq_self {text : List Char} (h : ∀ c ∈ text, isBlank c = false) : trim text = text := by
  have kept : ∀ letters : List Char, (∀ c ∈ letters, isBlank c = false) →
      letters.dropWhile isBlank = letters := by
    intro letters free
    cases letters with
    | nil => rfl
    | cons c more => rw [List.dropWhile_cons_of_neg (by simp [free c List.mem_cons_self])]
  rw [trim, kept text h, kept _ fun c mem => h c (List.mem_reverse.mp mem), List.reverse_reverse]

end Walkthrough.Text
