import Walkthrough.Text.UpperCase

/-!
# Capitals stay as they are

The upper case of a character begins with a character that is its own upper case
(`exists_upper_eq`), so a second capitalisation finds nothing to do
(`capitalize_first_alone`).  This is a fact about the tables: no code point that they lead to is one
that they start from.  It is checked span against span (`Shift.apart`), not code point by code
point: two spans do not meet if one ends in front of the other or if they take turns.
-/

namespace Walkthrough.Text

/-! ## Spans that do not meet -/

namespace Shift

/-- The code points that a shift leads to, which stand as far apart as those that it covers. -/
def image (shift : Shift) : Shift :=
  ⟨shift.move shift.first, shift.move shift.last, shift.step, 0⟩

/-- A code point alone. -/
def single (point : Nat) : Shift :=
  ⟨point, point, 1, 0⟩

/-- Whether one of the two ends in front of the other, or they take turns. -/
def apart (a b : Shift) : Bool :=
  Nat.blt a.last b.first || Nat.blt b.last a.first ||
    ((a.first == a.last || a.step % b.step == 0) && a.first % b.step != b.first % b.step)

variable {a b shift : Shift} {point : Nat}

theorem covers_iff : shift.covers point = true ↔
    shift.first ≤ point ∧ point ≤ shift.last ∧ shift.step ∣ point - shift.first := by
  simp [covers, and_assoc, Nat.dvd_iff_mod_eq_zero]

theorem covers_single_self (point : Nat) : (single point).covers point = true :=
  covers_iff.mpr ⟨Nat.le_refl _, Nat.le_refl _, Nat.one_dvd _⟩

theorem mod_eq_of_dvd_sub {base step : Nat} (le : base ≤ point) (h : step ∣ point - base) :
    point % step = base % step := by
  obtain ⟨count, steps⟩ := h
  have reached : point = base + step * count := by omega
  rw [reached, Nat.add_mul_mod_self_left]

/-- Spans that are apart have no code point in common. -/
theorem covers_eq_false_of_apart (h : a.apart b = true) (covered : a.covers point = true) :
    b.covers point = false := by
  obtain ⟨low, high, steps⟩ := covers_iff.mp covered
  rw [Bool.eq_false_iff]
  intro both
  obtain ⟨low', high', steps'⟩ := covers_iff.mp both
  simp only [apart, Bool.or_eq_true, Bool.and_eq_true, Nat.blt_eq, beq_iff_eq, bne_iff_ne] at h
  rcases h with (before | behind) | ⟨regular, turns⟩
  · omega
  · omega
  · apply turns
    rw [← mod_eq_of_dvd_sub low' steps']
    rcases regular with alone | finer
    · have same : point = a.first := by omega
      rw [same]
    · exact (mod_eq_of_dvd_sub low (Nat.dvd_trans (Nat.dvd_of_mod_eq_zero finer) steps)).symm

/-- What a shift covers is led into its image. -/
theorem covers_image (positive : 0 ≤ shift.first + shift.distance)
    (covered : shift.covers point = true) : shift.image.covers (shift.move point) = true := by
  obtain ⟨low, high, steps⟩ := covers_iff.mp covered
  have far : shift.move point - shift.move shift.first = point - shift.first := by
    simp only [move]
    omega
  refine covers_iff.mpr ⟨?_, ?_, ?_⟩
  · simp only [image, move]
    omega
  · simp only [image, move]
    omega
  · show shift.step ∣ shift.move point - shift.move shift.first
    rw [far]
    exact steps

end Shift

/-! ## The tables lead nowhere that they start from -/

/-- The spans that the tables start from. -/
def lowerSpans : List Shift :=
  expansions.map (fun entry => Shift.single entry.1) ++ shifts

theorem shifts_positive :
    (shifts.all fun shift => decide (0 ≤ shift.first + shift.distance)) = true := by
  decide +kernel

theorem images_apart :
    (shifts.all fun shift => lowerSpans.all fun lower => shift.image.apart lower) = true := by
  decide +kernel

theorem expansions_closed :
    (expansions.all fun entry => match entry.2 with
      | [] => false
      | head :: more => more.length ≤ 2 && upperPoints head == [head]) = true := by
  decide +kernel

/-- A code point that the tables do not start from is its own upper case. -/
theorem upperPoints_eq_self {point : Nat}
    (h : ∀ lower ∈ lowerSpans, lower.covers point = false) : upperPoints point = [point] := by
  have unexpanded : expansions.lookup point = none := by
    rw [List.lookup_eq_none_iff]
    intro entry mem
    have free := h (.single entry.1) (List.mem_append_left _ (List.mem_map_of_mem mem))
    rw [bne_iff_ne]
    rintro rfl
    rw [Shift.covers_single_self] at free
    cases free
  have unshifted : (shifts.find? fun shift => shift.covers point) = none := by
    rw [List.find?_eq_none]
    intro shift mem
    rw [h shift (List.mem_append_right _ mem)]
    exact Bool.false_ne_true
  simp only [upperPoints, unexpanded, unshifted]

/-- The upper case of a code point begins with one that is its own upper case. -/
theorem exists_upperPoints_eq (point : Nat) :
    ∃ head more, upperPoints point = head :: more ∧ more.length ≤ 2 ∧
      upperPoints head = [head] := by
  cases expanded : expansions.lookup point with
  | some points =>
    have whole : upperPoints point = points := by simp only [upperPoints, expanded]
    obtain ⟨front, back, table, -⟩ := List.lookup_eq_some_iff.mp expanded
    have mem : (point, points) ∈ expansions := by
      rw [table]
      exact List.mem_append_right _ List.mem_cons_self
    have closed := List.all_eq_true.mp expansions_closed _ mem
    cases points with
    | nil => cases closed
    | cons head more =>
      simp only [Bool.and_eq_true, decide_eq_true_eq, beq_iff_eq] at closed
      exact ⟨head, more, whole, closed⟩
  | none =>
    cases shifted : shifts.find? fun shift => shift.covers point with
    | some shift =>
      have whole : upperPoints point = [shift.move point] := by
        simp only [upperPoints, expanded, shifted]
      have mem := List.mem_of_find?_eq_some shifted
      have covered := List.find?_some shifted
      have positive := of_decide_eq_true (List.all_eq_true.mp shifts_positive shift mem)
      have landed := Shift.covers_image positive covered
      have apart := List.all_eq_true.mp (List.all_eq_true.mp images_apart shift mem)
      refine ⟨shift.move point, [], whole, Nat.zero_le _, upperPoints_eq_self ?_⟩
      intro lower memLower
      exact Shift.covers_eq_false_of_apart (apart lower memLower) landed
    | none =>
      have whole : upperPoints point = [point] := by
        simp only [upperPoints, expanded, shifted]
      exact ⟨point, [], whole, Nat.zero_le _, whole⟩

/-! ## Capitalising twice -/

/-- **The upper case of a character begins with a character that is its own upper case**, and is
three characters long at most. -/
theorem exists_upper_eq (c : Char) :
    ∃ head more, upper c = head :: more ∧ more.length ≤ 2 ∧ upper head = [head] := by
  obtain ⟨head, more, points, short, settled⟩ := exists_upperPoints_eq c.toNat
  refine ⟨Char.ofNat head, more.map Char.ofNat, ?_, by rwa [List.length_map], ?_⟩
  · rw [upper, points, List.map_cons]
  · by_cases valid : head.isValidChar
    · have number : (Char.ofNat head).toNat = head := by
        rw [Char.ofNat, dif_pos valid]
        rfl
      rw [upper, number, settled]
      rfl
    · -- what is no character would have become the null character
      have null : Char.ofNat head = Char.ofNat 0 := by
        rw [Char.ofNat, dif_neg valid]
        rfl
      rw [null]
      decide +kernel

theorem capitalize_ofList_cons (first : Char) (rest : List Char) :
    capitalize (String.ofList (first :: rest)) = String.ofList (upper first ++ rest) := by
  rw [capitalize, String.toList_ofList]

/-- A text is empty, or it has a first character. -/
theorem eq_empty_or_exists_cons (text : String) :
    text = "" ∨ ∃ first rest, text = String.ofList (first :: rest) := by
  cases letters : text.toList with
  | nil => exact .inl (String.toList_inj.mp letters)
  | cons first rest => exact .inr ⟨first, rest, by rw [← letters, String.ofList_toList]⟩

/-- **Only the first character of a text is capitalised, and only once.**  What stands behind a text
that is not empty is left alone.  A capitalised text is not changed by another capitalisation, since
the upper case of every character, which is one to three characters long, begins with a character
that is its own upper case. -/
theorem capitalize_first_alone :
    (∀ front back : String, front ≠ "" → capitalize (front ++ back) = capitalize front ++ back) ∧
      (∀ text : String, capitalize (capitalize text) = capitalize text) ∧
      ∀ c : Char, ∃ head more, upper c = head :: more ∧ more.length ≤ 2 ∧ upper head = [head] := by
  refine ⟨?_, ?_, exists_upper_eq⟩
  · intro front back nonempty
    obtain rfl | ⟨first, rest, rfl⟩ := eq_empty_or_exists_cons front
    · exact absurd rfl nonempty
    · have whole : String.ofList (first :: rest) ++ back =
          String.ofList (first :: (rest ++ back.toList)) := by
        rw [← String.toList_inj]
        simp
      rw [whole, capitalize_ofList_cons, capitalize_ofList_cons, ← String.toList_inj]
      simp
  · intro text
    obtain rfl | ⟨first, rest, rfl⟩ := eq_empty_or_exists_cons text
    · rfl
    · obtain ⟨head, more, whole, -, settled⟩ := exists_upper_eq first
      rw [capitalize_ofList_cons, whole, List.cons_append, capitalize_ofList_cons, settled]
      rfl

/-- A character with two in its upper case, alone and in front of a text. -/
theorem capitalize_first_alone_apostrophe :
    "\u0149" ≠ "" ∧ capitalize "\u0149" = "\u02bcN" ∧
      capitalize ("\u0149" ++ "ew") = capitalize "\u0149" ++ "ew" ∧
      capitalize (capitalize "\u0149") = capitalize "\u0149" := by
  have nonempty : "\u0149" ≠ "" := by decide
  obtain ⟨alone, again, -⟩ := capitalize_first_alone
  exact ⟨nonempty, by decide +kernel, alone _ _ nonempty, again _⟩

end Walkthrough.Text
