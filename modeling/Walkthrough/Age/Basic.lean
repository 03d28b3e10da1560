/-!
# Ages and their brackets

An age is a number of years of 64 bits with a sign; every age falls into one of three brackets, and
each bracket has its message.
-/

namespace Walkthrough

/-- A number of years. -/
structure Age where
  years : Int64
deriving DecidableEq

/-- The brackets that ages fall into. -/
inductive Bracket where
  | child
  | teenager
  | adult
deriving DecidableEq

namespace Bracket

/-- The bracket of a whole number of years: a child is under thirteen, a teenager under twenty. -/
def ofYears (years : Int) : Bracket :=
  if years < 13 then .child else if years < 20 then .teenager else .adult

/-- What a person in the bracket is told. -/
def message : Bracket → String
  | .child => "You're a child!"
  | .teenager => "You're a teenager!"
  | .adult => "You're an adult!"

/-- The name under which a bracket is reported. -/
def name : Bracket → String
  | .child => "Child"
  | .teenager => "Teenager"
  | .adult => "Adult"

theorem ofYears_eq_child_iff {years : Int} : ofYears years = .child ↔ years < 13 := by
  unfold ofYears
  split
  · simp [*]
  · split <;> simp [*]

theorem ofYears_eq_teenager_iff {years : Int} :
    ofYears years = .teenager ↔ 13 ≤ years ∧ years < 20 := by
  unfold ofYears
  split
  · simp; omega
  · split <;> simp <;> omega

theorem ofYears_eq_adult_iff {years : Int} : ofYears years = .adult ↔ 20 ≤ years := by
  unfold ofYears
  split
  · simp; omega
  · split <;> simp <;> omega

theorem message_injective {a b : Bracket} (h : a.message = b.message) : a = b := by
  cases a <;> cases b <;> simp_all [message]

end Bracket

/-- The bracket of an age. -/
def Age.bracket (age : Age) : Bracket :=
  if age.years < 13 then .child else if age.years < 20 then .teenager else .adult

/-- Classifying a machine word is classifying the integer that it stands for. -/
theorem Age.bracket_eq (age : Age) : age.bracket = Bracket.ofYears age.years.toInt := by
  simp only [bracket, Bracket.ofYears, Int64.lt_iff_toInt_lt]
  rfl

end Walkthrough
