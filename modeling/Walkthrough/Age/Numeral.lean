/-!
# Spelled numerals

The way a person may spell a whole number: an optional sign, then groups of one or more decimal
digits with a single separator between neighbours.  A numeral has a spelling and denotes an
integer without bounds.
-/

namespace Walkthrough

/-- The sign in front of a numeral. -/
inductive Sign where
  | plus
  | minus
deriving DecidableEq

/-- The character of a sign. -/
def Sign.char : Sign → Char
  | .plus => '+'
  | .minus => '-'

/-- One or more decimal digits. -/
structure DigitGroup where
  first : Fin 10
  rest : List (Fin 10)
deriving DecidableEq

/-- The digits of a group. -/
def DigitGroup.digits (group : DigitGroup) : List (Fin 10) :=
  group.first :: group.rest

/-- A whole number as it may be spelled. -/
structure Numeral where
  sign : Option Sign
  leading : DigitGroup
  more : List DigitGroup
deriving DecidableEq

namespace Numeral

/-- What stands between two groups. -/
def separator : Char := '_'

/-- The character of a digit. -/
def digitChar (digit : Fin 10) : Char :=
  Nat.digitChar digit

/-- The spelling of a group. -/
def spellGroup (group : DigitGroup) : List Char :=
  group.digits.map digitChar

/-- The spelling of the groups, a separator in front of each but the first. -/
def spellGroups (leading : DigitGroup) (more : List DigitGroup) : List Char :=
  spellGroup leading ++ more.flatMap fun group => separator :: spellGroup group

/-- The spelling of a numeral. -/
def spell (numeral : Numeral) : List Char :=
  (numeral.sign.map Sign.char).toList ++ spellGroups numeral.leading numeral.more

/-- All digits of a numeral, the separators left out. -/
def digits (numeral : Numeral) : List (Fin 10) :=
  numeral.leading.digits ++ numeral.more.flatMap DigitGroup.digits

/-- The number that some digits stand for, leading zeros allowed. -/
def magnitude (digits : List (Fin 10)) : Nat :=
  digits.foldl (fun (total : Nat) (digit : Fin 10) => 10 * total + digit.val) 0

/-- The integer that a numeral denotes. -/
def value (numeral : Numeral) : Int :=
  if numeral.sign = some .minus then -(magnitude numeral.digits : Int)
  else magnitude numeral.digits

/-- The nearest integer that 64 bits with a sign can hold. -/
def clamp (z : Int) : Int :=
  max Int64.minValue.toInt (min Int64.maxValue.toInt z)

end Numeral

end Walkthrough
