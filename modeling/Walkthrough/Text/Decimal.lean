/-!
# Decimal numerals of 64 bits

Writing an integer in decimal, and reading one digit by digit in checked 64-bit arithmetic.
The digits of a negative numeral are subtracted, those of any other are added, so that both ends
of the range can be read; the first step out of the range ends the reading.
-/

namespace Walkthrough.Text.Decimal

/-! ## Writing -/

/-- The decimal numeral of a natural number, without leading zeros. -/
def ofNat (n : Nat) : String :=
  String.ofList (Nat.toDigits 10 n)

/-- The decimal numeral of an integer, with a minus sign in front of a negative one. -/
def ofInt (z : Int) : String :=
  String.ofList (if z < 0 then '-' :: Nat.toDigits 10 z.natAbs else Nat.toDigits 10 z.natAbs)

/-! ## Checked arithmetic -/

/-- The product, unless it leaves the range. -/
def times? (a b : Int64) : Option Int64 :=
  if a.toBitVec.smulOverflow b.toBitVec then none else some (a * b)

/-- The sum, unless it leaves the range. -/
def plus? (a b : Int64) : Option Int64 :=
  if a.toBitVec.saddOverflow b.toBitVec then none else some (a + b)

/-- The difference, unless it leaves the range. -/
def minus? (a b : Int64) : Option Int64 :=
  if a.toBitVec.ssubOverflow b.toBitVec then none else some (a - b)

/-! ## Reading -/

/-- Why a numeral cannot be read. -/
inductive Defect where
  | noDigits
  | strangeCharacter
  | tooLarge
  | tooSmall
deriving DecidableEq

/-- The wording of a defect. -/
def Defect.text : Defect → String
  | .noDigits => "cannot parse integer from empty string"
  | .strangeCharacter => "invalid digit found in string"
  | .tooLarge => "number too large to fit in target type"
  | .tooSmall => "number too small to fit in target type"

/-- Which way the digits of a numeral count. -/
inductive Direction where
  | up
  | down
deriving DecidableEq

namespace Direction

/-- The total after one more digit. -/
def extend? (way : Direction) (total digit : Int64) : Option Int64 :=
  (times? total 10).bind fun shifted =>
    match way with
    | .up => plus? shifted digit
    | .down => minus? shifted digit

/-- What is wrong with a numeral that leaves the range in this direction. -/
def overflow : Direction → Defect
  | .up => .tooLarge
  | .down => .tooSmall

end Direction

/-- The value of a decimal digit. -/
def digitValue (c : Char) : Int64 :=
  Int64.ofNat (c.toNat - '0'.toNat)

/-- Count the digits of a numeral onto a total. -/
def accumulate (way : Direction) (total : Int64) : List Char → Except Defect Int64
  | [] => .ok total
  | c :: rest =>
    if c.isDigit then
      match way.extend? total (digitValue c) with
      | some extended => accumulate way extended rest
      | none => .error way.overflow
    else .error .strangeCharacter

/-- Read a numeral with an optional sign. -/
def read : List Char → Except Defect Int64
  | [] => .error .noDigits
  | ['-'] => .error .strangeCharacter
  | ['+'] => .error .strangeCharacter
  | '-' :: digits => accumulate .down 0 digits
  | '+' :: digits => accumulate .up 0 digits
  | digits => accumulate .up 0 digits

example : read "-9223372036854775808".toList = .ok Int64.minValue := rfl

example : read "9223372036854775808".toList = .error .tooLarge := rfl

end Walkthrough.Text.Decimal
