import Walkthrough.Age.Basic
import Walkthrough.Text.Blank
import Walkthrough.Text.Decimal

/-!
# Reading an age

An age may be surrounded by blanks, may have a sign, and may have single separators between its
digits.  A number out of the range of 64 bits is taken as the end of the range on its side.  What is
no age is refused with the first of the defects that it has, in the order in which they are listed.
-/

namespace Walkthrough.Age

/-- Why a text is no age. -/
inductive Defect where
  /-- nothing but blanks -/
  | empty
  /-- no digits, or something else than digits and separators -/
  | notANumber
  /-- a separator that does not stand between two digits -/
  | misplacedSeparator
  /-- digits that no number can be read from -/
  | unreadable (defect : Text.Decimal.Defect)
deriving DecidableEq

/-- The wording of a defect. -/
def Defect.reason : Defect → String
  | .empty => "empty input"
  | .notANumber => "not a number"
  | .misplacedSeparator => "misplaced digit separator"
  | .unreadable defect => defect.text

/-- What may stand between two digits. -/
def separator : Char := '_'

/-- Whether the number is negative, and the text without its sign. -/
def splitSign : List Char → Bool × List Char
  | '-' :: body => (true, body)
  | '+' :: body => (false, body)
  | body => (false, body)

/-- Whether two separators stand side by side. -/
def hasDoubledSeparator : List Char → Bool
  | a :: b :: rest =>
    (a == separator && b == separator) || hasDoubledSeparator (b :: rest)
  | _ => false

/-- Whether some separator does not stand between two digits. -/
def hasMisplacedSeparator (body : List Char) : Bool :=
  body.head? == some separator || body.getLast? == some separator || hasDoubledSeparator body

/-- The age that a readable number gives: numbers out of range are taken as the end of the range. -/
def ofReading : Except Text.Decimal.Defect Int64 → Except Defect Age
  | .ok years => .ok ⟨years⟩
  | .error .tooLarge => .ok ⟨Int64.maxValue⟩
  | .error .tooSmall => .ok ⟨Int64.minValue⟩
  | .error defect => .error (.unreadable defect)

/-- Read an age whose surrounding blanks are gone. -/
def readTrimmed (text : List Char) : Except Defect Age :=
  if text.isEmpty then .error .empty
  else
    let (negative, body) := splitSign text
    if body.isEmpty || !body.all fun c => c.isDigit || c == separator then .error .notANumber
    else if hasMisplacedSeparator body then .error .misplacedSeparator
    else
      let digits := body.filter fun c => c != separator
      ofReading (Text.Decimal.read (if negative then '-' :: digits else digits))

/-- Read an age. -/
def read (text : String) : Except Defect Age :=
  readTrimmed (Text.trim text.toList)

example : read " +1_3\r" = .ok ⟨13⟩ := rfl

example : read "1__3" = .error .misplacedSeparator := rfl

example : read "-99999999999999999999" = .ok ⟨Int64.minValue⟩ := rfl

end Walkthrough.Age
