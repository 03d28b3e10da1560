import Walkthrough.Text.Unprintable

/-!
# Quoted texts

A text inside a message stands between double quotes.  Six characters have a short escape of their
own, an unprintable character is written by its number, and every other character stands for
itself.
-/

namespace Walkthrough.Text.Quoted

/-- The letter of the short escape that a character has, if it has one. -/
def shortEscape? : Char → Option Char
  | '\x00' => some '0'
  | '\t' => some 't'
  | '\n' => some 'n'
  | '\r' => some 'r'
  | '"' => some '"'
  | '\\' => some '\\'
  | _ => none

/-- The escape by number: lower-case hexadecimal digits without leading zeros, in braces. -/
def numbered (c : Char) : List Char :=
  '\\' :: 'u' :: '\x7b' :: (Nat.toDigits 16 c.toNat ++ ['\x7d'])

/-- The form of one character inside the quotes. -/
def escape (c : Char) : List Char :=
  match shortEscape? c with
  | some letter => ['\\', letter]
  | none => if isUnprintable c then numbered c else [c]

/-- The text with every character escaped, between double quotes. -/
def encode (text : List Char) : List Char :=
  '"' :: (text.flatMap escape ++ ['"'])

/-- The quoted form of a text. -/
def quote (text : String) : String :=
  String.ofList (encode text.toList)

example : quote "it's \t\"e\u0301\"" = "\"it's \\t\\\"e\\u\x7b301\x7d\\\"\"" := by decide +kernel

end Walkthrough.Text.Quoted
