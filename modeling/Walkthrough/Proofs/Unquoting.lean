import Mathlib.Data.List.Infix
import Walkthrough.Interruption

/-!
# Messages tell what they are about

A quoted text can be read back, character by character, whatever it holds and whatever follows its
last quote (`Text.Quoted.decode?_encode_append`): no escape begins another one, and what stands for
itself is neither a quote nor a backslash.  So the message about a rejected answer gives the answer
back, and then the reason (`Interruption.readRejection?_message`), and no two interruptions that
differ in what they tell have one message (`Interruption.message_eq_message_iff`).
-/

namespace Walkthrough

/-- What stands behind a heading is found again. -/
theorem Text.isPrefixOf?_append (heading rest : List Char) :
    heading.isPrefixOf? (heading ++ rest) = some rest :=
  List.isPrefixOf?_eq_some_iff_append_eq.mpr rfl

namespace Text.Quoted

/-! ## Reading a quoted text -/

/-- Where the reader of a quoted text stands. -/
inductive Place where
  /-- between two characters -/
  | between
  /-- behind a backslash -/
  | escaped
  /-- behind the letter of an escape by number -/
  | opening
  /-- among the digits of an escape by number, with the number that they make so far -/
  | number (point : Nat)

/-- The character of which a letter is the short escape. -/
def ofLetter? : Char → Option Char
  | '0' => some '\x00'
  | 't' => some '\t'
  | 'n' => some '\n'
  | 'r' => some '\r'
  | '"' => some '"'
  | '\\' => some '\\'
  | _ => none

/-- The value of a lower-case hexadecimal digit. -/
def hexValue? (c : Char) : Option Nat :=
  if '0' ≤ c ∧ c ≤ '9' then some (c.toNat - '0'.toNat)
  else if 'a' ≤ c ∧ c ≤ 'f' then some (c.toNat - 'a'.toNat + 10)
  else none

/-- A text that was read, with one more character in front of it. -/
def prepend (c : Char) (read : List Char × List Char) : List Char × List Char :=
  (c :: read.1, read.2)

/-- Read a quoted text to its last quote, and leave what follows it. -/
def readFrom : Place → List Char → Option (List Char × List Char)
  | _, [] => none
  | .between, c :: rest =>
    if c = '"' then some ([], rest)
    else if c = '\\' then readFrom .escaped rest
    else (readFrom .between rest).map (prepend c)
  | .escaped, c :: rest =>
    if c = 'u' then readFrom .opening rest
    else (ofLetter? c).bind fun short => (readFrom .between rest).map (prepend short)
  | .opening, c :: rest => if c = '\x7b' then readFrom (.number 0) rest else none
  | .number point, c :: rest =>
    if c = '\x7d' then (readFrom .between rest).map (prepend (Char.ofNat point))
    else (hexValue? c).bind fun digit => readFrom (.number (16 * point + digit)) rest

/-- Read a quoted text, and leave what follows it. -/
def decode? : List Char → Option (List Char × List Char)
  | '"' :: rest => readFrom .between rest
  | _ => none

/-! ## Escapes are read back -/

theorem ofLetter?_of_shortEscape? {c letter : Char} (h : shortEscape? c = some letter) :
    letter ≠ 'u' ∧ ofLetter? letter = some c := by
  unfold shortEscape? at h
  split at h <;> cases h <;> decide

/-- What has no short escape is no quote and no backslash. -/
theorem ne_of_shortEscape?_eq_none {c : Char} (h : shortEscape? c = none) :
    c ≠ '"' ∧ c ≠ '\\' := by
  constructor <;>
  · rintro rfl
    cases h

theorem hexValue?_digitChar {digit : Nat} (small : digit < 16) :
    Nat.digitChar digit ≠ '\x7d' ∧ hexValue? (Nat.digitChar digit) = some digit := by
  revert digit
  decide

/-- The digits of a number bring the reader to that number. -/
theorem readFrom_toDigits_append (n : Nat) (rest : List Char) :
    readFrom (.number 0) (Nat.toDigits 16 n ++ rest) = readFrom (.number n) rest := by
  -- on the number: all digits but the last are those of a sixteenth of it
  induction n using Nat.strongRecOn generalizing rest with
  | ind n ih =>
    have last (point : Nat) {digit : Nat} (small : digit < 16) :
        readFrom (.number point) (Nat.digitChar digit :: rest) =
          readFrom (.number (16 * point + digit)) rest := by
      obtain ⟨noBrace, value⟩ := hexValue?_digitChar small
      rw [readFrom, if_neg noBrace, value]
      rfl
    rw [Nat.toDigits_eq_if (by decide)]
    by_cases small : n < 16
    · rw [if_pos small, List.singleton_append, last 0 small, Nat.mul_zero, Nat.zero_add]
    · have fewer : n / 16 < n := Nat.div_lt_self (by omega) (by decide)
      rw [if_neg small, List.append_assoc, List.singleton_append, ih (n / 16) fewer,
        last (n / 16) (Nat.mod_lt n (by decide)), Nat.div_add_mod]

/-- **An escaped character is read back**, and the reader goes on behind it. -/
theorem readFrom_escape_append (c : Char) (rest : List Char) :
    readFrom .between (escape c ++ rest) = (readFrom .between rest).map (prepend c) := by
  unfold escape
  cases short : shortEscape? c with
  | some letter =>
    obtain ⟨notNumbered, back⟩ := ofLetter?_of_shortEscape? short
    change readFrom .escaped (letter :: rest) = _
    rw [readFrom, if_neg notNumbered, back]
    rfl
  | none =>
    by_cases hidden : isUnprintable c = true
    · simp only [hidden, if_true, numbered, List.cons_append, List.append_assoc]
      change readFrom (.number 0) (Nat.toDigits 16 c.toNat ++ '\x7d' :: rest) = _
      rw [readFrom_toDigits_append, readFrom, if_pos rfl, Char.ofNat_toNat]
    · obtain ⟨noQuote, noBackslash⟩ := ne_of_shortEscape?_eq_none short
      simp only [hidden, if_false, Bool.false_eq_true, List.singleton_append]
      rw [readFrom, if_neg noQuote, if_neg noBackslash]

/-- **A quoted text ends at its last quote and is read back**, whatever follows it. -/
theorem decode?_encode_append (text rest : List Char) :
    decode? (encode text ++ rest) = some (text, rest) := by
  have inside : readFrom .between (text.flatMap escape ++ '"' :: rest) = some (text, rest) := by
    induction text with
    | nil => rfl
    | cons c text ih =>
      rw [List.flatMap_cons, List.append_assoc, readFrom_escape_append, ih]
      rfl
  rw [← inside, encode, List.cons_append, List.append_assoc]
  rfl

-- a text that holds what looks like its own end, and like an escape, with such an end behind it
example :
    decode? "\"7\\\" (\\\\u\x7b41\x7d\" (\")".toList =
      some ("7\" (\\u\x7b41\x7d".toList, " (\")".toList) := by decide +kernel

theorem toList_quote (text : String) : (quote text).toList = encode text.toList :=
  String.toList_ofList

end Text.Quoted

/-! ## Messages are read back -/

namespace Interruption

open Text.Quoted (readFrom prepend escape encode decode?)

/-- The answer that an interruption rejects, and the reason. -/
def rejection? : Interruption → Option (String × String)
  | ageRejected input reason => some (input, reason)
  | inputClosed => none
  | device _ => none

/-- Read the rejected answer and then the reason out of a message. -/
def readRejection? (message : String) : Option (String × String) := do
  let quoted ← "invalid literal for integer age: ".toList.isPrefixOf? message.toList
  let (input, behind) ← decode? quoted
  let reason ← " (".toList.isPrefixOf? behind
  return (String.ofList input, String.ofList reason.dropLast)

theorem toList_message_ageRejected (input reason : String) :
    (ageRejected input reason).message.toList =
      "invalid literal for integer age: ".toList ++
        (encode input.toList ++ (" (".toList ++ (reason.toList ++ ")".toList))) := by
  -- over any texts: the letters of the fixed ones are of no interest here
  have five (a b c d e : String) :
      (a ++ b ++ c ++ d ++ e).toList =
        a.toList ++ (b.toList ++ (c.toList ++ (d.toList ++ e.toList))) := by
    simp only [String.toList_append, List.append_assoc]
  exact (five _ _ _ _ _).trans (by rw [Text.Quoted.toList_quote])

theorem toList_message_device (error : DeviceError) :
    (device error).message.toList = "IO error: ".toList ++ error.text.toList :=
  String.toList_append

/-- **A message gives back what was rejected and why**, if something was. -/
theorem readRejection?_message (interruption : Interruption) :
    readRejection? interruption.message = interruption.rejection? := by
  cases interruption with
  | ageRejected input reason =>
    have closed : (reason.toList ++ ")".toList).dropLast = reason.toList := List.dropLast_concat
    rw [readRejection?, toList_message_ageRejected, Text.isPrefixOf?_append, Option.bind_eq_bind,
      Option.bind_some, Text.Quoted.decode?_encode_append, Option.bind_eq_bind, Option.bind_some]
    dsimp only
    rw [Text.isPrefixOf?_append, Option.bind_some, closed, String.ofList_toList,
      String.ofList_toList]
    rfl
  | inputClosed => rfl
  | device error =>
    rw [readRejection?, toList_message_device]
    rfl

/-! ## Messages tell interruptions apart -/

/-- The message about a device begins with a capital, the one about closed input does not. -/
theorem message_inputClosed_ne_device (error : DeviceError) :
    inputClosed.message ≠ (device error).message := by
  intro same
  have letters := congrArg String.toList same
  rw [toList_message_device] at letters
  cases letters

theorem text_eq_of_message_device {x y : DeviceError}
    (same : (device x).message = (device y).message) : x.text = y.text := by
  have letters := congrArg String.toList same
  rw [toList_message_device, toList_message_device] at letters
  exact String.toList_inj.mp (List.append_cancel_left letters)

/-- **Messages are the same just if the interruptions tell the same.**  Of a device that failed only
the text is told, not the kind of the failure. -/
theorem message_eq_message_iff {a b : Interruption} :
    a.message = b.message ↔
      (∃ input reason, a = ageRejected input reason ∧ b = ageRejected input reason) ∨
        (a = inputClosed ∧ b = inputClosed) ∨
          ∃ x y, a = device x ∧ b = device y ∧ x.text = y.text := by
  constructor
  · intro same
    -- the decoder tells rejections from the rest, and from one another
    have rejected : a.rejection? = b.rejection? := by
      rw [← readRejection?_message, same, readRejection?_message]
    cases a with
    | ageRejected input reason =>
      cases b with
      | ageRejected input' reason' =>
        cases rejected
        exact .inl ⟨input, reason, rfl, rfl⟩
      | inputClosed => cases rejected
      | device y => cases rejected
    | inputClosed =>
      cases b with
      | ageRejected input reason => cases rejected
      | inputClosed => exact .inr (.inl ⟨rfl, rfl⟩)
      | device y => exact absurd same (message_inputClosed_ne_device y)
    | device x =>
      cases b with
      | ageRejected input reason => cases rejected
      | inputClosed => exact absurd same.symm (message_inputClosed_ne_device x)
      | device y => exact .inr (.inr ⟨x, y, rfl, rfl, text_eq_of_message_device same⟩)
  · rintro (⟨input, reason, rfl, rfl⟩ | ⟨rfl, rfl⟩ | ⟨x, y, rfl, rfl, texts⟩)
    · rfl
    · rfl
    · exact congrArg ("IO error: " ++ ·) texts

/-- **Messages identify what they are about.**  Interruptions with one message tell the same; a
message gives back the rejected answer and the reason, whatever characters these hold; and it does
so since a quoted text is read one character at a time, and ends where it ends whatever follows. -/
theorem messages_identify :
    (∀ a b : Interruption, a.message = b.message ↔
      (∃ input reason, a = ageRejected input reason ∧ b = ageRejected input reason) ∨
        (a = inputClosed ∧ b = inputClosed) ∨
          ∃ x y, a = device x ∧ b = device y ∧ x.text = y.text) ∧
    (∀ input reason,
      readRejection? (ageRejected input reason).message = some (input, reason)) ∧
    (∀ text rest : List Char, decode? (encode text ++ rest) = some (text, rest)) ∧
    ∀ (c : Char) (rest : List Char),
      readFrom .between (escape c ++ rest) = (readFrom .between rest).map (prepend c) := by
  refine ⟨fun a b => message_eq_message_iff, fun input reason => ?_,
    Text.Quoted.decode?_encode_append, Text.Quoted.readFrom_escape_append⟩
  rw [readRejection?_message]
  rfl

end Interruption

end Walkthrough
