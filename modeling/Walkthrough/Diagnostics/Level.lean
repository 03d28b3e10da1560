/-!
# Levels of diagnostics

Every diagnostic has a level.  A threshold admits the levels up to some most talkative one, or
none at all.
-/

namespace Walkthrough.Diagnostics

/-- How much a diagnostic matters, the most urgent first. -/
inductive Level where
  | error
  | warn
  | info
  | debug
  | trace
deriving DecidableEq

namespace Level

/-- The place of a level in the order of urgency, counted from one. -/
def rank : Level → Nat
  | error => 1
  | warn => 2
  | info => 3
  | debug => 4
  | trace => 5

/-- The label of a level, aligned right in five columns. -/
def label : Level → String
  | error => "ERROR"
  | warn => " WARN"
  | info => " INFO"
  | debug => "DEBUG"
  | trace => "TRACE"

end Level

/-- Which levels are shown. -/
inductive Threshold where
  | off
  | upTo (most : Level)
deriving DecidableEq

namespace Threshold

/-- Whether a level is shown. -/
def admits : Threshold → Level → Bool
  | off, _ => false
  | upTo most, level => decide (level.rank ≤ most.rank)

theorem admits_of_rank_le {threshold : Threshold} {a b : Level} (h : a.rank ≤ b.rank)
    (hb : threshold.admits b = true) : threshold.admits a = true := by
  cases threshold with
  | off => cases hb
  | upTo most =>
    simp only [admits, decide_eq_true_eq] at hb ⊢
    omega

/-- The threshold of that number. -/
def ofNat? : Nat → Option Threshold
  | 0 => some off
  | 1 => some (upTo .error)
  | 2 => some (upTo .warn)
  | 3 => some (upTo .info)
  | 4 => some (upTo .debug)
  | 5 => some (upTo .trace)
  | _ => none

/-- The threshold of that name, in lower case. -/
def ofName? : String → Option Threshold
  | "off" => some off
  | "error" => some (upTo .error)
  | "warn" => some (upTo .warn)
  | "info" => some (upTo .info)
  | "debug" => some (upTo .debug)
  | "trace" => some (upTo .trace)
  | _ => none

/-- The natural number that a text of digits spells, a plus sign in front allowed. -/
def number? (text : List Char) : Option Nat :=
  let digits := match text with
    | '+' :: digits => digits
    | digits => digits
  if digits.isEmpty || !digits.all Char.isDigit then none
  else some (digits.foldl (fun total c => 10 * total + (c.toNat - '0'.toNat)) 0)

/-- The threshold that a text names, by number or by name in any case. -/
def ofText? (text : List Char) : Option Threshold :=
  match (number? text).bind ofNat? with
  | some threshold => some threshold
  | none => ofName? (String.ofList (text.map Char.toLower))

end Threshold

end Walkthrough.Diagnostics
