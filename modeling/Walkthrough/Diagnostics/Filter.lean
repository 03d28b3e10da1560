import Walkthrough.Diagnostics.Level
import Walkthrough.Text.Pieces

/-!
# Log filters

Which diagnostics are shown is set by a list of directives between commas.  A directive is a
threshold, or the beginning of a target's name with a threshold for such targets; a name alone
shows everything from them.  Of the directives that apply to a target the most specific decides, and
of equally specific ones the last.
-/

namespace Walkthrough.Diagnostics

/-- One rule of a filter. -/
structure Directive where
  /-- the beginning of the names of the targets that it applies to, or all targets -/
  target : Option (List Char)
  threshold : Threshold
deriving DecidableEq

namespace Directive

/-- Whether a directive applies to a target. -/
def appliesTo (directive : Directive) (target : List Char) : Bool :=
  match directive.target with
  | none => true
  | some start => start.isPrefixOf target

/-- How much a directive says about the targets that it applies to. -/
def specificity (directive : Directive) : Nat :=
  match directive.target with
  | none => 0
  | some start => start.length + 1

/-- Whether a directive may begin with a character. -/
def mayBegin (c : Char) : Bool :=
  c.isAlphanum || c == '-' || c == ':' || c == '_' || decide (128 ≤ c.toNat)

/-- A directive without a threshold of its own: a threshold for all targets if the text names one,
else the name of a target that is shown in full. -/
def ofBare (text : List Char) : Directive :=
  match Threshold.ofText? text with
  | some threshold => ⟨none, threshold⟩
  | none => ⟨some text, .upTo .trace⟩

/-- A directive for a target; without a threshold it shows the target in full. -/
def ofTarget? (target threshold : List Char) : Option Directive :=
  if threshold.isEmpty then some ⟨some target, .upTo .trace⟩
  else (Threshold.ofText? threshold).map fun threshold => ⟨some target, threshold⟩

/-- Read a directive. -/
def ofText? (text : List Char) : Option Directive :=
  match text with
  | [] => none
  | first :: _ =>
    if mayBegin first then
      match text.dropWhile (· != '=') with
      | [] => some (ofBare text)
      | _ :: threshold => ofTarget? (text.takeWhile (· != '=')) threshold
    else none

end Directive

/-- Which diagnostics are shown. -/
structure Filter where
  directives : List Directive
deriving DecidableEq

namespace Filter

/-- The filter in force where none is set: warnings and worse. -/
def standard : Filter := ⟨[⟨none, .upTo .warn⟩]⟩

/-- The filter of a setting that holds no directive: errors alone. -/
def errorsOnly : Filter := ⟨[⟨none, .upTo .error⟩]⟩

/-- Read a filter; empty directives do not count. -/
def ofText? (text : String) : Option Filter :=
  let parts := (Text.pieces ',' text.toList).filter fun part => !part.isEmpty
  if parts.isEmpty then some errorsOnly
  else (parts.mapM Directive.ofText?).map fun directives => ⟨directives⟩

/-- The filter of a setting; one that is missing or cannot be read counts for nothing. -/
def ofSetting (setting : Option String) : Filter :=
  (setting.bind ofText?).getD standard

/-- Of two directives the one that decides, the second coming later. -/
def moreDecisive (best : Option Directive) (directive : Directive) : Option Directive :=
  match best with
  | none => some directive
  | some best => if best.specificity ≤ directive.specificity then some directive else some best

/-- The directive that decides about a target. -/
def decisive? (filter : Filter) (target : String) : Option Directive :=
  (filter.directives.filter fun directive => directive.appliesTo target.toList).foldl
    moreDecisive none

/-- Whether a diagnostic of some target and level is shown. -/
def shows (filter : Filter) (target : String) (level : Level) : Bool :=
  match filter.decisive? target with
  | none => false
  | some directive => directive.threshold.admits level

/-- What is shown at some level is shown at every more urgent one. -/
theorem shows_of_rank_le {filter : Filter} {target : String} {a b : Level} (h : a.rank ≤ b.rank)
    (hb : filter.shows target b = true) : filter.shows target a = true := by
  unfold shows at hb ⊢
  split at hb
  · cases hb
  · exact Threshold.admits_of_rank_le h hb

example : (ofSetting (some "warn,tour=debug")).shows "tour::session" .debug = true := by
  decide +kernel

example : (ofSetting (some "debug,tour=off")).shows "tour::session" .warn = false := by
  decide +kernel

example : ofSetting (some "tour=bogus") = standard := by decide +kernel

end Filter

end Walkthrough.Diagnostics
