import Walkthrough.Diagnostics.Entry

/-!
# Traces

What happens on a console, effect by effect.  Neighbouring writes are one effect, and a write of
nothing is none: `merge` brings a list of effects into that form.  Main statements: merging keeps
the octets written (`written_merge`), the octets read, the flushes and the log.
-/

namespace Walkthrough

/-- One effect on a console. -/
inductive Effect where
  /-- octets accepted by the writer -/
  | out (octets : List UInt8)
  /-- a flush, also one that fails -/
  | flush
  /-- a line read, with the number of octets consumed by it -/
  | read (count : Nat)
  /-- a report -/
  | log (entry : Diagnostics.Entry)
deriving DecidableEq

namespace Effect

/-- The octets that an effect writes. -/
def written : Effect → List UInt8
  | out octets => octets
  | _ => []

/-- The number of octets that an effect consumes. -/
def consumed : Effect → Nat
  | read count => count
  | _ => 0

/-- The report that an effect makes, if it is one. -/
def entry? : Effect → Option Diagnostics.Entry
  | log entry => some entry
  | _ => none

end Effect

/-- The effects of a performance in their order. -/
abbrev Trace := List Effect

namespace Trace

/-- All octets written. -/
def written (trace : Trace) : List UInt8 :=
  trace.flatMap Effect.written

/-- The number of octets consumed. -/
def consumed (trace : Trace) : Nat :=
  trace.foldr (fun effect count => effect.consumed + count) 0

/-- All reports. -/
def entries (trace : Trace) : List Diagnostics.Entry :=
  trace.filterMap Effect.entry?

/-- Put an effect in front of merged effects. -/
def push : Effect → Trace → Trace
  | .out [], trace => trace
  | .out octets, .out more :: trace => .out (octets ++ more) :: trace
  | effect, trace => effect :: trace

/-- Join neighbouring writes and leave out empty ones. -/
def merge : Trace → Trace
  | [] => []
  | effect :: rest => push effect (merge rest)

@[simp]
theorem written_nil : written [] = [] := rfl

@[simp]
theorem written_cons (effect : Effect) (trace : Trace) :
    written (effect :: trace) = effect.written ++ written trace := rfl

@[simp]
theorem written_append (a b : Trace) : written (a ++ b) = written a ++ written b := by
  simp [written]

@[simp]
theorem consumed_nil : consumed [] = 0 := rfl

@[simp]
theorem consumed_cons (effect : Effect) (trace : Trace) :
    consumed (effect :: trace) = effect.consumed + consumed trace := rfl

@[simp]
theorem consumed_append (a b : Trace) : consumed (a ++ b) = consumed a + consumed b := by
  induction a with
  | nil => simp
  | cons effect rest ih => rw [List.cons_append, consumed_cons, ih, consumed_cons, Nat.add_assoc]

@[simp]
theorem entries_nil : entries [] = [] := rfl

@[simp]
theorem entries_append (a b : Trace) : entries (a ++ b) = entries a ++ entries b := by
  simp [entries]

/-! ## What merging keeps -/

theorem written_push (effect : Effect) (trace : Trace) :
    written (push effect trace) = effect.written ++ written trace := by
  fun_cases push effect trace <;> simp [Effect.written]

@[simp]
theorem written_merge (trace : Trace) : written (merge trace) = written trace := by
  induction trace with
  | nil => rfl
  | cons effect rest ih => rw [merge, written_push, ih, written_cons]

theorem consumed_push (effect : Effect) (trace : Trace) :
    consumed (push effect trace) = effect.consumed + consumed trace := by
  fun_cases push effect trace <;> simp [Effect.consumed]

@[simp]
theorem consumed_merge (trace : Trace) : consumed (merge trace) = consumed trace := by
  induction trace with
  | nil => rfl
  | cons effect rest ih => rw [merge, consumed_push, ih, consumed_cons]

theorem entries_push (effect : Effect) (trace : Trace) :
    entries (push effect trace) = entries (effect :: trace) := by
  fun_cases push effect trace <;> simp [entries, List.filterMap_cons, Effect.entry?]

@[simp]
theorem entries_merge (trace : Trace) : entries (merge trace) = entries trace := by
  induction trace with
  | nil => rfl
  | cons effect rest ih =>
    rw [merge, entries_push]
    unfold entries at ih ⊢
    rw [List.filterMap_cons, List.filterMap_cons, ih]

end Trace

end Walkthrough
