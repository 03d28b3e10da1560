import Walkthrough.Dialogue.Performance

/-!
# Saying in parts and saying at once

A trace joins neighbouring writes, so it does not show in how many parts a text was said.  Dialogues
that no console can tell apart are `Dialogue.Alike`, and saying two texts one after the other is
alike to saying them at once (`say_say_alike`), wherever a fault may lie: the writer takes the same
octets and fails at the same one.
-/

namespace Walkthrough

namespace Trace

/-- Joining a write in front of a joined write is joining both at once. -/
theorem push_out_push_out (a b : List UInt8) (trace : Trace) :
    push (.out a) (push (.out b) trace) = push (.out (a ++ b)) trace := by
  rcases a with _ | ⟨x, a⟩
  · rfl
  · rcases b with _ | ⟨y, b⟩
    · rw [List.append_nil]
      rfl
    · rcases trace with _ | ⟨effect, rest⟩
      · simp [push]
      · cases effect <;> simp [push]

theorem merge_out_out (a b : List UInt8) (trace : Trace) :
    merge (.out a :: .out b :: trace) = merge (.out (a ++ b) :: trace) :=
  push_out_push_out a b (merge trace)

theorem merge_out_nil (trace : Trace) : merge (.out [] :: trace) = merge trace := rfl

/-! ## What does not join -/

variable {effect : Effect} {trace front back : Trace}

/-- An effect that is no write stands between those before it and those behind it. -/
theorem push_append (silent : ∀ octets, effect ≠ .out octets) (first : Effect) :
    push first (trace ++ effect :: back) = push first trace ++ effect :: back := by
  rcases trace with _ | ⟨next, rest⟩
  · cases effect with
    | out octets => exact absurd rfl (silent octets)
    | flush | read count | log entry =>
      rcases first with (_ | ⟨octet, octets⟩) | _ | _ | _ <;> rfl
  · cases next with
    | out more | flush | read count | log entry =>
      rcases first with (_ | ⟨octet, octets⟩) | _ | _ | _ <;> rfl

theorem merge_cons (silent : ∀ octets, effect ≠ .out octets) :
    merge (effect :: trace) = effect :: merge trace := by
  cases effect with
  | out octets => exact absurd rfl (silent octets)
  | flush | read count | log entry => rfl

theorem merge_append (silent : ∀ octets, effect ≠ .out octets) :
    merge (trace ++ effect :: back) = merge trace ++ effect :: merge back := by
  induction trace with
  | nil => exact merge_cons silent
  | cons first rest ih => rw [List.cons_append, merge, ih, push_append silent, merge]

theorem eq_or_exists_of_push_eq_append (silent : ∀ octets, effect ≠ .out octets) {first : Effect}
    (h : push first trace = front ++ effect :: back) :
    (first = effect ∧ front = [] ∧ trace = back) ∨
      ∃ before, trace = before ++ effect :: back ∧ push first before = front := by
  -- where the effect stands behind some others, the one in front joins those
  have behind : ∀ before, trace = before ++ effect :: back → push first before = front := by
    rintro before rfl
    rw [push_append silent] at h
    exact List.append_cancel_right h
  revert h
  fun_cases push first trace with
  | case1 trace => exact fun h => .inr ⟨front, h, rfl⟩
  | case2 octets more rest =>
    intro h
    rcases front with _ | ⟨head, front⟩
    · exact absurd (List.cons.inj h).1.symm (silent _)
    · have tail : Effect.out more :: rest = (.out more :: front) ++ effect :: back :=
        congrArg (List.cons _) (List.cons.inj h).2
      exact .inr ⟨_, tail, behind _ tail⟩
  | case3 =>
    intro h
    rcases front with _ | ⟨head, front⟩
    · exact .inl ⟨(List.cons.inj h).1, rfl, (List.cons.inj h).2⟩
    · exact .inr ⟨front, (List.cons.inj h).2, behind _ (List.cons.inj h).2⟩

/-- An effect that is no write and stands in a joined trace stood there before the joining. -/
theorem exists_of_merge_eq_append (silent : ∀ octets, effect ≠ .out octets)
    (h : merge trace = front ++ effect :: back) :
    ∃ before behind, trace = before ++ effect :: behind ∧ merge before = front ∧
      merge behind = back := by
  induction trace generalizing front with
  | nil => exact absurd h (by simp [merge])
  | cons first rest ih =>
    rw [merge] at h
    rcases eq_or_exists_of_push_eq_append silent h with ⟨rfl, rfl, same⟩ | ⟨joined, inner, rfl⟩
    · exact ⟨[], rest, rfl, rfl, same⟩
    · obtain ⟨before, behind, rfl, rfl, rfl⟩ := ih inner
      exact ⟨first :: before, behind, rfl, rfl, rfl⟩

end Trace

namespace Performance

variable {α : Type}

/-- Two performances that give the same result, show the same trace, and leave the same console. -/
structure Alike (p q : Performance α) : Prop where
  result : p.result = q.result
  trace : p.trace = q.trace
  console : p.console = q.console

theorem Alike.rfl {p : Performance α} : p.Alike p := ⟨Eq.refl _, Eq.refl _, Eq.refl _⟩

theorem Alike.trans {p q r : Performance α} (h : p.Alike q) (k : q.Alike r) : p.Alike r :=
  ⟨h.result.trans k.result, h.trace.trans k.trace, h.console.trans k.console⟩

/-- The same effect in front keeps performances alike. -/
theorem Alike.after {p q : Performance α} (h : p.Alike q) (effect : Effect) :
    (p.after effect).Alike (q.after effect) :=
  ⟨h.result, congrArg (Trace.push effect) h.trace, h.console⟩

end Performance

namespace Console

/-! ## What a writer does with two texts -/

variable {console : Console} {a b : List UInt8}

/-- A writer refuses octets exactly if they go beyond the point of its fault. -/
theorem refusal?_eq_some_iff {error : DeviceError} :
    console.refusal? a = some error ↔ ∃ fault, console.writeFault = some fault ∧
      fault.error = error ∧ fault.point - console.accepted < a.length := by
  unfold refusal?
  cases console.writeFault with
  | none => simp
  | some fault =>
    by_cases le : a.length ≤ fault.point - console.accepted
    · simp [le]
    · simp [le, Nat.lt_of_not_le le]

/-- A writer that refuses the first text refuses both together, at the same octet. -/
theorem refusal?_append_of_left {error : DeviceError} (h : console.refusal? a = some error) :
    console.refusal? (a ++ b) = some error ∧
      console.acceptedOf (a ++ b) = console.acceptedOf a := by
  obtain ⟨fault, laid, rfl, short⟩ := refusal?_eq_some_iff.mp h
  have longer : fault.point - console.accepted < (a ++ b).length := by
    rw [List.length_append]
    omega
  refine ⟨refusal?_eq_some_iff.mpr ⟨fault, laid, rfl, longer⟩, ?_⟩
  simp only [acceptedOf, laid]
  exact List.take_append_of_le_length (Nat.le_of_lt short)

/-- A writer that has taken the first text treats the second as the rest of both. -/
theorem refusal?_append_of_right (h : console.refusal? a = none) :
    console.refusal? (a ++ b) = (console.write a).refusal? b ∧
      console.acceptedOf (a ++ b) = a ++ (console.write a).acceptedOf b := by
  have whole := acceptedOf_of_refusal?_eq_none h
  have total : (console.write a).accepted = console.accepted + a.length := by
    rw [write, whole]
  have same : (console.write a).writeFault = console.writeFault := rfl
  unfold refusal? at h ⊢
  unfold acceptedOf
  rw [same, total]
  cases fault : console.writeFault with
  | none => exact ⟨rfl, rfl⟩
  | some f =>
    rw [fault] at h
    simp only at h ⊢
    by_cases le : a.length ≤ f.point - console.accepted
    · rw [List.take_append, List.take_of_length_le le, Nat.sub_sub]
      refine ⟨?_, rfl⟩
      have iff : (a ++ b).length ≤ f.point - console.accepted ↔
          b.length ≤ f.point - (console.accepted + a.length) := by
        rw [List.length_append]
        omega
      simp only [iff]
    · rw [if_neg le] at h
      cases h

theorem write_append_of_left {error : DeviceError} (h : console.refusal? a = some error) :
    console.write (a ++ b) = console.write a := by
  rw [write, (refusal?_append_of_left h).2, write]

theorem write_append_of_right (h : console.refusal? a = none) :
    console.write (a ++ b) = (console.write a).write b := by
  have whole := acceptedOf_of_refusal?_eq_none h
  simp only [write, (refusal?_append_of_right h).2, whole, List.length_append, Nat.add_assoc]

end Console

namespace Dialogue

variable {α β : Type}

/-- Two dialogues that no console can tell apart. -/
def Alike (a b : Dialogue α) : Prop :=
  ∀ console, (a.perform console).Alike (b.perform console)

theorem Alike.rfl {a : Dialogue α} : a.Alike a := fun _ => .rfl

theorem Alike.trans {a b c : Dialogue α} (h : a.Alike b) (k : b.Alike c) : a.Alike c :=
  fun console => (h console).trans (k console)

theorem Alike.note {a b : Dialogue α} (h : a.Alike b) (entry : Diagnostics.Entry) :
    (note entry a).Alike (note entry b) :=
  fun console => (h console).after _

theorem Alike.say {a b : Dialogue α} (h : a.Alike b) (text : String) :
    (say text a).Alike (say text b) := by
  intro console
  simp only [perform]
  split
  · exact .rfl
  · exact (h _).after _

theorem Alike.flush {a b : Dialogue α} (h : a.Alike b) : (flush a).Alike (flush b) := by
  intro console
  simp only [perform]
  split
  · exact .rfl
  · exact (h _).after _

theorem Alike.listen {a b : String → Dialogue α} (h : ∀ line, (a line).Alike (b line)) :
    (listen a).Alike (listen b) := by
  intro console
  simp only [perform]
  split
  · exact .rfl
  · exact (h _ _).after _

/-- Saying nothing is doing nothing. -/
theorem say_empty_alike (next : Dialogue α) : next.Alike (say "" next) := by
  intro console
  have kept : console.write [] = console := by simp [Console.write]
  simp only [perform, Text.Utf8.encode_empty, Console.refusal?_nil, kept]
  exact ⟨rfl, (Trace.merge_out_nil _).symm, rfl⟩

/-- **Saying two texts is saying them at once**, on every console. -/
theorem say_say_alike (a b : String) (next : Dialogue α) :
    (say a (say b next)).Alike (say (a ++ b) next) := by
  intro console
  simp only [perform, Text.Utf8.encode_append]
  cases first : console.refusal? (Text.Utf8.encode a) with
  | some error =>
    -- the writer fails within the first text and never sees the second
    obtain ⟨refused, taken⟩ := Console.refusal?_append_of_left (b := Text.Utf8.encode b) first
    rw [refused, taken, Console.write_append_of_left first]
    exact .rfl
  | none =>
    obtain ⟨refused, taken⟩ := Console.refusal?_append_of_right (b := Text.Utf8.encode b) first
    rw [refused, taken, Console.write_append_of_right first]
    simp only
    cases (console.write (Text.Utf8.encode a)).refusal? (Text.Utf8.encode b) with
    | some error => exact ⟨rfl, Trace.merge_out_out _ _ [], rfl⟩
    | none => exact ⟨rfl, Trace.merge_out_out _ _ _, rfl⟩

/-- Some lines as one text. -/
def linesText (lines : List String) : String :=
  lines.foldr (fun line rest => line ++ "\n" ++ rest) ""

/-- Saying lines one by one is saying their text at once. -/
theorem sayLines_bind_alike (lines : List String) (next : Dialogue α) :
    ((sayLines lines).bind fun _ => next).Alike (say (linesText lines) next) := by
  induction lines with
  | nil => exact say_empty_alike next
  | cons line lines ih =>
    have unfolded : ((sayLines (line :: lines)).bind fun _ => next) =
        say (line ++ "\n") ((sayLines lines).bind fun _ => next) := rfl
    rw [unfolded]
    exact (ih.say _).trans (say_say_alike _ _ _)

end Dialogue

end Walkthrough
