/-!
# Lines

A line of octets reaches up to and with its newline, or to the end where there is none.  A line of
text loses its terminator: the newline and, only in front of a newline, one carriage return.
-/

namespace Walkthrough.Text.Line

/-- The octet that ends a line. -/
def newline : UInt8 := 10

/-- The first line of some octets, terminator included, and what follows it. -/
def split : List UInt8 → List UInt8 × List UInt8
  | [] => ([], [])
  | octet :: rest =>
    if octet = newline then ([octet], rest) else (octet :: (split rest).1, (split rest).2)

/-- Whether a line has its newline. -/
def isEnded (line : List UInt8) : Bool :=
  line.getLast? == some newline

/-- The text of a line without its terminator. -/
def chomp (line : List Char) : List Char :=
  if line.getLast? = some '\n' then
    if line.dropLast.getLast? = some '\r' then line.dropLast.dropLast else line.dropLast
  else line

@[simp]
theorem split_nil : split [] = ([], []) := rfl

/-- Cutting off a line loses nothing. -/
theorem split_append (octets : List UInt8) : (split octets).1 ++ (split octets).2 = octets := by
  induction octets with
  | nil => rfl
  | cons octet rest ih =>
    rw [split]
    split
    · rfl
    · simp [ih]

/-- The last line of the input is the only one that may lack its newline. -/
theorem split_snd_of_not_isEnded {octets : List UInt8} (h : isEnded (split octets).1 = false) :
    (split octets).2 = [] := by
  induction octets with
  | nil => rfl
  | cons octet rest ih =>
    rw [split] at h ⊢
    split at h
    · rename_i same
      simp [isEnded, same] at h
    · rename_i other
      rw [if_neg other]
      refine ih ?_
      rcases hs : (split rest).1 with _ | ⟨next, more⟩
      · rfl
      · simpa [isEnded, hs] using h

theorem isEnded_cons_cons (a b : UInt8) (rest : List UInt8) :
    isEnded (a :: b :: rest) = isEnded (b :: rest) := by
  simp [isEnded]

/-- Behind octets that do not end a line the others decide. -/
theorem isEnded_append_of_not_isEnded {front : List UInt8} (h : ¬ isEnded front = true)
    (octets : List UInt8) : isEnded (front ++ octets) = isEnded octets := by
  unfold isEnded at h ⊢
  rw [List.getLast?_append]
  cases octets.getLast? with
  | none => simpa using h
  | some last => rfl

/-- Octets behind an ended line do not belong to it. -/
theorem split_append_of_isEnded {octets : List UInt8} (h : isEnded (split octets).1 = true)
    (more : List UInt8) :
    split (octets ++ more) = ((split octets).1, (split octets).2 ++ more) := by
  induction octets with
  | nil => cases h
  | cons octet rest ih =>
    rw [split] at h ⊢
    rw [List.cons_append, split]
    split at h
    · rename_i same
      simp [same]
    · rename_i other
      simp only [if_neg other]
      have ended : isEnded (split rest).1 = true := by
        rcases hs : (split rest).1 with _ | ⟨next, tail⟩
        · simp [hs, isEnded, other] at h
        · rw [hs, isEnded_cons_cons] at h
          exact h
      rw [ih ended]

/-- A line that has not ended goes on in the octets behind it. -/
theorem split_append_of_not_isEnded {octets : List UInt8} (h : isEnded (split octets).1 = false)
    (more : List UInt8) :
    split (octets ++ more) = ((split octets).1 ++ (split more).1, (split more).2) := by
  induction octets with
  | nil => rfl
  | cons octet rest ih =>
    rw [split] at h ⊢
    rw [List.cons_append, split]
    split at h
    · rename_i same
      simp [isEnded, same] at h
    · rename_i other
      simp only [if_neg other]
      have opened : isEnded (split rest).1 = false := by
        rcases hs : (split rest).1 with _ | ⟨next, tail⟩
        · rfl
        · rw [hs, isEnded_cons_cons] at h
          exact h
      rw [ih opened]
      rfl

end Walkthrough.Text.Line
