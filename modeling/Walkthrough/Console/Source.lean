import Walkthrough.Interruption
import Walkthrough.Text.Line
import Walkthrough.Text.Utf8

/-!
# Sources of input

A source hands out its octets piece by piece.  A line is gathered from as many pieces as it takes,
up to and with its newline, and is taken for text only when it is complete.  Where the pieces end,
a source has either come to the end of the input or fails, now and at every later attempt.

Main statements: gathering loses nothing (`gather_append`), and takes the same octets however they
are cut into pieces (`gather_fst`, `gather_snd`).
-/

namespace Walkthrough

/-- What a reader has still to give. -/
structure Source where
  /-- the octets that will be handed out -/
  pieces : List (List UInt8)
  /-- the error met behind the last piece; without one the input ends there -/
  failure : Option DeviceError
  /-- the octets that are never handed out -/
  withheld : List UInt8
deriving DecidableEq

namespace Source

/-- Cut octets into pieces of the given sizes; the last piece takes what the sizes leave. -/
def cut : List Nat → List UInt8 → List (List UInt8)
  | [], octets => [octets]
  | size :: sizes, octets => octets.take size :: cut sizes (octets.drop size)

@[simp]
theorem flatten_cut (sizes : List Nat) (octets : List UInt8) :
    (cut sizes octets).flatten = octets := by
  induction sizes generalizing octets with
  | nil => simp [cut]
  | cons size sizes ih => simp [cut, ih]

/-- A source of some octets, cut into pieces of the given sizes.  A fault lies at a number of
octets: those behind it are withheld, and a fault that lies behind the end is never met. -/
def ofOctets (octets : List UInt8) (sizes : List Nat) : Option Fault → Source
  | none => ⟨cut sizes octets, none, []⟩
  | some fault =>
    if fault.point ≤ octets.length then
      ⟨cut sizes (octets.take fault.point), some fault.error, octets.drop fault.point⟩
    else ⟨cut sizes octets, none, []⟩

/-- The octets that were not consumed, those withheld included. -/
def unread (source : Source) : List UInt8 :=
  source.pieces.flatten ++ source.withheld

theorem fatal_ofOctets {fault : Option Fault} (fatal : ∀ f ∈ fault, f.error.Fatal)
    (octets : List UInt8) (sizes : List Nat) :
    ∀ error ∈ (ofOctets octets sizes fault).failure, error.Fatal := by
  cases fault with
  | none => nofun
  | some f =>
    intro error met
    rw [ofOctets] at met
    split at met
    · cases met
      exact fatal f rfl
    · cases met

theorem unread_ofOctets (octets : List UInt8) (sizes : List Nat) (fault : Option Fault) :
    (ofOctets octets sizes fault).unread = octets := by
  unfold ofOctets unread
  split
  · simp
  · split <;> simp

/-! ## Gathering a line -/

/-- The octets of the next line, and the pieces that are left. -/
def gather : List (List UInt8) → List UInt8 × List (List UInt8)
  | [] => ([], [])
  | piece :: more =>
    let (line, rest) := Text.Line.split piece
    if Text.Line.isEnded line then (line, rest :: more)
    else
      let (further, left) := gather more
      (line ++ further, left)

/-- Gathering loses nothing. -/
theorem gather_append (pieces : List (List UInt8)) :
    (gather pieces).1 ++ (gather pieces).2.flatten = pieces.flatten := by
  induction pieces with
  | nil => rfl
  | cons piece more ih =>
    have whole := Text.Line.split_append piece
    simp only [gather]
    split
    · simp [← List.append_assoc, whole]
    · rename_i opened
      have line := Text.Line.split_snd_of_not_isEnded (by simpa using opened)
      rw [line, List.append_nil] at whole
      simp [ih, whole]

/-- The octets of a gathered line are those of the first line of the whole. -/
theorem gather_fst (pieces : List (List UInt8)) :
    (gather pieces).1 = (Text.Line.split pieces.flatten).1 := by
  induction pieces with
  | nil => rfl
  | cons piece more ih =>
    simp only [gather, List.flatten_cons]
    split
    · rename_i ended
      rw [Text.Line.split_append_of_isEnded ended]
    · rename_i opened
      rw [Text.Line.split_append_of_not_isEnded (by simpa using opened), ih]

/-- What is left after a gathered line is what follows the first line of the whole. -/
theorem gather_snd (pieces : List (List UInt8)) :
    (gather pieces).2.flatten = (Text.Line.split pieces.flatten).2 := by
  have whole := gather_append pieces
  rw [gather_fst] at whole
  exact List.append_cancel_left (whole.trans (Text.Line.split_append _).symm)

/-! ## Reading a line -/

/-- What some octets that were read up to a newline or to the end of the input say. -/
def interpret (octets : List UInt8) : Except Interruption String :=
  match Text.Utf8.decode? octets with
  | some text => .ok (String.ofList (Text.Line.chomp text.toList))
  | none => .error (.device .notText)

/-- What reading a line gives, once its octets are gathered.  A failure in front of the newline
comes first, whatever the octets are. -/
def answer (failure : Option DeviceError) (octets : List UInt8) : Except Interruption String :=
  if Text.Line.isEnded octets then interpret octets
  else
    match failure with
    | some error => .error (.device error)
    | none => if octets.isEmpty then .error .inputClosed else interpret octets

/-- The octets that the next line takes. -/
def line (source : Source) : List UInt8 :=
  (gather source.pieces).1

/-- What the next line says. -/
def listen (source : Source) : Except Interruption String :=
  answer source.failure source.line

/-- The source behind the next line. -/
def advance (source : Source) : Source :=
  { source with pieces := (gather source.pieces).2 }

/-- Every octet is either taken by the next line or left unread. -/
theorem line_append_unread_advance (source : Source) :
    source.line ++ source.advance.unread = source.unread := by
  simp only [line, advance, unread, ← List.append_assoc, gather_append]

end Source

end Walkthrough
