import Walkthrough.Console.Source

/-!
# Consoles

A console is a source of input and a writer.  It counts what the writer has accepted and how often
it was flushed, so that a fault is met at its point however many dialogues are held on the console.
The failures of its reader and its writer are fatal (`DeviceError.Fatal`); on devices whose failures
are of any kind a dialogue may never end, see `Walkthrough.Dialogue.Calls`.
-/

namespace Walkthrough

/-- A reader and a writer, with the faults laid on the writer. -/
structure Devices where
  source : Source
  /-- the number of octets that the writer has accepted -/
  accepted : Nat
  /-- the number of flushes, failed ones included -/
  flushes : Nat
  /-- a writer that accepts that many octets and no more -/
  writeFault : Option Fault
  /-- a writer that fails at the flush of that number, counted from one -/
  flushFault : Option Fault
deriving DecidableEq

/-- Devices that are not interrupted where they fail, except in a flush.  A fault is met again at
every call, so one that interrupts its device would keep whoever reads or writes there for ever. -/
structure Console extends Devices where
  readFatal : ∀ error ∈ source.failure, error.Fatal
  writeFatal : ∀ fault ∈ writeFault, fault.error.Fatal

/-- Consoles with the same devices are the same. -/
theorem Console.eq_of_devices {a b : Console} (h : a.toDevices = b.toDevices) : a = b := by
  cases a
  cases b
  cases h
  rfl

/-- What devices are made from. -/
structure Wiring where
  /-- all octets of the input -/
  input : List UInt8
  /-- the sizes of the pieces in which they are handed out -/
  sizes : List Nat
  readFault : Option Fault
  writeFault : Option Fault
  flushFault : Option Fault
deriving DecidableEq

/-- Devices at their start. -/
def Wiring.devices (wiring : Wiring) : Devices where
  source := .ofOctets wiring.input wiring.sizes wiring.readFault
  accepted := 0
  flushes := 0
  writeFault := wiring.writeFault
  flushFault := wiring.flushFault

/-- What a console is made from. -/
structure Setup extends Wiring where
  readFatal : ∀ fault ∈ readFault, fault.error.Fatal
  writeFatal : ∀ fault ∈ writeFault, fault.error.Fatal

/-- A console at its start. -/
def Setup.console (setup : Setup) : Console where
  toDevices := setup.devices
  readFatal := Source.fatal_ofOctets setup.readFatal setup.input setup.sizes
  writeFatal := setup.writeFatal

theorem Setup.source_console (setup : Setup) :
    setup.console.source = .ofOctets setup.input setup.sizes setup.readFault := rfl

/-- A setup in which no device fails and the whole input is handed out at once. -/
def Setup.faultless (input : List UInt8) : Setup where
  toWiring := ⟨input, [], none, none, none⟩
  readFatal := nofun
  writeFatal := nofun

namespace Console

/-- The octets that the writer accepts of those that it is given. -/
def acceptedOf (console : Console) (octets : List UInt8) : List UInt8 :=
  match console.writeFault with
  | none => octets
  | some fault => octets.take (fault.point - console.accepted)

/-- The error that the writer fails with when it is given some octets, if it does not accept all of
them. -/
def refusal? (console : Console) (octets : List UInt8) : Option DeviceError :=
  match console.writeFault with
  | none => none
  | some fault =>
    if octets.length ≤ fault.point - console.accepted then none else some fault.error

/-- The console after the writer was given some octets. -/
def write (console : Console) (octets : List UInt8) : Console :=
  { console with accepted := console.accepted + (console.acceptedOf octets).length }

/-- The error that the next flush fails with, if it does. -/
def flushFailure? (console : Console) : Option DeviceError :=
  match console.flushFault with
  | none => none
  | some fault => if fault.point = console.flushes + 1 then some fault.error else none

/-- The console after a flush. -/
def flush (console : Console) : Console :=
  { console with flushes := console.flushes + 1 }

/-- The console after a line was read. -/
def advance (console : Console) : Console :=
  { console with source := console.source.advance }

/-- Nothing can always be written. -/
@[simp]
theorem refusal?_nil (console : Console) : console.refusal? [] = none := by
  unfold refusal?
  split <;> simp

@[simp]
theorem acceptedOf_nil (console : Console) : console.acceptedOf [] = [] := by
  unfold acceptedOf
  split <;> simp

/-- A writer that does not refuse accepts everything. -/
theorem acceptedOf_of_refusal?_eq_none {console : Console} {octets : List UInt8}
    (h : console.refusal? octets = none) : console.acceptedOf octets = octets := by
  unfold refusal? at h
  unfold acceptedOf
  split at h
  · rfl
  · split at h
    · rename_i le
      exact List.take_of_length_le le
    · cases h

end Console

end Walkthrough
