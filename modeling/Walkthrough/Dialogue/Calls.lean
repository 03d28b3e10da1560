import Walkthrough.Dialogue.Performance

/-!
# Call by call

To write octets or to read a line takes as many calls of the device as are needed: a writer may
accept only some octets of a call, and a reader gives one piece at each.  A call that fails ends the
request, except where it was interrupted: then it is made again (`DeviceError.Fatal`).  A device
that is interrupted at a fault is interrupted there at every call, so a request may never end.

For this reason a dialogue is attempted with a number of calls that each of its requests may make,
and ends only if some number is enough (`Dialogue.Returns`).  With devices that are not interrupted
in a read or a write it always ends, and comes to what `Dialogue.perform` says of it.
-/

namespace Walkthrough

/-! ## Requests -/

/-- What a dialogue, or one request of it, comes to on some devices. -/
structure Attempt (α : Type) where
  result : Except Interruption α
  /-- the effects, neighbouring writes not yet joined -/
  effects : Trace
  devices : Devices

namespace Attempt

variable {α β : Type}

/-- The same with some effects in front. -/
def behind (effects : Trace) (rest : Attempt α) : Attempt α :=
  { rest with effects := effects ++ rest.effects }

/-- An attempt followed by the one that its result leads to, which may not end. -/
def andThen (first : Attempt α) (next : α → Devices → Option (Attempt β)) : Option (Attempt β) :=
  match first.result with
  | .error interruption => some ⟨.error interruption, first.effects, first.devices⟩
  | .ok result => (next result first.devices).map (behind first.effects)

end Attempt

/-- Take pieces from a reader, one a call, until one has the newline or there is none any more.
Gives the octets taken, the failure that ended the taking and the source behind. -/
def Source.collect : (calls : Nat) → (taken : List UInt8) → Source →
    Option (List UInt8 × Option DeviceError × Source)
  | 0, _, _ => none
  | calls + 1, taken, ⟨piece :: more, failure, withheld⟩ =>
    let (line, rest) := Text.Line.split piece
    if Text.Line.isEnded line then some (taken ++ line, none, ⟨rest :: more, failure, withheld⟩)
    else collect calls (taken ++ line) ⟨more, failure, withheld⟩
  | calls + 1, taken, ⟨[], failure, withheld⟩ =>
    match failure with
    | none => some (taken, none, ⟨[], none, withheld⟩)
    | some error =>
      if error.Fatal then some (taken, some error, ⟨[], some error, withheld⟩)
      else collect calls taken ⟨[], some error, withheld⟩

namespace Devices

/-- How many octets the writer accepts in one call: at least one, unless it fails. -/
def offer (devices : Devices) (octets : List UInt8) : Except DeviceError Nat :=
  match devices.writeFault with
  | none => .ok octets.length
  | some fault =>
    if devices.accepted < fault.point then .ok (min octets.length (fault.point - devices.accepted))
    else .error fault.error

/-- Give octets to the writer until it has accepted all of them.  Gives the failure that ended the
giving and the devices behind. -/
def give : (calls : Nat) → (octets : List UInt8) → Devices → Option (Option DeviceError × Devices)
  | 0, _, _ => none
  | calls + 1, octets, devices =>
    if octets.isEmpty then some (none, devices)
    else
      match devices.offer octets with
      | .ok count =>
        give calls (octets.drop count) { devices with accepted := devices.accepted + count }
      | .error error =>
        if error.Fatal then some (some error, devices) else give calls octets devices

/-- Write octets. -/
def write (calls : Nat) (octets : List UInt8) (devices : Devices) : Option (Attempt Unit) :=
  (devices.give calls octets).map fun (failure, left) =>
    let accepted := octets.take (left.accepted - devices.accepted)
    ⟨failure.elim (.ok ()) fun error => .error (.device error), [.out accepted], left⟩

/-- Flush the writer, in one call whatever comes of it. -/
def flush (devices : Devices) : Attempt Unit :=
  let result :=
    match devices.flushFault with
    | none => .ok ()
    | some fault =>
      if fault.point = devices.flushes + 1 then .error (.device fault.error) else .ok ()
  ⟨result, [.flush], { devices with flushes := devices.flushes + 1 }⟩

/-- Read a line. -/
def read (calls : Nat) (devices : Devices) : Option (Attempt String) :=
  (devices.source.collect calls []).map fun (octets, failure, left) =>
    ⟨Source.answer failure octets, [.read octets.length], { devices with source := left }⟩

end Devices

/-! ## Dialogues -/

namespace Dialogue

variable {α : Type}

/-- Attempt a dialogue, with a number of calls for each of its requests. -/
def attempt (calls : Nat) : Dialogue α → Devices → Option (Attempt α)
  | done result, devices => some ⟨.ok result, [], devices⟩
  | fail interruption, devices => some ⟨.error interruption, [], devices⟩
  | note entry next, devices => (next.attempt calls devices).map (.behind [.log entry])
  | say text next, devices =>
    (devices.write calls (Text.Utf8.encode text)).bind (·.andThen fun _ => next.attempt calls)
  | flush next, devices => devices.flush.andThen fun _ => next.attempt calls
  | listen next, devices =>
    (devices.read calls).bind (·.andThen fun line => (next line).attempt calls)

/-- The dialogue comes to an end, whatever comes of it. -/
def Returns (dialogue : Dialogue α) (devices : Devices) : Prop :=
  ∃ calls attempt, dialogue.attempt calls devices = some attempt

end Dialogue

end Walkthrough
