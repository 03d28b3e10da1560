/-!
# Device errors

What a reader or a writer answers when it fails, and the faults that can be laid on a console: at
which point a device fails and with which error.  One kind of failure is not like the others: a read
or a write that was interrupted is made again, so nobody hears of it (`DeviceError.Fatal`).
-/

namespace Walkthrough

/-- The kinds of failure that a device reports. -/
inductive DeviceErrorKind where
  | notFound | permissionDenied | connectionRefused | connectionReset | hostUnreachable
  | networkUnreachable | connectionAborted | notConnected | addrInUse | addrNotAvailable
  | networkDown | brokenPipe | alreadyExists | wouldBlock | notADirectory | isADirectory
  | directoryNotEmpty | readOnlyFilesystem | filesystemLoop | staleNetworkFileHandle
  | invalidInput | invalidData | timedOut | writeZero | storageFull | notSeekable | quotaExceeded
  | fileTooLarge | resourceBusy | executableFileBusy | deadlock | crossesDevices | tooManyLinks
  | invalidFilename | argumentListTooLong | interrupted | unsupported | unexpectedEof
  | outOfMemory | inProgress | other
deriving DecidableEq

namespace DeviceErrorKind

/-- The name of a kind. -/
def name : DeviceErrorKind → String
  | notFound => "NotFound"
  | permissionDenied => "PermissionDenied"
  | connectionRefused => "ConnectionRefused"
  | connectionReset => "ConnectionReset"
  | hostUnreachable => "HostUnreachable"
  | networkUnreachable => "NetworkUnreachable"
  | connectionAborted => "ConnectionAborted"
  | notConnected => "NotConnected"
  | addrInUse => "AddrInUse"
  | addrNotAvailable => "AddrNotAvailable"
  | networkDown => "NetworkDown"
  | brokenPipe => "BrokenPipe"
  | alreadyExists => "AlreadyExists"
  | wouldBlock => "WouldBlock"
  | notADirectory => "NotADirectory"
  | isADirectory => "IsADirectory"
  | directoryNotEmpty => "DirectoryNotEmpty"
  | readOnlyFilesystem => "ReadOnlyFilesystem"
  | filesystemLoop => "FilesystemLoop"
  | staleNetworkFileHandle => "StaleNetworkFileHandle"
  | invalidInput => "InvalidInput"
  | invalidData => "InvalidData"
  | timedOut => "TimedOut"
  | writeZero => "WriteZero"
  | storageFull => "StorageFull"
  | notSeekable => "NotSeekable"
  | quotaExceeded => "QuotaExceeded"
  | fileTooLarge => "FileTooLarge"
  | resourceBusy => "ResourceBusy"
  | executableFileBusy => "ExecutableFileBusy"
  | deadlock => "Deadlock"
  | crossesDevices => "CrossesDevices"
  | tooManyLinks => "TooManyLinks"
  | invalidFilename => "InvalidFilename"
  | argumentListTooLong => "ArgumentListTooLong"
  | interrupted => "Interrupted"
  | unsupported => "Unsupported"
  | unexpectedEof => "UnexpectedEof"
  | outOfMemory => "OutOfMemory"
  | inProgress => "InProgress"
  | other => "Other"

/-- All kinds. -/
def all : List DeviceErrorKind :=
  [notFound, permissionDenied, connectionRefused, connectionReset, hostUnreachable,
    networkUnreachable, connectionAborted, notConnected, addrInUse, addrNotAvailable, networkDown,
    brokenPipe, alreadyExists, wouldBlock, notADirectory, isADirectory, directoryNotEmpty,
    readOnlyFilesystem, filesystemLoop, staleNetworkFileHandle, invalidInput, invalidData,
    timedOut, writeZero, storageFull, notSeekable, quotaExceeded, fileTooLarge, resourceBusy,
    executableFileBusy, deadlock, crossesDevices, tooManyLinks, invalidFilename,
    argumentListTooLong, interrupted, unsupported, unexpectedEof, outOfMemory, inProgress, other]

/-- The kind of that name. -/
def ofName? (name : String) : Option DeviceErrorKind :=
  all.find? fun kind => kind.name == name

end DeviceErrorKind

/-- A failure of a device: its kind and its wording. -/
structure DeviceError where
  kind : DeviceErrorKind
  text : String
deriving DecidableEq

/-- A failure that ends the read or the write in which it is met.  One that was only interrupted is
made again instead; a flush is never made again. -/
def DeviceError.Fatal (error : DeviceError) : Prop :=
  error.kind ≠ .interrupted

instance (error : DeviceError) : Decidable error.Fatal :=
  inferInstanceAs (Decidable (error.kind ≠ .interrupted))

/-- The failure of a reader that met octets which are no text. -/
def DeviceError.notText : DeviceError :=
  ⟨.invalidData, "stream did not contain valid UTF-8"⟩

/-- A device set to fail with an error at some point, counted in octets or in flushes. -/
structure Fault where
  point : Nat
  error : DeviceError
deriving DecidableEq

end Walkthrough
