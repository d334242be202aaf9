import OrderlyExit.Text.Decimal

/-!
Failures of input and output: a kind alone, a kind with a text, or an error number of the system.
-/

namespace OrderlyExit

/-- What sort of failure it is. -/
inductive IoErrorKind
  | notFound
  | permissionDenied
  | alreadyExists
  | brokenPipe
  | wouldBlock
  | timedOut
  | invalidInput
  | invalidData
  | writeZero
  | storageFull
  | interrupted
  | unsupported
  | unexpectedEof
  | outOfMemory
  | inputOutput
  | notADirectory
  | isADirectory
  | other
  | uncategorized
  deriving DecidableEq, Repr, Inhabited

/-- The text of a failure of which only the kind is known. -/
def IoErrorKind.description : IoErrorKind → String
  | .notFound => "entity not found"
  | .permissionDenied => "permission denied"
  | .alreadyExists => "entity already exists"
  | .brokenPipe => "broken pipe"
  | .wouldBlock => "operation would block"
  | .timedOut => "timed out"
  | .invalidInput => "invalid input parameter"
  | .invalidData => "invalid data"
  | .writeZero => "write zero"
  | .storageFull => "no storage space"
  | .interrupted => "operation interrupted"
  | .unsupported => "unsupported"
  | .unexpectedEof => "unexpected end of file"
  | .outOfMemory => "out of memory"
  | .inputOutput => "input/output error"
  | .notADirectory => "not a directory"
  | .isADirectory => "is a directory"
  | .other => "other error"
  | .uncategorized => "uncategorized error"

/-- An error number of the system. -/
structure Errno where
  number : Int
  deriving DecidableEq, Repr, Inhabited

namespace Errno

def noEntry : Errno := ⟨2⟩
def noProcess : Errno := ⟨3⟩
def interrupted : Errno := ⟨4⟩
def inputOutput : Errno := ⟨5⟩
def noDevice : Errno := ⟨6⟩
def notExecutable : Errno := ⟨8⟩
def badDescriptor : Errno := ⟨9⟩
def accessDenied : Errno := ⟨13⟩
def fileExists : Errno := ⟨17⟩
def notADirectory : Errno := ⟨20⟩
def isADirectory : Errno := ⟨21⟩
def invalidArgument : Errno := ⟨22⟩
def noSpace : Errno := ⟨28⟩
def brokenPipe : Errno := ⟨32⟩
def nameTooLong : Errno := ⟨36⟩
def notEmpty : Errno := ⟨39⟩

/-- What the system says about an error number. -/
def description (e : Errno) : String :=
  match e.number with
  | 1 => "Operation not permitted"
  | 2 => "No such file or directory"
  | 3 => "No such process"
  | 4 => "Interrupted system call"
  | 5 => "Input/output error"
  | 6 => "No such device or address"
  | 7 => "Argument list too long"
  | 8 => "Exec format error"
  | 9 => "Bad file descriptor"
  | 10 => "No child processes"
  | 11 => "Resource temporarily unavailable"
  | 12 => "Cannot allocate memory"
  | 13 => "Permission denied"
  | 17 => "File exists"
  | 20 => "Not a directory"
  | 21 => "Is a directory"
  | 22 => "Invalid argument"
  | 28 => "No space left on device"
  | 32 => "Broken pipe"
  | 36 => "File name too long"
  | 38 => "Function not implemented"
  | 39 => "Directory not empty"
  | 40 => "Too many levels of symbolic links"
  | 110 => "Connection timed out"
  | n => "Unknown error " ++ Decimal.signedText n

def kind (e : Errno) : IoErrorKind :=
  match e.number with
  | 1 | 13 => .permissionDenied
  | 2 => .notFound
  | 4 => .interrupted
  | 5 => .inputOutput
  | 11 => .wouldBlock
  | 12 => .outOfMemory
  | 17 => .alreadyExists
  | 20 => .notADirectory
  | 21 => .isADirectory
  | 22 => .invalidInput
  | 28 => .storageFull
  | 32 => .brokenPipe
  | 38 => .unsupported
  | 110 => .timedOut
  | _ => .uncategorized

/-- The name of an error number with a description of its own, as reports on signals show it. -/
def label (e : Errno) : String :=
  match e.number with
  | 1 => "EPERM: Operation not permitted"
  | 2 => "ENOENT: No such file or directory"
  | 3 => "ESRCH: No such process"
  | 4 => "EINTR: Interrupted system call"
  | 5 => "EIO: I/O error"
  | 9 => "EBADF: Bad file number"
  | 11 => "EAGAIN: Try again"
  | 12 => "ENOMEM: Out of memory"
  | 13 => "EACCES: Permission denied"
  | 22 => "EINVAL: Invalid argument"
  | 28 => "ENOSPC: No space left on device"
  | 32 => "EPIPE: Broken pipe"
  | 38 => "ENOSYS: Function not implemented"
  | _ => "UnknownErrno: Unknown errno"

end Errno

/-- A failure of input or output. -/
inductive IoError
  | ofKind (kind : IoErrorKind)
  | withText (kind : IoErrorKind) (text : String)
  | ofErrno (errno : Errno)
  deriving DecidableEq, Repr, Inhabited

namespace IoError

def kind : IoError → IoErrorKind
  | .ofKind k => k
  | .withText k _ => k
  | .ofErrno e => e.kind

def message : IoError → String
  | .ofKind k => k.description
  | .withText _ text => text
  | .ofErrno e => e.description ++ " (os error " ++ Decimal.signedText e.number ++ ")"

/-- A writer took none of the bytes it was offered. -/
def wroteNothing : IoError := .withText .writeZero "failed to write whole buffer"

/-- Bytes that should be text are not. -/
def notText : IoError := .withText .invalidData "stream did not contain valid UTF-8"

/-- A program name or argument that the system cannot take holds a zero byte. -/
def zeroByte : IoError := .withText .invalidInput "nul byte found in provided data"

end IoError

end OrderlyExit
