import OrderlyExit.ExitOutcome
import OrderlyExit.IoError
import OrderlyExit.Text.ByteText

/-!
What a program can ask of its host, and programs as the questions they ask.

A program is a tree: it exits, or it makes a call and goes on as the answer says. So a program is a pure
value, and all that happens is up to the host that answers.
-/

namespace OrderlyExit.Host

/-- How a file is opened. -/
structure OpenMode where
  reads : Bool := false
  writes : Bool := false
  /-- Everything is written behind what is there already. -/
  appends : Bool := false
  /-- A file that is not there is made. -/
  creates : Bool := false
  /-- What is there already goes away. -/
  truncates : Bool := false
  /-- The file must not be there yet. -/
  exclusive : Bool := false
  deriving DecidableEq, Repr

/-- What a program wants done with a signal. -/
inductive Disposition
  | byDefault
  | ignored
  /-- The program looks after it when it asks for its signals. -/
  | caught
  deriving DecidableEq, Repr

inductive FileKind
  | regular
  | directory
  | device
  | pipe
  deriving DecidableEq, Repr

/-- Facts about a file. -/
structure FileFacts where
  kind : FileKind
  size : Nat := 0
  permissions : Nat
  /-- Files with different numbers are different files. -/
  number : Nat := 0
  deriving DecidableEq, Repr

/-- What waiting for children comes to. -/
inductive Waited
  | ended (pid : Nat) (status : WaitStatus)
  | noChildren
  /-- No child has ended yet, or not in time. -/
  | nothing
  /-- A caught signal has arrived. -/
  | interrupted
  deriving DecidableEq, Repr

/-- How children are waited for. -/
structure WaitMode where
  /-- Until when, if not for ever. -/
  deadline : Option Nat := none
  /-- Whether a caught signal ends the waiting. -/
  interruptible : Bool := true
  /-- An interrupt that would end the program takes effect only after the waiting. -/
  holdsInterrupt : Bool := false
  /-- Such an interrupt is forgotten if the child that has ended was not ended by one. -/
  forgetsInterrupt : Bool := false
  deriving DecidableEq, Repr

/-- The numbers that a process goes by. -/
structure Identity where
  pid : Nat
  parent : Nat
  group : Nat
  deriving DecidableEq, Repr

inductive Call
  | read (descriptor count : Nat)
  /-- Waits until something can be read, at most until a time. -/
  | awaitInput (descriptor deadline : Nat)
  /-- Writes some of a text; the answer is how many bytes. -/
  | write (descriptor : Nat) (text : ByteText)
  | openFile (path : ByteText) (mode : OpenMode)
  | close (descriptor : Nat)
  /-- Another descriptor, of a number not below `least`, for what a descriptor leads to. -/
  | duplicate (descriptor least : Nat) (closesAtExecute : Bool)
  /-- Makes `target` lead to where `descriptor` leads. -/
  | duplicateTo (descriptor target : Nat)
  /-- A new pipe: the descriptors of its end for reading and its end for writing. -/
  | pipe
  | facts (path : ByteText)
  | descriptorFacts (descriptor : Nat)
  /-- The names in a directory. -/
  | list (path : ByteText)
  | removeFile (path : ByteText)
  | removeDirectory (path : ByteText)
  | makeDirectory (path : ByteText)
  | rename (source target : ByteText)
  | setPermissions (path : ByteText) (permissions : Nat)
  | changeDirectory (path : ByteText)
  | directory
  | wait (mode : WaitMode)
  /-- Sends a signal to a process, or to a group for a negative number. -/
  | sendSignal (target : Int) (n : Nat)
  | setSignal (n : Nat) (d : Disposition)
  /-- The caught signals that have arrived, which are forgotten. -/
  | signals
  /-- The signals that are ignored. -/
  | ignoredSignals
  /-- Waits until a time, or for ever, or until a caught signal arrives; the answer is whether one did. -/
  | pause (wake : Option Nat)
  | now
  | identity
  /-- Becomes the leader of a new group. -/
  | leadGroup
  deriving DecidableEq, Repr

/-- The answers to a call. -/
def Call.Reply : Call → Type
  | .read .. => Except Errno ByteText
  | .awaitInput .. => Bool
  | .write .. => Except Errno Nat
  | .openFile .. | .duplicate .. => Except Errno Nat
  | .close _ | .setSignal .. | .leadGroup => Unit
  | .duplicateTo .. => Option Errno
  | .pipe => Nat × Nat
  | .facts _ | .descriptorFacts _ => Except Errno FileFacts
  | .list _ => Except Errno (List ByteText)
  | .removeFile _ | .removeDirectory _ | .makeDirectory _ | .changeDirectory _ | .rename .. | .setPermissions .. =>
    Option Errno
  | .directory => ByteText
  | .wait _ => Waited
  | .sendSignal .. => Option Errno
  | .signals | .ignoredSignals => List Nat
  | .pause _ => Bool
  | .now => Nat
  | .identity => Identity

/-- The names and values that a program finds around it. -/
abbrev Environment := List (ByteText × ByteText)

/-- A program. -/
inductive Program
  | exit (code : Nat)
  | call (c : Call) (next : c.Reply → Program)
  /-- Another process runs `child`; the program goes on with its process id. -/
  | fork (child : Program) (next : Nat → Program)
  /-- Turns into the program at a path, and goes on only if that cannot be. -/
  | execute (path : ByteText) (args : List ByteText) (environment : Environment) (refused : Errno → Program)

/-- What a program does on its way to a result. -/
def Routine (α : Type) : Type := (α → Program) → Program

namespace Routine

instance : Monad Routine where
  pure a := fun next => next a
  bind r f := fun next => r fun a => f a next

def call (c : Call) : Routine c.Reply := fun next => .call c next

/-- The program ends here. -/
def exit (code : Nat) : Routine α := fun _ => .exit code

/-- Another process runs a program of its own. -/
def fork (child : Program) : Routine Nat := fun next => .fork child next

/-- Turns into another program; comes back only with the reason why that cannot be. -/
def execute (path : ByteText) (args : List ByteText) (environment : Environment) : Routine Errno :=
  fun refused => .execute path args environment refused

/-- The program that carries a routine out and exits with its result. -/
def program (r : Routine Nat) : Program := r .exit

/-! ### Calls with their answers -/

def read (descriptor count : Nat) : Routine (Except Errno ByteText) := call (.read descriptor count)

def write (descriptor : Nat) (text : ByteText) : Routine (Except Errno Nat) := call (.write descriptor text)

def openFile (path : ByteText) (mode : OpenMode) : Routine (Except Errno Nat) := call (.openFile path mode)

def close (descriptor : Nat) : Routine Unit := call (.close descriptor)

def facts (path : ByteText) : Routine (Except Errno FileFacts) := call (.facts path)

def list (path : ByteText) : Routine (Except Errno (List ByteText)) := call (.list path)

def now : Routine Nat := call .now

def identity : Routine Identity := call .identity

def wait (mode : WaitMode) : Routine Waited := call (.wait mode)

def pause (wake : Option Nat) : Routine Bool := call (.pause wake)

def signals : Routine (List Nat) := call .signals

/-! ### Input and output -/

/-- Writes all of a text; returns why that fails. Each write has to take some of it. -/
def writeAll (descriptor : Nat) (text : ByteText) : Routine (Option Errno) :=
  go text.length text
where
  go : Nat → ByteText → Routine (Option Errno)
    | _, [] => pure none
    | 0, _ => pure none
    | fuel + 1, text => do
      match ← write descriptor text with
      | .ok n => go fuel (text.drop n)
      | .error e => if e = .interrupted then go fuel text else pure (some e)

/-- How many bytes one read asks for. -/
def blockSize : Nat := 65536

/-- More rounds than any loop over input takes. -/
def manyRounds : Nat := 1000000000

/-- Reads all that is left of a descriptor's input. -/
def readAll (descriptor : Nat) : Routine (Except Errno ByteText) :=
  go manyRounds []
where
  go : Nat → List ByteText → Routine (Except Errno ByteText)
    | 0, sofar => pure (.ok sofar.reverse.flatten)
    | fuel + 1, sofar => do
      match ← read descriptor blockSize with
      | .ok [] => pure (.ok sofar.reverse.flatten)
      | .ok text => go fuel (text :: sofar)
      | .error e => if e = .interrupted then go fuel sofar else pure (.error e)

/-- How long a round of a loop takes that did not wait for anything. -/
def roundTime : Nat := 100000

/-- Lets a little time pass, unless some has passed since `began`. -/
def finishRound (began : Nat) : Routine Unit := do
  let time ← now
  if time ≤ began then discard <| pause (some (time + roundTime))

end Routine

end OrderlyExit.Host
