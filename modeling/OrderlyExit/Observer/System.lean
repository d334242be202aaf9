import OrderlyExit.ExitOutcome
import OrderlyExit.IoError
import OrderlyExit.Launch
import OrderlyExit.Time

/-!
The system on which observed programs run, as an observer deals with it: it starts a program, lets time
pass until something is seen, delivers signals, and takes note of a child's end.

Nothing is assumed about what the programs do. Whatever a system answers, every observation ends,
because an observer takes no answer that does not move its clock ahead.
-/

namespace OrderlyExit

/-- Something that an observer sees of the program it started. -/
inductive Sighting
  /-- Bytes of captured output. -/
  | output (bytes : List UInt8)
  /-- The last process that could write has closed the output. -/
  | closed
  /-- Reading the output has failed, and no more of it is read. -/
  | readFailed (error : IoError)
  /-- The program itself has ended; its children may still run. -/
  | ended (status : WaitStatus)
  /-- The system fails to tell how the program ended when it is asked the next time. -/
  | waitFailed (error : IoError)
  deriving DecidableEq, Repr

/-- A program as it is handed over by the system that has started it. -/
structure Started where
  /-- Its process id, unless it is gone already. -/
  pid : Option UInt32
  /-- Whether its output can be captured. -/
  captured : Bool := true
  /-- What is seen at once. -/
  seen : List Sighting := []
  deriving DecidableEq, Repr

/-- What a signal is sent to. -/
inductive SignalTarget
  | process (pid : UInt32)
  | group (pid : UInt32)
  deriving DecidableEq, Repr

def SignalTarget.text : SignalTarget → String
  | .process pid => "pid " ++ Decimal.text pid.toNat
  | .group pid => "process group " ++ Decimal.text pid.toNat

/-- A system with states in `σ`. -/
structure System (σ : Type u) where
  /-- Starts a program in a process group of its own with its output captured. -/
  spawn : σ → Invocation → Except IoError Started × σ
  /-- The next moment after `now`, up to `limit`, at which something is seen. Without one, the state is
  that of the moment `limit`. -/
  advance : σ → (now limit : Instant) → Option (Instant × List Sighting) × σ
  /-- Sends a signal by its number; returns how that fails, and what is seen at once. -/
  send : σ → SignalTarget → Nat → Option Errno × List Sighting × σ
  /-- Forgets a child that has ended; its process id is free from then on. -/
  reap : σ → UInt32 → σ

end OrderlyExit
