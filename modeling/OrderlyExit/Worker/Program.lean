import OrderlyExit.Settings.Load
import OrderlyExit.Worker

/-!
The worker as a program: it takes its settings from a file, or the defaults without one, and lives. When
the settings cannot be had it writes nothing at all.
-/

namespace OrderlyExit.Worker

variable {σ : Type}

/-- Why the program ends without an orderly exit. -/
inductive Failure
  | configuration (error : ConfigError)
  | stopped (stop : Stop)
  deriving DecidableEq, Repr

def Failure.message : Failure → String
  | .configuration error => error.message
  | .stopped stop => stop.message

/-- The settings from the content of a configuration file, if there is a file. -/
def settingsFrom (config : Option (Except IoError (List UInt8))) : Except ConfigError Settings :=
  match config with
  | none => .ok {}
  | some content => Settings.load content

/-- The whole program. -/
def program (env : Surroundings σ) (config : Option (Except IoError (List UInt8))) (pid : UInt32)
    (request : Request) : Act σ Failure ShutdownSignal :=
  match settingsFrom config with
  | .error e => throw (.configuration e)
  | .ok settings => ExceptT.adapt Failure.stopped (runUntil env ⟨settings, pid⟩ request)

/-- The exit code of the program. -/
def exitCode : Except Failure ShutdownSignal → Nat
  | .ok _ => 0
  | .error (.stopped (.idle _)) => 101
  | .error _ => 1

/-- What the program writes, and how it ends, when it is asked to end as soon as it idles and every write
succeeds: the entries with their times after the request. -/
def course (config : Option (Except IoError (List UInt8))) (pid : UInt32) (signal : ShutdownSignal) :
    Except Failure ShutdownSignal × List Flushed :=
  let act := program { sink := SinkScript.sink {} } config pid (.after 0 signal)
  let (result, session) := act.run.run { outlet := { state := {} } }
  (result, session.outlet.flushed)

end OrderlyExit.Worker
