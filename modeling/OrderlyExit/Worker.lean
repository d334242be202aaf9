import OrderlyExit.Settings
import OrderlyExit.Worker.Session

/-!
A worker: it announces itself, idles until it is asked to end, and then ends in an orderly way, with a
marker before and after its cleanup. No signal cuts the cleanup short; only one of more than thirty years
ends early, because no alarm is set further ahead.
-/

namespace OrderlyExit

/-- How a worker's life goes wrong. -/
inductive LifecycleError
  | registration (signal : ShutdownSignal) (source : IoError)
  | output (source : IoError)
  deriving DecidableEq, Repr

def LifecycleError.message : LifecycleError → String
  | .registration signal source => "failed to register " ++ signal.name ++ " handler: " ++ source.message
  | .output source => "failed to write marker: " ++ source.message

/-- A program that ends in an orderly way. -/
structure Worker where
  settings : Settings
  pid : UInt32
  deriving Repr

namespace Worker

variable {σ : Type}

/-- Why a run ends without a signal. -/
inductive Stop
  | failed (error : LifecycleError)
  | idle (fault : IdleFault)
  deriving DecidableEq, Repr

def Stop.message : Stop → String
  | .failed error => error.message
  | .idle fault => fault.message

/-- Announces a process id. -/
def announce (env : Surroundings σ) (pid : UInt32) : Act σ IoError Unit :=
  Session.emit env (.processStarted pid)

/-- The orderly exit itself: two markers, the cleanup, the last marker. -/
def shutdown (env : Surroundings σ) (pid : UInt32) (cleanupDelay : Nat) : Act σ IoError Unit := do
  Session.emit env .shutdownStart
  Session.emit env (.shutdownPid pid)
  Session.sleep env cleanupDelay
  Session.emit env .shutdownComplete

/-- An action whose failures to write end the worker. -/
def writing (act : Act σ IoError α) : Act σ Stop α := ExceptT.adapt (.failed <| .output ·) act

/-- The whole life of a worker after registration; returns the signal that ended it. -/
def runUntil (env : Surroundings σ) (w : Worker) (request : Request) : Act σ Stop ShutdownSignal := do
  writing (announce env w.pid)
  let signal ← ExceptT.adapt Stop.idle (Session.idle env w.settings.tick request)
  writing (shutdown env w.pid w.settings.cleanupDelay)
  return signal

/-- Registers for signals and lives until one of them is received. A signal raised at time zero is
there as soon as the worker has registered. -/
def run (env : Surroundings σ) (refusal : ShutdownSignal → Option IoError) (w : Worker) :
    Act σ Stop ShutdownSignal := do
  match Listener.register refusal with
  | .error (signal, source) => throw (.failed (.registration signal source))
  | .ok listener =>
    modify fun s => { s with
      listener := listener.raiseAll ((env.raises.timed.filter (·.1 = 0)).map (·.2)) }
    runUntil env w .raised

end Worker

end OrderlyExit
