import OrderlyExit.CommandLine.ProbeOptions
import OrderlyExit.Observer.Observation
import OrderlyExit.Sequence

/-!
The probe: it starts a program, waits for its announcement, asks it to end, and judges its transcript.

A report says what was seen. Under a shell only the transcript counts, because the outcome is the
shell's; otherwise the program must also have ended with success.
-/

namespace OrderlyExit.Probe

open CommandLine (ProbeOptions)

/-- What a probe found out. -/
structure Report where
  viaShell : Bool
  outcome : ExitOutcome
  /-- The output was closed in time. -/
  drained : Bool
  transcript : Transcript
  verdict : Except SequenceViolation ShutdownSequence

namespace Report

/-- Whether the program has passed. -/
def passes (r : Report) : Bool := r.verdict.toBool && (r.viaShell || r.outcome.success)

def outcomeLine (r : Report) : String := "exit: " ++ r.outcome.text ++ if r.viaShell then " (shell)" else ""

def verdictLine (r : Report) : String :=
  match r.verdict with
  | .ok s =>
    "sequence: ok (pid " ++ Decimal.text s.pid.toNat ++ ", cleanup " ++ Decimal.text s.cleanup.millis ++ "ms)"
  | .error violation => "sequence: FAILED (" ++ violation.message ++ ")"

/-- The lines after the transcript. -/
def lines (r : Report) : List String :=
  ["---", r.outcomeLine] ++ (if r.drained then [] else ["warning: output was still open when capture timed out"]) ++
    [r.verdictLine]

/-- The printed form of a report. -/
def text (r : Report) : String := r.transcript.render ++ String.join (r.lines.map (· ++ "\n"))

end Report

variable {σ : Type u}

/-- How the program is started. -/
def launch (o : ProbeOptions) : Launch := { program := o.program, viaShell := o.viaShell }

/-- Sends the signal to the program or to its group. -/
def request (env : System σ) (o : ProbeOptions) (w : Observation σ) : Except ObserverError Unit × Observation σ :=
  if o.group then w.signalGroup env o.signal else w.signal env o.signal

/-- The end of the program: in time, or by force. -/
def settle (env : System σ) (o : ProbeOptions) (w : Observation σ) :
    Except ObserverError ExitOutcome × Observation σ :=
  match w.wait env (.ofMillis o.shutdownTimeout) with
  | (.ok outcome, w) => (.ok outcome, w)
  | (.error _, w) => w.stop env .zero

/-- What remains to be read, and the verdict on all of it. -/
def conclude (env : System σ) (o : ProbeOptions) (outcome : ExitOutcome) (w : Observation σ) :
    Except Observation.Fault Report × Observation σ :=
  match w.drain env (.ofMillis o.shutdownTimeout) with
  | (.error fault, w) => (.error fault, w)
  | (.ok drained, w) =>
    (.ok ⟨o.viaShell, outcome, drained, w.transcript,
      ShutdownSequence.verify w.transcript ShutdownSequence.minCleanup⟩, w)

/-- The probe after its program has been started. -/
def observe (env : System σ) (o : ProbeOptions) (w : Observation σ) :
    Except Observation.Fault Report × Observation σ :=
  match w.waitForStartup env (.ofMillis o.startupTimeout) with
  | (.error fault, w) => (.error fault, w)
  | (.ok _, w) =>
    match request env o w with
    | (.error e, w) => (.error (.failed e), w)
    | (.ok (), w) =>
      match settle env o w with
      | (.error e, w) => (.error (.failed e), w)
      | (.ok outcome, w) => conclude env o outcome w

/-- The whole probe, from a state of the system at a moment. -/
def run (env : System σ) (o : ProbeOptions) (clock : Instant) (s : σ) : Except Observation.Fault Report :=
  match Observation.spawn env (launch o) clock s with
  | .error e => .error (.failed e)
  | .ok w => (observe env o w).1

/-- The exit code of a probe that breaks off. -/
def faultCode : Nat := 101

/-- The exit code of a probe. -/
def exitCode : Except Observation.Fault Report → Nat
  | .ok report => if report.passes then 0 else 1
  | .error (.failed _) => 1
  | .error .clockOverflow => faultCode

/-- What a probe prints: a report, or nothing when it has none. -/
def output : Except Observation.Fault Report → String
  | .ok report => report.text
  | .error _ => ""

end OrderlyExit.Probe
