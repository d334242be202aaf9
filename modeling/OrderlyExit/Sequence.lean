import OrderlyExit.Capture.Transcript

/-!
The verdict on a transcript: whether it shows an orderly exit.

It must open with the startup marker, and its markers must be the four of an orderly exit in order,
with one process id and a cleanup that took long enough. `verify` returns the first deviation.
-/

namespace OrderlyExit

/-- An orderly exit as a transcript shows it. -/
structure ShutdownSequence where
  pid : UInt32
  /-- The time between the last two markers. -/
  cleanup : Duration
  deriving DecidableEq, Repr

/-- The first thing that is wrong with a transcript. -/
inductive SequenceViolation
  | noMarkers
  | startupNotFirst (found : Marker)
  | startupNotFirstLine (text : String)
  | missing (expected : String)
  | outOfOrder (expected : String) (found : Marker)
  | pidMismatch (expected found : UInt32)
  | cleanupTooShort (actual minimum : Duration)
  | trailing (extra : Marker)
  deriving DecidableEq, Repr

def SequenceViolation.message : SequenceViolation → String
  | .noMarkers => "no marker lines were observed"
  | .startupNotFirst found => "first marker was " ++ found.text ++ ", expected PROCESS_STARTED_PID"
  | .startupNotFirstLine text => "first line was " ++ Quoted.text text ++ ", expected PROCESS_STARTED_PID"
  | .missing expected => expected ++ " was never observed"
  | .outOfOrder expected found => "expected " ++ expected ++ ", found " ++ found.text
  | .pidMismatch expected found =>
    "GRACEFUL_SHUTDOWN_PID=" ++ Decimal.text found.toNat ++ " does not match startup pid " ++
      Decimal.text expected.toNat
  | .cleanupTooShort actual minimum =>
    "cleanup took " ++ actual.text ++ ", expected at least " ++ minimum.text
  | .trailing extra => "unexpected marker after GRACEFUL_SHUTDOWN_COMPLETE: " ++ extra.text

namespace ShutdownSequence

/-- The least cleanup that counts, unless a caller asks for another: a worker cleans up for 200 ms, and
the rest absorbs jitter. -/
def minCleanup : Duration := .ofMillis 150

/-- The next marker, if it is the expected one. -/
def expect (name : String) (isExpected : Marker → Bool) :
    List (ObservedLine × Marker) →
      Except SequenceViolation ((ObservedLine × Marker) × List (ObservedLine × Marker))
  | [] => .error (.missing name)
  | m :: rest => if isExpected m.2 then .ok (m, rest) else .error (.outOfOrder name m.2)

/-- Whether some marker is preceded by a first line that is none. -/
def opensWithOther (t : Transcript) : Option String :=
  match t.lines with
  | first :: _ => if first.marker.isNone ∧ t.markers ≠ [] then some first.text else none
  | [] => none

/-- The process id that the first marker announces, and the markers behind it. -/
def startup (t : Transcript) : Except SequenceViolation (UInt32 × List (ObservedLine × Marker)) :=
  match opensWithOther t with
  | some text => .error (.startupNotFirstLine text)
  | none =>
    match t.markers with
    | [] => .error .noMarkers
    | (_, .processStarted pid) :: rest => .ok (pid, rest)
    | (_, other) :: _ => .error (.startupNotFirst other)

/-- The orderly exit that a transcript shows, or the first deviation from one. -/
def verify (t : Transcript) (minimum : Duration) : Except SequenceViolation ShutdownSequence := do
  let (pid, rest) ← startup t
  let (_, rest) ← expect "GRACEFUL_SHUTDOWN_START" Marker.isShutdownStart rest
  let ((pidLine, pidMarker), rest) ← expect "GRACEFUL_SHUTDOWN_PID" Marker.isShutdownPid rest
  match pidMarker.pid? with
  | some found => if found ≠ pid then throw (.pidMismatch pid found)
  | none => pure ()
  let ((completeLine, _), rest) ← expect "GRACEFUL_SHUTDOWN_COMPLETE" Marker.isShutdownComplete rest
  let cleanup := completeLine.stamp.since pidLine.stamp
  if cleanup.nanos < minimum.nanos then throw (.cleanupTooShort cleanup minimum)
  match rest with
  | (_, extra) :: _ => throw (.trailing extra)
  | [] => return ⟨pid, cleanup⟩

end ShutdownSequence

end OrderlyExit
