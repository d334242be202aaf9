import OrderlyExit.Host.Ordinary
import OrderlyExit.LogFilter
import OrderlyExit.Probe

/-!
The command line: `worker` runs a worker, `probe` observes a program on a simulated host.

A worker takes its request to end from standard input, as a line that names a signal; the end of the
input asks it to terminate. The host of a probe has the program's file from the real system, if it can
be read, and a worker under the name `worker`.
-/

open OrderlyExit

namespace OrderlyExit.Main

/-- The bytes of an argument. -/
def bytesOf (arg : String) : ByteText := ByteText.ofBytes (Utf8.ofString arg)

/-- The content of a file. -/
def readContent (path : String) : IO (Except IoError (List UInt8)) := do
  try
    return .ok (← IO.FS.readBinFile path).toList
  catch
    | .noFileOrDirectory .. => return .error (.ofErrno .noEntry)
    | .permissionDenied .. => return .error (.ofErrno .accessDenied)
    | e => return .error (.withText .other (toString e))

/-- The process id, as the system shows it to the process. -/
def ownPid : IO UInt32 := do
  match ← readContent "/proc/self/stat" with
  | .ok bytes => return UInt32.ofNat (Decimal.value ((Utf8.decodeLossy bytes).takeWhile Char.isDigit))
  | .error _ => return 0

/-- Writes bytes and flushes them. -/
def emit (bytes : List UInt8) : IO Unit := do
  let out ← IO.getStdout
  out.write (ByteArray.mk bytes.toArray)
  out.flush

/-- Writes entries, each at its time in milliseconds after the first call. -/
def play (now : Nat) : List Flushed → IO Unit
  | [] => return
  | entry :: rest => do
    IO.sleep (UInt32.ofNat (entry.time - now))
    emit entry.bytes
    play entry.time rest

/-- Waits for a line that names a signal. -/
partial def request : IO ShutdownSignal := do
  let line ← (← IO.getStdin).getLine
  if line.isEmpty then return .terminate
  match ShutdownSignal.parse (String.ofList (Marker.body line.toList)) with
  | .ok signal => return signal
  | .error _ => request

/-- Runs a worker; returns its exit code. -/
def worker (args : List String) : IO UInt32 := do
  match CommandLine.WorkerOptions.parse (args.map bytesOf) with
  | .help =>
    for line in CommandLine.WorkerOptions.help "worker" do IO.println line
    return 0
  | .wrong => return UInt32.ofNat CommandLine.wrongUsageCode
  | .run o =>
    let config ← match o.config with
      | none => pure none
      | some path => some <$> readContent (Utf8.toStringLossy (ByteText.toBytes path))
    let (result, entries) := Worker.course config (← ownPid) .terminate
    match result, entries with
    | .ok _, announcement :: farewell =>
      emit announcement.bytes
      discard request
      play 0 farewell
    | .error failure, _ => IO.eprintln failure.message
    | .ok _, [] => pure ()
    return UInt32.ofNat (Worker.exitCode result)

/-- Runs a probe; returns its exit code. -/
def probe (args : List String) : IO UInt32 := do
  match CommandLine.ProbeOptions.parse (args.map bytesOf) with
  | .help =>
    for line in CommandLine.ProbeOptions.help "probe" do IO.println line
    return 0
  | .wrong => return UInt32.ofNat CommandLine.wrongUsageCode
  | .run o =>
    let filter ← match LogFilter.choose none o.logLevel with
      | .ok filter => pure filter
      | .error fault =>
        IO.eprintln fault.message
        return UInt32.ofNat Probe.faultCode
    let content ← readContent (Utf8.toStringLossy o.program)
    let script : List (Host.Place × Host.Entry) := match content with
      | .ok bytes =>
        [(Host.Files.placeOf (ByteText.ofBytes o.program), .file (ByteText.ofBytes bytes) 0o755)]
      | .error _ => []
    let worker := (Host.Files.placeOf "/usr/bin/worker".toList, Host.Entry.program Host.workerName)
    let host := Host.withFiles (worker :: script) 2
    let result := Probe.run Host.system o .start host
    match result with
    | .ok _ => pure ()
    | .error fault =>
      if filter.maxLevel.rank ≥ Detail.error.rank then IO.eprintln fault.message
    IO.print (Probe.output result)
    return UInt32.ofNat (Probe.exitCode result)

end OrderlyExit.Main

def main (args : List String) : IO UInt32 :=
  match args with
  | "worker" :: rest => OrderlyExit.Main.worker rest
  | "probe" :: rest => OrderlyExit.Main.probe rest
  | _ => do
    IO.eprintln "usage: worker | probe"
    return UInt32.ofNat CommandLine.wrongUsageCode
