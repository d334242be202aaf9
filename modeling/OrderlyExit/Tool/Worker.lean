import OrderlyExit.CommandLine.WorkerOptions
import OrderlyExit.LogFilter
import OrderlyExit.Tool.Basic
import OrderlyExit.Worker.Program

/-!
A worker among the programs of a host. It takes signals as soon as it has announced itself, and ends after
the first request.

A request always finds it idling, so what it writes then, and when, does not hang on what came before.
-/

namespace OrderlyExit.Tool

open Host (Routine Environment)

/-- The name that a program is called by. -/
def nameOf (args : List ByteText) : String :=
  let name := lastPart (args.headD [])
  if name = [] then "worker" else Utf8.toStringLossy (ByteText.toBytes name)

/-- The content of the configuration file, if one is named. -/
def configuration (path? : Option ByteText) : Routine (Option (Except IoError (List UInt8))) :=
  match path? with
  | none => pure none
  | some path => do
    let content : Except Errno ByteText ← match ← Routine.openFile path { reads := true } with
      | .error e => pure (.error e)
      | .ok n => do
        let content ← Routine.readAll n
        Routine.close n
        pure content
    match content with
    | .ok text => return some (.ok (ByteText.toBytes text))
    | .error e => return some (.error (.ofErrno e))

/-- A descriptor that leads nowhere is led to the null device. -/
def secure (n : Nat) : Routine Unit := do
  match ← Routine.call (.descriptorFacts n) with
  | .ok (_ : Host.FileFacts) => return
  | .error _ =>
    match ← Routine.openFile "/dev/null".toList { reads := true, writes := true } with
    | .ok opened =>
      if opened ≠ n then
        discard <| Routine.call (.duplicateTo opened n)
        Routine.close opened
    | .error _ => return

/-- Waits until a time, whatever signals arrive. Each round has less fuel than the one before. -/
def sleepUntil (fuel time : Nat) : Routine Unit :=
  match fuel with
  | 0 => pure ()
  | fuel + 1 => do
    if ← Routine.pause (some time) then
      discard Routine.signals
      sleepUntil fuel time
    else return

/-- Waits until a request to end has arrived. Each round has less fuel than the one before. -/
def awaitRequest (fuel : Nat) : Routine Unit :=
  match fuel with
  | 0 => pure ()
  | fuel + 1 => do
    discard <| Routine.pause none
    let arrived ← Routine.signals
    if arrived = [] then awaitRequest fuel else return

/-- Writes entries, each at its time in milliseconds after `began`; returns whether all could be written. -/
def playEntries (began : Nat) : List Flushed → Routine Bool
  | [] => pure true
  | entry :: rest => do
    sleepUntil Routine.manyRounds (began + entry.time * 1000000)
    match ← Routine.writeAll 1 (ByteText.ofBytes entry.bytes) with
    | none => playEntries began rest
    | some _ => return false

/-- The filter on reports that an environment asks for, over the default level. -/
def filterFrom (environment : Environment) : Except Directive.SplitCharacter LogFilter :=
  LogFilter.choose ((environment.lookup "RUST_LOG".toList).bind fun t => Utf8.toString? (ByteText.toBytes t)) "off"

def worker : Tool := fun args environment => do
  match CommandLine.WorkerOptions.parse (args.drop 1) with
  | .help => emit (args.headD []) (joined ((CommandLine.WorkerOptions.help (nameOf args)).map String.toList))
  | .wrong => return CommandLine.wrongUsageCode
  | .run o =>
    for n in [0, 1, 2] do secure n
    Routine.call (.setSignal SignalNumber.pipe .ignored)
    let config ← configuration o.config
    let id ← Routine.identity
    if !(filterFrom environment).toBool then return 101
    match Worker.course config (UInt32.ofNat id.pid) .terminate with
    | (result, []) => return Worker.exitCode result
    | (result, announcement :: farewell) =>
      for s in [ShutdownSignal.interrupt, .terminate] do Routine.call (.setSignal s.number .caught)
      if (← Routine.writeAll 1 (ByteText.ofBytes announcement.bytes)).isSome then return 1
      awaitRequest Routine.manyRounds
      let asked ← Routine.now
      if ← playEntries asked farewell then return Worker.exitCode result else return 1

end OrderlyExit.Tool
