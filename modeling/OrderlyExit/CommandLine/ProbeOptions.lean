import OrderlyExit.CommandLine.Arguments
import OrderlyExit.Signal
import OrderlyExit.Text.ByteText
import OrderlyExit.Text.Decimal
import OrderlyExit.Text.Utf8

/-!
The command line of a probe: the program to observe, how to start it, and what to do with it.
-/

namespace OrderlyExit.CommandLine

/-- The options of a probe. Times are in milliseconds. -/
structure ProbeOptions where
  signal : ShutdownSignal := .terminate
  viaShell : Bool := false
  /-- Signal the whole process group. -/
  group : Bool := false
  startupTimeout : Nat := 5000
  shutdownTimeout : Nat := 10000
  logLevel : String := "warn"
  program : List UInt8 := []
  deriving DecidableEq, Repr, Inhabited

namespace ProbeOptions

def rules : List OptionRule :=
  [⟨"signal".toList, some 's', true⟩, ⟨"via-shell".toList, none, false⟩, ⟨"group".toList, none, false⟩,
   ⟨"startup-timeout-ms".toList, none, true⟩, ⟨"shutdown-timeout-ms".toList, none, true⟩,
   ⟨"log-level".toList, none, true⟩]

/-- A number of milliseconds, perhaps with a plus sign, that fits into 64 bits. -/
def milliseconds? (cs : List Char) : Option Nat :=
  (Decimal.value? (if cs.head? = some '+' then cs.drop 1 else cs)).filter (· < UInt64.size)

/-- The options so far, and the names of those that have been given. -/
structure Progress where
  options : ProbeOptions := {}
  given : List (List Char) := []

/-- The name under which the program counts as given. -/
def programName : List Char := "program".toList

/-- Takes in the value of one option. -/
def setValue (o : ProbeOptions) (name value : List Char) : Option ProbeOptions :=
  if name = "signal".toList then do
    let text ← Utf8.toString? (ByteText.toBytes value)
    let signal ← (ShutdownSignal.parse text).toOption
    some { o with signal }
  else if name = "startup-timeout-ms".toList then (milliseconds? value).map ({ o with startupTimeout := · })
  else if name = "shutdown-timeout-ms".toList then (milliseconds? value).map ({ o with shutdownTimeout := · })
  else if name = "log-level".toList then
    (Utf8.toString? (ByteText.toBytes value)).map ({ o with logLevel := · })
  else none

def setFlag (o : ProbeOptions) (name : List Char) : ProbeOptions :=
  if name = "via-shell".toList then { o with viaShell := true } else { o with group := true }

/-- Takes in one item; none may be given twice, and the program has a name. -/
def take (p : Progress) : Item → Option Progress
  | .flag name => if p.given.contains name then none else some ⟨setFlag p.options name, name :: p.given⟩
  | .option name value =>
    if p.given.contains name then none else (setValue p.options name value).map (⟨·, name :: p.given⟩)
  | .operand program =>
    if p.given.contains programName || program.isEmpty then none
    else some ⟨{ p.options with program := ByteText.toBytes program }, programName :: p.given⟩
  | _ => none

/-- Reads the arguments; one of them has to name a program. -/
def parse (args : List (List Char)) : Usage ProbeOptions :=
  match collect take {} (items rules args) with
  | .run p => if p.given.contains programName then .run p.options else .wrong
  | .help => .help
  | .wrong => .wrong

/-- The help for a probe that is called by a name. -/
def help (name : String) : List String :=
  ["Run a program, signal it, and check its graceful shutdown markers", "",
   "Usage: " ++ name ++ " [OPTIONS] <PROGRAM>", "",
   "Arguments:", "  <PROGRAM>  Program to observe", "",
   "Options:",
   "  -s, --signal <SIGNAL>",
   "          Signal to deliver once the program has announced itself (int or term) [default: term]",
   "      --via-shell",
   "          Run the program under `sh -c` so it is a grandchild",
   "      --group",
   "          Signal the whole process group instead of the immediate child",
   "      --startup-timeout-ms <STARTUP_TIMEOUT_MS>",
   "          [default: 5000]",
   "      --shutdown-timeout-ms <SHUTDOWN_TIMEOUT_MS>",
   "          Grace period after the signal before SIGKILL [default: 10000]",
   "      --log-level <LOG_LEVEL>",
   "          Log level for stderr diagnostics [default: warn]",
   "  -h, --help",
   "          Print help"]

end ProbeOptions

end OrderlyExit.CommandLine
