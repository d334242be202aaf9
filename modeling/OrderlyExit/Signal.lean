import OrderlyExit.Text.Quoted

/-!
The two signals that ask a program to end, their spellings, and the names and numbers of all signals.
-/

namespace OrderlyExit

/-- A request to end. -/
inductive ShutdownSignal
  | interrupt
  | terminate
  deriving DecidableEq, Repr, Inhabited

/-- The names of the signals 1 to 31, in the order of their numbers. -/
def signalNames : List String :=
  ["SIGHUP", "SIGINT", "SIGQUIT", "SIGILL", "SIGTRAP", "SIGABRT", "SIGBUS", "SIGFPE", "SIGKILL", "SIGUSR1",
   "SIGSEGV", "SIGUSR2", "SIGPIPE", "SIGALRM", "SIGTERM", "SIGSTKFLT", "SIGCHLD", "SIGCONT", "SIGSTOP",
   "SIGTSTP", "SIGTTIN", "SIGTTOU", "SIGURG", "SIGXCPU", "SIGXFSZ", "SIGVTALRM", "SIGPROF", "SIGWINCH",
   "SIGIO", "SIGPWR", "SIGSYS"]

/-- The name of a signal, if its number has one. -/
def signalName? (n : Int) : Option String :=
  if 1 ≤ n then signalNames[(n - 1).toNat]? else none

/-! ### Numbers -/

namespace SignalNumber

def interrupt : Nat := 2
def quit : Nat := 3
def kill : Nat := 9
def pipe : Nat := 13
def terminate : Nat := 15
def resume : Nat := 18
def stop : Nat := 19

/-- The highest number of a signal. -/
def highest : Nat := 64

/-- Signals that do nothing by default. -/
def harmless (n : Nat) : Bool := n == 17 || n == resume || n == 23 || n == 28

/-- Signals that stop a process by default. -/
def stops (n : Nat) : Bool := n == stop || n == 20 || n == 21 || n == 22

end SignalNumber

/-! ### Requests to end -/

namespace ShutdownSignal

def name : ShutdownSignal → String
  | .interrupt => "SIGINT"
  | .terminate => "SIGTERM"

def number : ShutdownSignal → Nat
  | .interrupt => 2
  | .terminate => 15

/-- Why a text names no request to end. -/
inductive ParseError
  | unknown (text : String)
  deriving DecidableEq, Repr

def ParseError.message : ParseError → String
  | .unknown text => "unknown shutdown signal " ++ Quoted.text text ++ " (expected int or term)"

/-- The part of a lower-case spelling after one optional `sig`. -/
def stem (cs : List Char) : List Char := (['s', 'i', 'g'].isPrefixOf? cs).getD cs

/-- The request with the given lower-case stem. -/
def ofStem? (cs : List Char) : Option ShutdownSignal :=
  if cs = "int".toList ∨ cs = "interrupt".toList then some .interrupt
  else if cs = "term".toList ∨ cs = "terminate".toList then some .terminate
  else none

/-- Reads a spelling; the case of ASCII letters does not matter. -/
def parse (text : String) : Except ParseError ShutdownSignal :=
  match ofStem? (stem (text.toList.map Char.toLower)) with
  | some signal => .ok signal
  | none => .error (.unknown text)

end ShutdownSignal

end OrderlyExit
