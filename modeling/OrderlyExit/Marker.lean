import OrderlyExit.Text.Decimal
import OrderlyExit.Text.Quoted
import OrderlyExit.Text.Utf8

/-!
The marker lines that announce an orderly exit: their texts, and the reader of these texts.

There are four markers; two of them carry the process id of the program that announces itself.
`Marker.parse` reads a line back. It forgives line ends after the text and leading zeros in a
process id, and tells a bad process id from a line that is no marker at all.
-/

namespace OrderlyExit

/-- A step of a program's life that it announces on its standard output. -/
inductive Marker
  /-- The program is ready for signals. -/
  | processStarted (pid : UInt32)
  /-- The program has been asked to end. -/
  | shutdownStart
  /-- The process id of the program that is about to end. -/
  | shutdownPid (pid : UInt32)
  /-- The program has cleaned up. -/
  | shutdownComplete
  deriving DecidableEq, Repr, Inhabited

/-- Why a line is no marker: its whole text, and the text in the place of a process id. -/
inductive MarkerError
  | unknown (line : String)
  | invalidPid (line value : String)
  deriving DecidableEq, Repr

def MarkerError.message : MarkerError → String
  | .unknown line => "not a marker line: " ++ Quoted.text line
  | .invalidPid line value => "invalid pid " ++ Quoted.text value ++ " in " ++ Quoted.text line

namespace Marker

def startedStem : List Char := "PROCESS_STARTED_PID=".toList
def startText : List Char := "GRACEFUL_SHUTDOWN_START".toList
def pidStem : List Char := "GRACEFUL_SHUTDOWN_PID=".toList
def completeText : List Char := "GRACEFUL_SHUTDOWN_COMPLETE".toList

/-- The text of a marker. -/
def chars : Marker → List Char
  | .processStarted pid => startedStem ++ Decimal.digits pid.toNat
  | .shutdownStart => startText
  | .shutdownPid pid => pidStem ++ Decimal.digits pid.toNat
  | .shutdownComplete => completeText

def text (m : Marker) : String := String.ofList m.chars

/-- The bytes of a marker on a line of its own. -/
def line (m : Marker) : List UInt8 := Utf8.encode (m.chars ++ ['\n'])

/-- The pieces in which the line of a marker is written: the fixed text, a process id, the line feed. -/
def pieces : Marker → List (List Char)
  | .processStarted pid => [startedStem, Decimal.digits pid.toNat, ['\n']]
  | .shutdownStart => [startText, ['\n']]
  | .shutdownPid pid => [pidStem, Decimal.digits pid.toNat, ['\n']]
  | .shutdownComplete => [completeText, ['\n']]

theorem flatten_pieces (m : Marker) : m.pieces.flatten = m.chars ++ ['\n'] := by
  cases m with
  | processStarted pid | shutdownPid pid => exact (List.append_assoc _ _ _).symm
  | shutdownStart | shutdownComplete => rfl

/-- The pieces make up the line. -/
theorem flatMap_encode_pieces (m : Marker) : m.pieces.flatMap Utf8.encode = m.line := by
  rw [line, ← flatten_pieces, ← List.flatMap_id]
  exact List.flatMap_assoc.symm

/-- The process id in a marker. -/
def pid? : Marker → Option UInt32
  | .processStarted pid | .shutdownPid pid => some pid
  | .shutdownStart | .shutdownComplete => none

def isProcessStarted : Marker → Bool
  | .processStarted _ => true
  | _ => false

def isShutdownStart : Marker → Bool
  | .shutdownStart => true
  | _ => false

def isShutdownPid : Marker → Bool
  | .shutdownPid _ => true
  | _ => false

def isShutdownComplete : Marker → Bool
  | .shutdownComplete => true
  | _ => false

/-! ### Reading a line -/

def isLineEnd (c : Char) : Bool := c == '\r' || c == '\n'

/-- A line without the line ends behind it. -/
def body (cs : List Char) : List Char := (cs.reverse.dropWhile isLineEnd).reverse

/-- A process id: any run of digits whose value fits into 32 bits. -/
def readPid? (cs : List Char) : Option UInt32 :=
  match Decimal.value? cs with
  | some n => if n < UInt32.size then some (UInt32.ofNat n) else none
  | none => none

/-- The marker with the process id `value`, or the complaint about it. -/
def withPid (make : UInt32 → Marker) (line value : List Char) : Except MarkerError Marker :=
  match readPid? value with
  | some pid => .ok (make pid)
  | none => .error (.invalidPid (String.ofList line) (String.ofList value))

/-- Reads a line without line ends. -/
def parseBody (line : List Char) : Except MarkerError Marker :=
  if line = startText then .ok .shutdownStart
  else if line = completeText then .ok .shutdownComplete
  else
    match startedStem.isPrefixOf? line with
    | some value => withPid .processStarted line value
    | none =>
      match pidStem.isPrefixOf? line with
      | some value => withPid .shutdownPid line value
      | none => .error (.unknown (String.ofList line))

/-- Reads a line, whatever line ends follow its text. -/
def parse (line : String) : Except MarkerError Marker := parseBody (body line.toList)

/-- The marker on a line, if there is one. -/
def parse? (line : String) : Option Marker := (parse line).toOption

end Marker

end OrderlyExit
