import OrderlyExit.Signal
import OrderlyExit.Text.Decimal

/-!
How a process ended, and the status word of the system that says so.

The low seven bits of a status are zero after a normal exit, whose code follows in the next byte, all
ones for a process that has not ended, and otherwise the number of the signal that killed it.
-/

namespace OrderlyExit

/-- The status word of a process. -/
structure WaitStatus where
  bits : UInt32
  deriving DecidableEq, Repr, Inhabited

inductive ExitOutcome
  | exited (code : Int)
  | signaled (signal : Int)
  deriving DecidableEq, Repr, Inhabited

namespace WaitStatus

/-- The status of a process that exited with a code. -/
def ofExit (code : UInt8) : WaitStatus := ⟨code.toUInt32 <<< 8⟩

/-- The status of a process that a signal killed, with or without a core dump. -/
def ofSignal (signal : UInt32) (dumped : Bool) : WaitStatus := ⟨signal ||| if dumped then 0x80 else 0⟩

/-- The low seven bits. -/
def low (s : WaitStatus) : UInt32 := s.bits &&& 0x7F

/-- The word read as a signed number. -/
def signed (s : WaitStatus) : Int := Int.bmod s.bits.toNat UInt32.size

/-- What a status says. One that is no end of a process counts as an exit with the whole word. -/
def outcome (s : WaitStatus) : ExitOutcome :=
  if s.low = 0 then .exited ((s.bits >>> 8) &&& 0xFF).toNat
  else if s.low = 0x7F then .exited s.signed
  else .signaled s.low.toNat

end WaitStatus

namespace ExitOutcome

def success : ExitOutcome → Bool
  | .exited code => code = 0
  | .signaled _ => false

def text : ExitOutcome → String
  | .exited code => "exit status " ++ Decimal.signedText code
  | .signaled n =>
    match signalName? n with
    | some name => "killed by " ++ name
    | none => "killed by signal " ++ Decimal.signedText n

end ExitOutcome

end OrderlyExit
