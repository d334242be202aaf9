import OrderlyExit.Proofs.Marker.Wire
import OrderlyExit.Proofs.Sequence.Verdict
import OrderlyExit.Proofs.Worker.FailStop

/-! A worker and its observer agree. What a run that succeeds has let out is cut into the four marker lines, however
    it arrives, and with each line stamped at its flush the verdict is the worker's own process id and cleanup. -/

namespace OrderlyExit
namespace Worker
open Session ShutdownSequence Transcript

variable {σ : Type}

/-- The markers of a worker, in order. -/
def markers (pid : UInt32) : List Marker := [.processStarted pid, .shutdownStart, .shutdownPid pid, .shutdownComplete]

/-- All that a worker writes. -/
def output (pid : UInt32) : List UInt8 := (markers pid).flatMap Marker.line

theorem flatMap_bytes_plan (w : Worker) (after : Nat) :
    ((w.plan after).map Outlet.entry).flatMap (·.bytes) = output w.pid := rfl

end Worker
end OrderlyExit
