import OrderlyExit.IoError
import OrderlyExit.Signal

/-!
A listener for the two requests to end. Of each kind it remembers only whether one is pending, so
several deliveries between two receptions count as one. Receiving takes one pending request and leaves
the other; when both are pending, a choice decides which comes first.

Requests arrive at a process, and its listener is told of them when a reception would have to wait. A
listener that takes the place of another one is told of what the other one was not.
-/

namespace OrderlyExit

/-- Which requests have been delivered and not yet received. -/
structure Listener where
  interrupt : Bool := false
  terminate : Bool := false
  deriving DecidableEq, Repr, Inhabited

namespace Listener

/-- Whether a request of this kind is pending. -/
def isPending (l : Listener) : ShutdownSignal → Bool
  | .interrupt => l.interrupt
  | .terminate => l.terminate

/-- The listener with one kind set pending or not. -/
def set (l : Listener) (signal : ShutdownSignal) (pending : Bool) : Listener :=
  match signal with
  | .interrupt => { l with interrupt := pending }
  | .terminate => { l with terminate := pending }

/-- A delivery. -/
def raise (l : Listener) (signal : ShutdownSignal) : Listener := l.set signal true

/-- Several deliveries. -/
def raiseAll (l : Listener) (signals : List ShutdownSignal) : Listener := signals.foldl raise l

/-- The request that a reception finds, if there is one. -/
def ready? (l : Listener) (interruptFirst : Bool) : Option ShutdownSignal :=
  if l.interrupt ∧ (interruptFirst = true ∨ l.terminate = false) then some .interrupt
  else if l.terminate then some .terminate
  else none

/-- Takes a pending request; without one the reception has to wait. -/
def receive (l : Listener) (interruptFirst : Bool) : Option ShutdownSignal × Listener :=
  match l.ready? interruptFirst with
  | some signal => (some signal, l.set signal false)
  | none => (none, l)

/-- Registers for both kinds, the interrupt first; `refusal` says how the system refuses a kind. -/
def register (refusal : ShutdownSignal → Option IoError) : Except (ShutdownSignal × IoError) Listener :=
  match refusal .interrupt with
  | some e => .error (.interrupt, e)
  | none =>
    match refusal .terminate with
    | some e => .error (.terminate, e)
    | none => .ok {}

/-- The listener with all that is pending in another one as well. -/
def join (l other : Listener) : Listener := ⟨l.interrupt || other.interrupt, l.terminate || other.terminate⟩

end Listener

/-- A process with its listener. -/
structure Reception where
  /-- Which requests have arrived that the listener was not told of yet. -/
  arrived : Listener := {}
  listener : Listener := {}
  deriving DecidableEq, Repr, Inhabited

namespace Reception

/-- A request arrives at the process. -/
def raise (r : Reception) (signal : ShutdownSignal) : Reception := { r with arrived := r.arrived.raise signal }

/-- A new listener takes the place of the present one. -/
def renew (r : Reception) : Reception := { r with listener := {} }

/-- The listener is told of all that has arrived. -/
def tell (r : Reception) : Reception := ⟨{}, r.listener.join r.arrived⟩

/-- Takes a pending request, if need be one that has arrived only; without one the reception has to wait. -/
def receive (r : Reception) (interruptFirst : Bool) : Option ShutdownSignal × Reception :=
  let r := if (r.listener.ready? interruptFirst).isSome then r else r.tell
  let (received, listener) := r.listener.receive interruptFirst
  (received, { r with listener })

end Reception

end OrderlyExit
