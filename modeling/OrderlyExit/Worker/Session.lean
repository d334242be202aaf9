import OrderlyExit.Output.Outlet
import OrderlyExit.Time
import OrderlyExit.Worker.Idle
import OrderlyExit.Worker.Listener

/-!
What a worker does step by step, on a virtual clock: it emits markers, waits, and idles until it is
asked to end.

A session is the state of such a run. Around it are the sink that takes its output, the signals that
are raised at it, after a flush or at a time, and the choices between things that happen at one instant.
-/

namespace OrderlyExit

/-- The signals raised at a worker. -/
structure Raises where
  /-- Those raised right after the `n`-th successful flush, counted from one. -/
  afterFlush : Nat → List ShutdownSignal := fun _ => []
  /-- Those raised when the clock, in milliseconds, reaches a time. -/
  timed : List (Nat × ShutdownSignal) := []

/-- Everything around a worker that it does not control. -/
structure Surroundings (σ : Type u) where
  sink : Sink σ
  raises : Raises := {}
  /-- Whether round `n` of the idle loop prefers a tick to a request of the same instant. -/
  tickFirst : Nat → Bool := fun _ => false
  /-- Whether an interrupt is received before a termination that is pending as well. -/
  interruptFirst : Bool := true

/-- The state of a run. -/
structure Session (σ : Type u) where
  /-- Milliseconds since the start. -/
  clock : Nat := 0
  outlet : Outlet σ
  listener : Listener := {}
  /-- How many flushes have succeeded. -/
  flushes : Nat := 0

/-- What a worker does in a session: it may fail, and the session up to there remains. -/
abbrev Act (σ : Type) (ε α : Type) := ExceptT ε (StateM (Session σ)) α

/-- Where the request to end comes from. -/
inductive Request
  /-- It comes after so many milliseconds of idling. -/
  | after (delay : Nat) (signal : ShutdownSignal)
  /-- It is whatever the listener receives. -/
  | raised
  deriving DecidableEq, Repr

/-- Why an idle loop does not end with a request. -/
inductive IdleFault
  /-- A loop without a period cannot start. -/
  | zeroPeriod
  /-- No request ever comes. -/
  | neverAsked
  deriving DecidableEq, Repr

def IdleFault.message : IdleFault → String
  | .zeroPeriod => "`period` must be non-zero."
  | .neverAsked => "no request to end ever comes"

namespace Session

variable {σ : Type}

/-- The session after signals have been raised. -/
def raise (s : Session σ) (signals : List ShutdownSignal) : Session σ :=
  { s with listener := s.listener.raiseAll signals }

/-- The signals raised after `start` and no later than `stop`. -/
def raisedBetween (timed : List (Nat × ShutdownSignal)) (start stop : Nat) : List ShutdownSignal :=
  (timed.filter fun r => start < r.1 && r.1 ≤ stop).map (·.2)

/-- The session `delay` milliseconds later. -/
def later (env : Surroundings σ) (delay : Nat) (s : Session σ) : Session σ :=
  { s.raise (raisedBetween env.raises.timed s.clock (s.clock + delay)) with clock := s.clock + delay }

/-- Emits a marker; the signals that belong to its flush are raised when it succeeds. -/
def emit (env : Surroundings σ) (m : Marker) : Act σ IoError Unit := do
  let s ← get
  let (result, outlet) := s.outlet.emit env.sink s.clock m
  match result with
  | .ok () =>
    set ({ s with outlet := outlet, flushes := s.flushes + 1 }.raise (env.raises.afterFlush (s.flushes + 1)))
  | .error e =>
    set { s with outlet := outlet }
    throw e

/-- How many milliseconds a wait lasts: an alarm is not set further ahead than it can be. -/
def waitTime (delay : Nat) : Nat := min delay Instant.farAhead.millis

/-- Waits, whatever is raised meanwhile, for the whole delay or until the farthest alarm goes off. -/
def sleep (env : Surroundings σ) (delay : Nat) : Act σ ε Unit :=
  modify (later env (waitTime delay))

/-- How long the session idles before the request is there, if it ever comes. -/
def requestDelay? (env : Surroundings σ) (s : Session σ) : Request → Option Nat
  | .after delay _ => some (waitTime delay)
  | .raised =>
    if (s.listener.ready? env.interruptFirst).isSome then some 0
    else ((env.raises.timed.filter (s.clock < ·.1)).map (·.1 - s.clock)).min?

/-- Idles with the given period until the request comes, and returns its signal. -/
def idle (env : Surroundings σ) (tick : Nat) (request : Request) : Act σ IdleFault ShutdownSignal := do
  if positive : 0 < tick then
    match (← get).requestDelay? env request with
    | none => throw .neverAsked
    | some delay =>
      modify (later env (Idle.run tick delay positive env.tickFirst).elapsed)
      match request with
      | .after _ signal => return signal
      | .raised =>
        let s ← get
        let (received, listener) := s.listener.receive env.interruptFirst
        set { s with listener := listener }
        match received with
        | some signal => return signal
        | none => throw .neverAsked
  else throw .zeroPeriod

end Session

end OrderlyExit
