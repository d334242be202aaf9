/-!
The idle loop of a worker: it takes a tick every period until a request to end arrives.

The clock is virtual and jumps to the next thing that happens, a tick or the request. When both happen
at one instant, a choice decides which is taken first; choices are given by the number of the round.
The loop ends, because each tick moves the next one at least a millisecond ahead.
-/

namespace OrderlyExit.Idle

/-- Where the idle loop ended. -/
structure Result where
  /-- The clock, in milliseconds after the loop began. -/
  elapsed : Nat
  /-- How many rounds it made, the last one included. -/
  rounds : Nat
  deriving DecidableEq, Repr

/-- The clock at which a round can go on: at once, or when the next tick or the request comes. -/
def instant (request now due : Nat) : Nat := max now (min due request)

/-- Whether a round takes a tick: one is due, and the request is not there yet or has to wait. -/
def takesTick (request now due : Nat) (tickFirst : Bool) : Prop :=
  due ≤ instant request now due ∧ (instant request now due < request ∨ tickFirst = true)

instance (request now due : Nat) (tickFirst : Bool) : Decidable (takesTick request now due tickFirst) :=
  inferInstanceAs (Decidable (_ ∧ _))

/-- How far the loop is from its end, at most. -/
def remaining (request now due : Nat) : Nat := (request + 1 - due) + if due ≤ now then 1 else 0

theorem remaining_lt {tick request now due : Nat} {tickFirst : Bool} (positive : 0 < tick)
    (h : takesTick request now due tickFirst) :
    remaining request (instant request now due) (instant request now due + tick) <
      remaining request now due := by
  obtain ⟨h, -⟩ := h
  unfold remaining instant at *
  split <;> split <;> omega

/-- The loop from round `round` on, with the clock at `now` and the next tick due at `due`. The request
arrives at `request`; `tickFirst n` says that round `n` prefers a tick to a request of the same instant.
A tick that is taken puts the next one a whole period later. -/
def loop (tick request : Nat) (positive : 0 < tick) (tickFirst : Nat → Bool) (round now due : Nat) : Result :=
  let next := instant request now due
  if h : takesTick request now due (tickFirst round) then
    loop tick request positive tickFirst (round + 1) next (next + tick)
  else ⟨next, round + 1⟩
termination_by remaining request now due
decreasing_by exact remaining_lt positive h

/-- The loop from its start, where the first tick is due at once. -/
def run (tick request : Nat) (positive : 0 < tick) (tickFirst : Nat → Bool) : Result :=
  loop tick request positive tickFirst 0 0 0

end OrderlyExit.Idle
