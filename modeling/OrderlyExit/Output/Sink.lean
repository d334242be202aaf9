import OrderlyExit.IoError

/-!
Writers as behaviours. A sink answers each write call and each flush call and moves to a next state;
nothing else is known about it.

A write may be interrupted, and whoever writes tries again. So that trying again comes to an end, a
sink bounds the number of interruptions in a row.
-/

namespace OrderlyExit

/-- The answer to one write call. -/
inductive Reply
  /-- The first so many of the offered bytes were taken. -/
  | accepted (count : Nat)
  /-- Nothing was taken; the same call may be made again. -/
  | interrupted
  | failed (error : IoError)
  deriving DecidableEq, Repr

/-- A writer with states in `σ`. -/
structure Sink (σ : Type u) where
  write : σ → List UInt8 → Reply × σ
  flush : σ → Option IoError × σ
  /-- How often in a row the same write can still be interrupted. -/
  patience : σ → List UInt8 → Nat
  patience_lt : ∀ s bytes, (write s bytes).1 = .interrupted →
    patience (write s bytes).2 bytes < patience s bytes

/-! ### A writer that follows a script -/

/-- What a scripted writer does. -/
structure SinkScript where
  /-- How many bytes it takes in all. -/
  capacity : Option Nat := none
  /-- How a write without room fails; without it such a write takes no byte. -/
  refusal : Option IoError := none
  /-- How many bytes one call takes at most. -/
  chunk : Option Nat := none
  /-- Every other write call is interrupted. -/
  interrupts : Bool := false
  /-- The flush call that fails, counted from one. -/
  flushFailsAt : Option Nat := none
  flushError : IoError := .ofKind .other
  deriving Repr, Inhabited

/-- What a scripted writer remembers. -/
structure SinkScript.State where
  accepted : Nat := 0
  writes : Nat := 0
  flushes : Nat := 0
  deriving DecidableEq, Repr, Inhabited

namespace SinkScript

/-- How many of `offered` bytes one call takes after `accepted` bytes. -/
def share (script : SinkScript) (accepted offered : Nat) : Nat :=
  let room := match script.capacity with
    | some c => min offered (c - accepted)
    | none => offered
  match script.chunk with
  | some c => min room c
  | none => room

/-- Whether a write finds no room at all. -/
def isFull (script : SinkScript) (accepted : Nat) : Bool :=
  match script.capacity with
  | some c => c ≤ accepted
  | none => false

/-- Whether the next write call is interrupted. -/
def interruptsNow (script : SinkScript) (s : State) : Bool := script.interrupts && s.writes % 2 == 0

def write (script : SinkScript) (s : State) (bytes : List UInt8) : Reply × State :=
  let called := { s with writes := s.writes + 1 }
  if script.interruptsNow s then (.interrupted, called)
  else if script.isFull s.accepted then
    match script.refusal with
    | some e => (.failed e, called)
    | none => (.accepted 0, called)
  else
    let n := script.share s.accepted bytes.length
    (.accepted n, { called with accepted := s.accepted + n })

def flush (script : SinkScript) (s : State) : Option IoError × State :=
  let called := { s with flushes := s.flushes + 1 }
  if script.flushFailsAt = some called.flushes then (some script.flushError, called) else (none, called)

def patience (script : SinkScript) (s : State) : Nat := if script.interruptsNow s then 1 else 0

theorem patience_write_lt (script : SinkScript) (s : State) (bytes : List UInt8)
    (h : (script.write s bytes).1 = .interrupted) :
    script.patience (script.write s bytes).2 < script.patience s := by
  by_cases hi : script.interruptsNow s = true
  · have hodd : (s.writes + 1) % 2 ≠ 0 := by
      simp only [interruptsNow, Bool.and_eq_true, beq_iff_eq] at hi
      omega
    have hw : (script.write s bytes).2 = { s with writes := s.writes + 1 } := by simp [write, hi]
    have hnext : script.interruptsNow (script.write s bytes).2 = false := by simp [hw, interruptsNow, hodd]
    simp [patience, hi, hnext]
  · exfalso
    simp only [write, hi] at h
    split at h
    · contradiction
    · split at h
      · split at h <;> cases h
      · cases h

/-- The writer that follows the script. -/
def sink (script : SinkScript) : Sink State where
  write := script.write
  flush := script.flush
  patience s _ := script.patience s
  patience_lt := script.patience_write_lt

end SinkScript

end OrderlyExit
