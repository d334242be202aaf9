import OrderlyExit.Shell.Builtin.Basic
import OrderlyExit.Shell.Condition
import OrderlyExit.Shell.Printing

/-!
The commands that print, and the one that decides conditions.
-/

namespace OrderlyExit.Shell.Builtin

open Printing (Make)

/-- How a shell prints. -/
def makeOf (s : State) : Make := if s.isExtended then .extended else .plain

def echo : Builtin := fun args => do
  let s ← get
  emit (Printing.echo (makeOf s) args)

/-- Says all complaints, then writes all output. -/
def deliver (p : Printing.Progress) (put : ByteText → Run Nat) : Run Nat := do
  for text in Printing.complaintsOf p.chunks do Run.warn text
  let status ← put (Printing.outputOf p.chunks)
  return max p.status status

def printf : Builtin := fun args => do
  let s ← get
  let o ← if s.isExtended then options "" "v" args else options "" "" args
  match o.rest with
  | [] =>
    if s.isExtended then
      discard <| Run.write 2 "printf: usage: printf [-v var] format [arguments]\n".toList
      return 2
    else Run.fail "usage: printf format [arg ...]".toList 2
  | format :: args =>
    deliver (Printing.printf (makeOf s) format args) fun text => do
      match o.value? 'v' with
      | some name =>
        Run.assign name text
        return 0
      | none => emit text

/-- Decides a condition. -/
def decideAll (ws : List ByteText) : Run Nat := do
  let make := makeOf (← get)
  match ← Run.routine (Condition.decide make ws) with
  | .ok b => return if b then 0 else 1
  | .error f =>
    Run.warn (f.message make)
    return 2

def test : Builtin := decideAll

/-- A condition between brackets. -/
def bracket : Builtin := fun args => do
  if args.getLast? = some [']'] then decideAll args.dropLast
  else refuse (if (← get).isExtended then "missing \x60]'" else "missing ]") 2

end OrderlyExit.Shell.Builtin
