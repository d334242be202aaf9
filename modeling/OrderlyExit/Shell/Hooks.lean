import OrderlyExit.Shell.Grammar
import OrderlyExit.Shell.State

/-!
What running commands means, for the parts of a shell that have others run: substitutions, actions at
signals, and commands that take commands.
-/

namespace OrderlyExit.Shell

open Host (Routine Program)

/-- How a command runs. -/
structure Manner where
  /-- Somebody looks at its status, so a failure is no reason to end. -/
  tested : Bool := false
  /-- Nothing follows it in this process. -/
  last : Bool := false

structure Hooks where
  /-- Runs a command; its status is that of the shell afterwards. -/
  command : Manner → Command → Run Unit
  /-- Runs a text as a script whose first line has a number. -/
  script : Manner → Nat → ByteText → Run Unit

namespace Run

/-- Goes on after a jump that a function takes in. -/
def catching (act : Run α) (handler : Jump → Run α) : Run α := tryCatch act handler

/-- Does something afterwards, also after a jump. -/
def andThen (act : Run α) (after : Run Unit) : Run α := do
  let a ← catching act fun j => do
    after
    jump j
  after
  return a

end Run

end OrderlyExit.Shell
