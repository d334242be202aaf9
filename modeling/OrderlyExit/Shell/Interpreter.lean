import OrderlyExit.Shell.Compound

/-!
The interpreter: each command runs as its form says, and after it the shell attends to signals.

Commands run others through hooks. Those of a depth use the hooks of the next one, so the definition ends;
no shell gets that deep.
-/

namespace OrderlyExit.Shell

namespace Interpreter

open Substituting (surroundings)

/-- Ends the shell after a failure that nobody looks at, if that is wanted. The failure is an occasion for an
action if there was one before. -/
def checkFailure (x : Hooks) (m : Manner) (acted : Bool) : Run Unit := do
  let s ← get
  if s.status ≠ 0 && !m.tested then
    if acted then Run.atOccasion x SignalName.failure
    if s.hasOption 'e' then Run.jump (.quit s.status)

/-- Does something, attends to signals, and checks for a failure. -/
def checked (x : Hooks) (m : Manner) (act : Run Unit) : Run Unit := do
  let acted := (← get).actsAt SignalName.failure
  act
  Run.attend x
  checkFailure x m acted

/-- Does something in a line of the script. -/
def atLine (line : Nat) (act : Run Unit) : Run Unit := do
  if line ≠ 0 then modify fun s => { s with line }
  act

/-- Gives the status of a condition. -/
def conditionStatus (b : Bool) : Run Unit := Run.setStatus (if b then 0 else 1)

/-- Runs a command. -/
def command (x : Hooks) (m : Manner) (c : Command) : Run Unit := do
  if (← get).hasOption 'n' then return
  match c with
  | .simple c => checked x m (Simple.run x m c)
  | .group (.subshell body rs line) [] _ => atLine line <| checked x m (Compound.subshell x m body rs)
  | .group body [] _ => x.command m body
  | .group body rs line => atLine line do
    Redirecting.around (surroundings x) false rs (Simple.redirectionFailed false)
      (x.command { m with last := m.last && rs.isEmpty } body)
  | .subshell body rs line => atLine line <| checked x m (Compound.subshell x m body rs)
  | .sequence a b => do
    x.command { tested := m.tested } a
    x.command m b
  | .conjunction a b => do
    x.command { tested := true } a
    if (← get).status = 0 then x.command m b
  | .disjunction a b => do
    x.command { tested := true } a
    if (← get).status ≠ 0 then x.command m b
  | .negation c => do
    x.command { tested := true } c
    let failed := (← get).status ≠ 0
    conditionStatus failed
  | .background c => checked x m (Compound.background x c)
  | .pipe a b rest => checked x m (Compound.pipeline x m (.pipe a b rest))
  | .conditional test yes no => do
    x.command { tested := true } test
    match if (← get).status = 0 then yes else no with
    | .nothing => Run.setStatus 0
    | c => x.command m c
  | .loop stopOnSuccess test body => Compound.loop x m stopOnSuccess test body
  | .forEach name words body line => atLine line do
    let values ← Expansion.allFields (surroundings x) words
    if values = [] then Run.setStatus 0
    Compound.inLoop (Compound.forEach x m name body values)
  | .counted start test step body line => atLine line (Compound.counted x m start test step body)
  | .choose subject branches line => atLine line do
    Run.atOccasion x SignalName.beforeCommand
    Compound.choose x m subject branches
  | .branch .. => pure ()
  | .define name body line => atLine line do
    modify fun s => { s with functions := (name, body) :: s.functions.filter (·.1 ≠ name), status := 0 }
  | .arithmetic text line => atLine line <| checked x m do
    Run.atOccasion x SignalName.beforeCommand
    let value ← Compound.valueOf x text
    conditionStatus (value ≠ ['0'])
  | .condition t line => atLine line <| checked x m do
    Run.atOccasion x SignalName.beforeCommand
    let status ← Run.catching
      (do return if ← Compound.holds x t then 0 else 1)
      fun j => match j with
        | .fail n => if n = Compound.malformed then pure n else Run.jump j
        | j => Run.jump j
    Run.setStatus status
  | .nothing => pure ()

/-- The hooks of a shell in which commands run others so deep at most. -/
def hooks : Nat → Hooks
  | 0 => { command := fun _ _ => pure (), script := fun _ _ _ => pure () }
  | depth + 1 =>
    { command := fun m c => command (hooks depth) m c
      script := fun m line text => Script.nested (hooks depth) m line text }

/-- Deeper than commands ever run each other. -/
def maxDepth : Nat := 1000000000

/-- The hooks of every shell. -/
def all : Hooks := hooks maxDepth

end Interpreter

end OrderlyExit.Shell
