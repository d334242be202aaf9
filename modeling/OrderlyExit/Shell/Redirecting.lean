import OrderlyExit.Shell.Expansion
import OrderlyExit.Shell.Hooks

/-!
Carrying out redirections: their words take values first, then files are opened one after another. The
first that fails ends it. What the descriptors led to before can be restored.
-/

namespace OrderlyExit.Shell

open Host (Routine OpenMode)

/-- What a redirection leads to. -/
inductive Target
  | path (p : ByteText) (mode : OpenMode)
  | descriptor (n : Nat)
  /-- The descriptor is closed. -/
  | nowhere
  | document (text : ByteText)
  deriving DecidableEq, Repr

namespace Redirecting

/-- How a file is opened for a redirection. -/
def modeOf : RedirectionKind → OpenMode
  | .append | .bothAppend => { writes := true, creates := true, appends := true }
  | .readWrite => { reads := true, writes := true, creates := true }
  | .write | .clobber | .both => { writes := true, creates := true, truncates := true }
  | _ => { reads := true }

/-- The descriptor that a word names. -/
def descriptor? (s : State) (text : ByteText) : Option Nat :=
  if s.isExtended || text.length = 1 then Decimal.value? text else none

/-- The target of a redirection that takes a file for one descriptor or for output and errors. -/
def fileTargets (r : Redirection) (path : ByteText) : List (Nat × Target) :=
  match r.kind with
  | .both | .bothAppend => [(1, .path path (modeOf r.kind)), (2, .descriptor 1)]
  | kind => [(r.descriptor, .path path (modeOf kind))]

/-- What a redirection leads to, for each descriptor that it changes. -/
def targets (x : Expansion.Surroundings) (r : Redirection) : Run (List (Nat × Target)) := do
  match r.kind with
  | .document => return [(r.descriptor, .document (← Expansion.document x r.target))]
  | .text => return [(r.descriptor, .document ((← Expansion.text x r.target) ++ ['\n']))]
  | .duplicateInput | .duplicateOutput =>
    let text ← Expansion.text x r.target
    let s ← get
    if text = ['-'] then return [(r.descriptor, .nowhere)]
    match descriptor? s text with
    | some n => return [(r.descriptor, .descriptor n)]
    | none =>
      if !s.isExtended then
        -- The complaint is about the place up to which the script has been read.
        set { s with line := s.reached }
        Run.fail "Syntax error: Bad fd number".toList 2
      else if r.kind = .duplicateOutput then return fileTargets { r with kind := .both } text
      else Run.fail (text ++ ": ambiguous redirect".toList) 1
  | _ => return fileTargets r (← Expansion.text x r.target)

/-- What descriptors led to: a copy, or nothing. -/
abbrev Saved := List (Nat × Option Nat)

/-- The least number of a copy. -/
def leastCopy : Nat := 10

/-- Puts a copy of a descriptor aside, unless that has been done. -/
def save (saved : Saved) (n : Nat) : Routine Saved := do
  if (saved.lookup n).isSome then return saved
  match ← Routine.call (.duplicate n leastCopy true) with
  | Except.ok copy => return (n, some copy) :: saved
  | Except.error _ => return (n, none) :: saved

/-- Lets the descriptors lead to where they led before. -/
def restore : Saved → Routine Unit
  | [] => pure ()
  | (n, some copy) :: rest => do
    discard <| Routine.call (.duplicateTo copy n)
    Routine.close copy
    restore rest
  | (n, none) :: rest => do
    Routine.close n
    restore rest

/-- Gives up the copies. -/
def forget (saved : Saved) : Routine Unit :=
  saved.forM fun (_, copy) => match copy with
    | some copy => Routine.close copy
    | none => pure ()

/-- Lets `target` lead to where `source` leads, which is not needed any more. -/
def moveTo (source target : Nat) : Routine Unit := do
  if source ≠ target then
    discard <| Routine.call (.duplicateTo source target)
    Routine.close source

/-- Up to this length a document is written at once. -/
def shortDocument : Nat := 4096

/-- Opens a pipe that holds a document. A long one is written by a process of its own. -/
def openDocument (text : ByteText) : Routine Nat := do
  let (source, sink) ← Routine.call Host.Call.pipe
  if text.length ≤ shortDocument then
    discard <| Routine.writeAll sink text
  else
    discard <| Routine.fork (Routine.program do
      Routine.close source
      discard <| Routine.writeAll sink text
      return 0)
  Routine.close sink
  return source

/-- What the failure to open a file is called. -/
def openFault (s : State) (path : ByteText) (mode : OpenMode) (e : Errno) : ByteText :=
  if s.isExtended then
    path ++ ": ".toList ++ (if e = .fileExists then "cannot overwrite existing file" else e.description).toList
  else
    let missing := e = .noEntry ∨ e = .notADirectory
    if mode.creates then
      "cannot create ".toList ++ path ++ ": ".toList ++
        (if missing then "Directory nonexistent" else e.description).toList
    else
      "cannot open ".toList ++ path ++ ": ".toList ++ (if missing then "No such file" else e.description).toList

/-- Whether files that are there already must not be emptied, and this is one. -/
def isProtected (s : State) (kind : RedirectionKind) (path : ByteText) : Routine Bool := do
  if s.hasOption 'C' && (kind = .write || kind = .both) then
    match ← Routine.facts path with
    | .ok facts => return facts.kind = .regular
    | .error _ => return false
  else return false

/-- Lets a descriptor lead to a target; returns what went wrong. -/
def lead (s : State) (kind : RedirectionKind) (n : Nat) (t : Target) : Routine (Option ByteText) := do
  match t with
  | .nowhere =>
    Routine.close n
    return none
  | .descriptor source =>
    match ← Routine.call (.duplicateTo source n) with
    | none => return none
    | some e => return some (Decimal.digits source ++ ": ".toList ++ (Errno.description e).toList)
  | .document text =>
    let source ← openDocument text
    moveTo source n
    return none
  | .path path mode =>
    if ← isProtected s kind path then return some (openFault s path mode .fileExists)
    match ← Routine.openFile path mode with
    | .ok source =>
      moveTo source n
      return none
    | .error e => return some (openFault s path mode e)

/-- Carries redirections out up to the first that fails. -/
def leadAll (s : State) (saved : Saved) : List (RedirectionKind × Nat × Target) → Routine (Option ByteText × Saved)
  | [] => pure (none, saved)
  | (kind, n, t) :: rest => do
    let saved ← save saved n
    match ← lead s kind n t with
    | none => leadAll s saved rest
    | some fault => return (some fault, saved)

/-- Does something to find a target. A fault in a document is a status in the plain form; in the extended form so is
any fault in front of a program, which is found by the process that turns into it. -/
def guarded (s : State) (forProgram : Bool) (kind : RedirectionKind) (find : Run α) : Run (Except Nat α) :=
  Run.catching (Except.ok <$> find) fun j => match j with
    | .fail n =>
      if if s.isExtended then forProgram else kind = .document then pure (.error n) else Run.jump (.fail n)
    | .quit n => if s.isExtended && forProgram then pure (.error n) else Run.jump (.quit n)
    | j => Run.jump j

/-- The targets of redirections, up to the first that cannot be had. -/
def allTargets (x : Expansion.Surroundings) (forProgram : Bool) : List Redirection → Run (Except Nat (List (RedirectionKind × Nat × Target)))
  | [] => pure (.ok [])
  | r :: rest => do
    match ← guarded (← get) forProgram r.kind (targets x r) with
    | .error n => return .error n
    | .ok ts =>
      match ← allTargets x forProgram rest with
      | .error n => return .error n
      | .ok more => return .ok (ts.map (fun (n, t) => (r.kind, n, t)) ++ more)

/-- Carries redirections out; returns the status of a failure, which has been said, and what is needed to restore
the descriptors. -/
def perform (x : Expansion.Surroundings) (forProgram : Bool) (rs : List Redirection) : Run (Option Nat × Saved) := do
  match ← allTargets x forProgram rs with
  | .error n => return (some n, [])
  | .ok all =>
    let s ← get
    let (fault, saved) ← Run.routine (leadAll s [] all)
    match fault with
    | none => return (none, saved)
    | some message =>
      Run.warn message
      Run.routine (restore saved)
      return (some (← Run.faultStatus), [])

/-- The descriptor that leads to where errors went before. -/
def errorsBefore (saved : Saved) : Nat := (saved.lookup 2).join.getD 2

/-- Does something with redirections, and restores the descriptors. What is done knows where errors went before. A
failure gives its status to `failed`. -/
def within (x : Expansion.Surroundings) (forProgram : Bool) (rs : List Redirection) (failed : Nat → Run Unit)
    (act : Nat → Run Unit) : Run Unit := do
  if rs = [] then act 2
  else
    let (failure, saved) ← perform x forProgram rs
    match failure with
    | none => Run.andThen (act (errorsBefore saved)) (Run.routine (restore saved))
    | some status => failed status

/-- Does something with redirections. -/
def around (x : Expansion.Surroundings) (forProgram : Bool) (rs : List Redirection) (failed : Nat → Run Unit)
    (act : Run Unit) : Run Unit :=
  within x forProgram rs failed fun _ => act

end Redirecting

end OrderlyExit.Shell
