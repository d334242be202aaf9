import OrderlyExit.Shell.Hooks
import OrderlyExit.Shell.SignalName

/-!
The processes that a shell starts: copies of itself, how it waits for them, what it remembers of those in
the background, and what it does at signals.

While a shell waits for a command in the foreground, other children may end; their statuses are noted in
their jobs. Actions at signals run between commands, in the order of the signals' numbers.
-/

namespace OrderlyExit.Shell

open Host (Routine Program)

/-- How a signal is taken from now on. -/
def Run.setSignal (n : Nat) (d : Host.Disposition) : Run Unit :=
  Run.routine (Routine.call (.setSignal n d) >>= fun _ => pure ())

/-! ### Copies -/

/-- The signals that a copy in the background ignores. -/
def backgroundIgnored : List Nat := [SignalNumber.interrupt, SignalNumber.quit]

/-- Becomes a copy of the shell: its jobs are not this one's, and its actions at signals are gone. -/
def Run.enterCopy (background : Bool) : Run Unit := do
  let s ← get
  for (n, action) in s.actions do
    if action ≠ [] && n ≠ 0 && n < SignalName.limit then Run.setSignal n .byDefault
  let stays (n : Nat) (action : ByteText) : Bool :=
    action = [] || (SignalName.limit ≤ n && s.hasOption (SignalName.keepingOption n))
  set { s with
    actions := s.actions.filter fun (n, action) => stays n action
    jobs := [], arrived := [], before := none, outermost := false }
  if background then
    for n in backgroundIgnored do
      Run.setSignal n .ignored
    modify fun s => { s with inherited := backgroundIgnored ++ s.inherited }

/-- The status with which a shell ends. -/
def endStatus (r : Except Jump Unit) (s : State) : Nat :=
  match r with
  | .error (.quit n) | .error (.fail n) | .error (.comeBack n) => n
  | _ => s.status

/-- The program that does something in a shell, then what is to be done at the end, and ends. -/
def Run.program (x : Hooks) (act : Run Unit) (s : State) : Program :=
  act s fun (r, s) =>
    let status := endStatus r s
    match s.action? 0 with
    | none | some [] => .exit status
    | some action =>
      x.script {} s.innerLine action { s.setAction 0 none with status, before := some status, level := 0 } fun (r, _) =>
        .exit (match r with
          | .error (.quit n) => n
          | _ => status)

/-- Starts a copy of the shell that does something; returns its process id. -/
def Run.startCopy (x : Hooks) (background : Bool) (act : Run Unit) : Run Nat := do
  let s ← get
  Run.routine (Routine.fork (Run.program x (do Run.enterCopy background; act) s))

/-! ### Jobs -/

/-- Without the first job that is done and whose status has been asked for. -/
def forgetOne : List Job → List Job
  | [] => []
  | j :: js => if j.isDone && j.noticed then js else j :: forgetOne js

/-- Makes room for another job. -/
def Run.makeRoom : Run Unit := modify fun s => { s with jobs := forgetOne s.jobs }

/-- Notes the end of a process. -/
def Run.noteEnd (pid : Nat) (status : WaitStatus) : Run Unit :=
  modify fun s => { s with jobs := s.jobs.map fun j => j.note pid status }

/-- How a shell waits for a command in the foreground. -/
def State.foregroundWait (s : State) : Host.WaitMode :=
  { interruptible := false
    holdsInterrupt := (s.outermost || s.isExtended) && (s.action? SignalNumber.interrupt).isNone
    forgetsInterrupt := s.isExtended }

/-- Says by which signal a process in the foreground has ended. -/
def Run.announceEnd (status : WaitStatus) : Run Unit := do
  match status.outcome with
  | .signaled n =>
    if n ≠ SignalNumber.interrupt ∧ n ≠ SignalNumber.pipe ∧ !(← get).isExtended then
      discard <| Run.write 2 (SignalName.meaning n.toNat ++ ['\n'])
  | .exited _ => pure ()

/-- Waits until all of these processes have ended; returns what is known of them. -/
def Run.awaitAll (fuel : Nat) (pids : List Nat) (found : List (Nat × WaitStatus)) : Run (List (Nat × WaitStatus)) :=
  match fuel with
  | 0 => pure found
  | fuel + 1 => do
    if pids.all fun pid => (found.lookup pid).isSome then return found
    let s ← get
    match ← Run.routine (Routine.wait s.foregroundWait) with
    | .ended pid status =>
      if pids.contains pid then
        Run.announceEnd status
        Run.awaitAll fuel pids ((pid, status) :: found)
      else
        Run.noteEnd pid status
        Run.awaitAll fuel pids found
    | .noChildren => return found
    | _ => Run.awaitAll fuel pids found

/-- Waits until all of these processes have ended; returns their statuses in order. -/
def Run.await (pids : List Nat) : Run (List Nat) := do
  let found ← Run.awaitAll Routine.manyRounds pids []
  return pids.map fun pid => ((found.lookup pid).map statusOf).getD 127

/-- Does something in a copy of the shell and waits for its end; the status is that of the copy. -/
def Run.inCopy (x : Hooks) (act : Run Unit) : Run Unit := do
  Run.makeRoom
  let pid ← Run.startCopy x false act
  let statuses ← Run.await [pid]
  Run.setStatus (statuses.head?.getD 0)

/-! ### Signals -/

/-- The signals that have arrived, in the order in which they are attended to. -/
def Run.collectArrivals : Run (List Nat) := do
  let new ← Run.routine Routine.signals
  let s ← get
  return (s.arrived ++ new.filter (!s.arrived.contains ·)).mergeSort

/-- Runs the actions at these signals. -/
def Run.act (x : Hooks) : List Nat → Run Unit
  | [] => pure ()
  | n :: rest => do
    let s ← get
    set { s with arrived := rest }
    match s.action? n with
    | none | some [] => Run.act x rest
    | some action =>
      modify fun t => { t with before := some (s.before.getD s.status) }
      x.script {} s.innerLine action
      modify fun t => { t with status := s.status, before := s.before }
      Run.act x rest

/-- Runs the actions at the signals that have arrived. -/
def Run.attend (x : Hooks) : Run Unit := do
  let arrivals ← Run.collectArrivals
  Run.act x arrivals

/-! ### Occasions -/

/-- Runs the action at an occasion, unless it is running already. -/
def Run.atOccasion (x : Hooks) (n : Nat) : Run Unit := do
  let s ← get
  if s.actsAt n && !s.attending.contains n then
    set { s with attending := n :: s.attending }
    Run.andThen (x.script { tested := true } s.innerLine ((s.action? n).getD []))
      (modify fun t =>
        { t with attending := s.attending, status := s.status, pipeline := s.pipeline, line := s.line })

/-- The occasions whose actions do not go on inside of a function. -/
def State.heldBack (s : State) : List Nat :=
  (SignalName.occasions.map (·.2)).filter fun n => s.actsAt n && !s.hasOption (SignalName.keepingOption n)

/-- Runs a function: actions at occasions are not kept in it, and come back unless it has set others. -/
def Run.withinFunction (act : Run Unit) : Run Unit := do
  let s ← get
  let held := s.heldBack
  set { s with actions := s.actions.filter fun (n, _) => !held.contains n }
  Run.andThen act (modify fun t =>
    { t with actions := t.actions ++ s.actions.filter fun (n, _) => held.contains n && (t.action? n).isNone })

/-! ### Waiting on request -/

/-- What waiting on request comes to. -/
inductive Patience
  /-- Something has ended. -/
  | progress
  /-- There is nothing to wait for. -/
  | idle
  /-- A signal came in between, which gives this status. -/
  | disturbed (status : Nat)

/-- Waits for the end of one more child. -/
def Run.waitOnce : Run Patience := do
  match ← Run.routine (Routine.wait {}) with
  | .ended pid status =>
    Run.noteEnd pid status
    return .progress
  | .noChildren => return .idle
  | .nothing => return .progress
  | .interrupted =>
    let arrivals ← Run.collectArrivals
    modify fun s => { s with arrived := arrivals }
    return .disturbed (128 + (arrivals.getLast?.getD 0))

/-- Waits until no job in the background is running. -/
def Run.waitForAll (fuel : Nat) : Run Nat :=
  match fuel with
  | 0 => pure 0
  | fuel + 1 => do
    if (← get).jobs.all Job.isDone then
      modify fun s => { s with jobs := s.jobs.map fun j => { j with noticed := true } }
      return 0
    match ← Run.waitOnce with
    | .progress => Run.waitForAll fuel
    | .idle => return 0
    | .disturbed status => return status

/-- Waits for the end of the job whose leader is a process. The answer is its status, or that of a
disturbance with `false`. -/
def Run.waitForJob (fuel : Nat) (pid : Nat) : Run (Nat × Bool) :=
  match fuel with
  | 0 => pure (127, true)
  | fuel + 1 => do
    match (← get).jobs.find? fun j => j.leader? = some pid with
    | none => return (127, true)
    | some j =>
      if j.isDone then
        modify fun s => { s with jobs := s.jobs.map fun k => if k.leader? = some pid then { k with noticed := true } else k }
        return (((j.processes.lookup pid).join.map statusOf).getD 0, true)
      match ← Run.waitOnce with
      | .disturbed status => return (status, false)
      | _ => Run.waitForJob fuel pid

end OrderlyExit.Shell
