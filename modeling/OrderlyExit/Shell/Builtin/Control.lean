import OrderlyExit.Shell.Builtin.Basic
import OrderlyExit.Shell.Job
import OrderlyExit.Shell.Lookup

/-!
The commands that change what runs next: leaving loops, functions and the shell, running texts and files,
actions at signals, sending signals, and waiting for jobs.
-/

namespace OrderlyExit.Shell.Builtin

open Host (Routine)

/-! ### Leaving -/

def exit : Builtin := fun args => do
  let s ← get
  match args with
  | [] => Run.jump (.quit (s.before.getD s.status))
  | arg :: rest =>
    if s.isExtended then
      match integer? arg with
      | some n => if rest ≠ [] then refuse "too many arguments" 1 else Run.jump (.quit (n % 256).toNat)
      | none =>
        Run.warn (arg ++ ": numeric argument required".toList)
        Run.jump (.quit 2)
    else Run.jump (.quit (← number arg))

def return_ : Builtin := fun args => do
  let s ← get
  if s.isExtended && s.running = [] && s.sourced = 0 then
    return ← refuse "can only \x60return' from a function or sourced script" 2
  match args with
  | [] => Run.jump (.comeBack s.status)
  | arg :: _ =>
    if s.isExtended then
      match integer? arg with
      | some n => Run.jump (.comeBack (n % 256).toNat)
      | none =>
        Run.warn (arg ++ ": numeric argument required".toList)
        Run.jump (.comeBack 2)
    else Run.jump (.comeBack (← number arg))

/-- Leaves so many loops, or the round of the last of them. -/
def leave (next : Bool) : Builtin := fun args => do
  let s ← get
  let jump (n : Nat) : Run Nat := do
    Run.setStatus 0
    let n := min n s.loops
    if n = 0 then return 0
    Run.jump (if next then .nextRound n else .breakOut n)
  if s.isExtended && s.loops = 0 then
    return ← refuse "only meaningful in a \x60for', \x60while', or \x60until' loop" 0
  match args with
  | [] => jump 1
  | arg :: _ =>
    if s.isExtended then
      match integer? arg with
      | some n =>
        if 0 < n then jump n.toNat
        else
          Run.warn (arg ++ ": loop count out of range".toList)
          Run.setStatus 1
          Run.jump (.breakOut s.loops)
      | none =>
        Run.warn (arg ++ ": numeric argument required".toList)
        Run.jump (.quit 128)
    else
      let n ← number arg
      if n = 0 then Run.fail ("Illegal number: ".toList ++ arg) 2 else jump n

/-! ### Running texts -/

/-- The status of the shell. -/
def currentStatus : Run Nat := return (← get).status

def eval (x : Hooks) (m : Manner) : Builtin := fun args => do
  let args := if args.head? = some ['-', '-'] then args.drop 1 else args
  let text := ([' '] : List Char).intercalate args
  Run.setStatus 0
  x.script { tested := m.tested } (← get).innerLine text
  currentStatus

/-- The file that a script name means, and the failure to find one. -/
def scriptPath (s : State) (name : ByteText) : Routine (Except Errno ByteText) := do
  if name.contains '/' then return .ok name
  let candidates := (Lookup.directories s).map (fun d => if d = [] then name else d ++ '/' :: name) ++
    if s.isExtended then [name] else []
  let there ← candidates.filterM fun path => do
    match ← Routine.facts path with
    | .ok facts => return facts.kind ≠ .directory
    | .error _ => return false
  return match there with
    | path :: _ => .ok path
    | [] => .error .noEntry

/-- The content of a file. -/
def contentOf (path : ByteText) : Routine (Except Errno ByteText) := do
  match ← Routine.openFile path { reads := true } with
  | .error e => return .error e
  | .ok n =>
    let content ← Routine.readAll n
    Routine.close n
    return content

/-- Runs a file as part of the script. Arguments behind its name replace the parameters meanwhile, in the
extended form. -/
def source (x : Hooks) (m : Manner) : Builtin := fun args => do
  let s ← get
  let args := if args.head? = some ['-', '-'] then args.drop 1 else args
  match args with
  | [] =>
    if s.isExtended then
      Run.warn "filename argument required".toList
      return 2
    else return 0
  | name :: own =>
    let missing (shown : ByteText) : Run Nat := do
      if s.isExtended then
        modify fun s => { s with command := none }
        Run.warn (name ++ ": No such file or directory".toList)
        modify fun t => { t with command := s.command }
        return 1
      else Run.fail shown 2
    match ← Run.routine (scriptPath s name) with
    | .error _ => missing (name ++ ": not found".toList)
    | .ok path =>
      match ← Run.routine (contentOf path) with
      | .error e =>
        if s.isExtended && e = .isADirectory then refuseWith name ": is a directory" 1
        else missing ("cannot open ".toList ++ path ++ ": No such file".toList)
      | .ok text =>
        let replaces := s.isExtended && own ≠ []
        modify fun t => { t with sourced := t.sourced + 1, status := 0, args := if replaces then own else t.args }
        let run : Run Unit := do
          let status ← Run.catching
            (do x.script { tested := m.tested && s.isExtended } 1 text; pure none)
            fun j => match j with
              | .comeBack n => pure (some n)
              | j => Run.jump j
          Run.atOccasion x SignalName.comingBack
          Run.setStatus (status.getD (← get).status)
        Run.andThen run (modify fun t =>
          { t with sourced := s.sourced, line := s.line, args := if replaces then s.args else t.args })
        currentStatus

/-! ### Actions at signals -/

/-- What is to be done at a signal from now on. -/
def setAction (n : Nat) (action : Option ByteText) : Run Unit := do
  modify fun s => s.setAction n action
  let s ← get
  if n ≠ 0 && n < SignalName.limit && !s.inherited.contains n then
    Run.setSignal n (match action with
      | none => .byDefault
      | some [] => .ignored
      | some _ => .caught)

/-- The lines of a listing of actions. -/
def actionLines (s : State) (wanted : Nat → Bool) : List ByteText :=
  (s.actions.mergeSort fun a b => a.1 ≤ b.1).filterMap fun (n, action) =>
    if wanted n then
      some ("trap -- ".toList ++ quotedAction s action ++ ' ' :: SignalName.shown s.dialect n)
    else none

/-- Sets the action of each named signal. -/
def setActions (action : Option ByteText) : List ByteText → Run Nat
  | [] => pure 0
  | name :: rest => do
    let s ← get
    match SignalName.number? s.dialect name with
    | some n =>
      setAction n action
      setActions action rest
    | none =>
      if s.isExtended then
        Run.warn (name ++ ": invalid signal specification".toList)
        discard <| setActions action rest
        return 1
      else
        discard <| Run.write 2 ("trap: ".toList ++ name ++ ": bad trap\n".toList)
        return 1

/-- The signals in columns. -/
def signalColumns : List ByteText :=
  let numbers := (List.range SignalName.limit).filter fun n => n ≠ 0 && n ≠ 32 && n ≠ 33
  let cell (n : Nat) : ByteText :=
    Decimal.blankPadded 2 n ++ ") ".toList ++ SignalName.shown .extended n
  rows (numbers.length) (numbers.map cell)
where
  /-- Rows of five. -/
  rows (fuel : Nat) (cells : List ByteText) : List ByteText :=
    match fuel, cells with
    | 0, _ | _, [] => []
    | fuel + 1, cells => (['\t'] : List Char).intercalate (cells.take 5) :: rows fuel (cells.drop 5)

def trap : Builtin := fun args => do
  let s ← get
  let o ← if s.isExtended then options "pl" "" args
    else if args.head? = some ['-'] then pure { rest := args }
    else options "" "" args
  let named := o.rest.filterMap (SignalName.number? s.dialect)
  if o.has 'l' then emitLines signalColumns
  else if o.has 'p' || o.rest = [] then emitLines (actionLines s fun n => o.rest = [] || named.contains n)
  else
    match o.rest with
    | [name] =>
      if s.isExtended && (SignalName.number? s.dialect name).isNone then
        discard <| Run.write 2 "trap: usage: trap [-lp] [[arg] signal_spec ...]\n".toList
        return 2
      else setActions none [name]
    | action :: names =>
      if (Decimal.value? action).any (· < SignalName.limit) then setActions none o.rest
      else setActions (if action = ['-'] then none else some action) names
    | [] => return 0

/-! ### Jobs -/

/-- The processes of a job that is named by its number or place. -/
def jobNamed (s : State) (name : ByteText) : Option Job :=
  match name with
  | ['%'] | ['%', '%'] | ['%', '+'] => s.jobs.getLast?
  | ['%', '-'] => s.jobs.dropLast.getLast?
  | '%' :: digits => (Decimal.value? digits).bind fun n => if n = 0 then none else s.jobs[n - 1]?
  | _ => none

/-- Waits for each named job in turn. -/
def waitForNamed : List ByteText → Nat → Run Nat
  | [], status => pure status
  | name :: rest, _ => do
    let s ← get
    let pid? := if name.head? = some '%' then (jobNamed s name).bind Job.leader? else Decimal.value? name
    match pid? with
    | none =>
      if name.head? = some '%' then
        if s.isExtended then discard <| refuseWith name ": no such job" 127
        else Run.fail ("No such job: ".toList ++ name) 2
        waitForNamed rest 127
      else if s.isExtended then
        discard <| refuseWith ('\x60' :: name) "': not a pid or valid job spec" 1
        waitForNamed rest 1
      else Run.fail ("Illegal number: ".toList ++ name) 2
    | some pid =>
      if s.isExtended && !s.jobs.any (·.leader? = some pid) then
        Run.warn ("pid ".toList ++ Decimal.digits pid ++ " is not a child of this shell".toList)
      let (status, wentWell) ← Run.waitForJob Routine.manyRounds pid
      if wentWell then waitForNamed rest status else return status

/-- Waits until one of the jobs has ended. -/
def waitForAny (fuel : Nat) : Run Nat :=
  match fuel with
  | 0 => pure 127
  | fuel + 1 => do
    let s ← get
    match s.jobs.find? fun j => j.isDone && !j.noticed with
    | some j =>
      let pid := (j.leader?).getD 0
      return (← Run.waitForJob 1 pid).1
    | none =>
      match ← Run.waitOnce with
      | .progress => waitForAny fuel
      | .idle => return 127
      | .disturbed status => return status

def wait : Builtin := fun args => do
  let s ← get
  let o ← options (if s.isExtended then "nf" else "") (if s.isExtended then "p" else "") args
  if o.has 'n' then waitForAny Routine.manyRounds
  else if o.rest = [] then Run.waitForAll Routine.manyRounds
  else waitForNamed o.rest 0

/-- What sending a signal takes. -/
structure Sending where
  signal : Nat := SignalNumber.terminate
  lists : Bool := false
  targets : List ByteText

/-- Complains about a text that names no signal. -/
def refuseSignal (text : ByteText) : Run Sending := do
  let s ← get
  if s.isExtended then Run.fail (text ++ ": invalid signal specification".toList) 1
  else Run.fail ("invalid signal number or name: ".toList ++ text) 2

/-- Reads the options of sending a signal. -/
def readSending (args : List ByteText) : Run Sending := do
  let s ← get
  let signal? (text : ByteText) : Option Nat :=
    (SignalName.number? s.dialect text).filter fun n => n ≠ 0 || text.all Char.isDigit
  match args with
  | ['-', '-'] :: rest => return { targets := rest }
  | ('-' :: c :: cs) :: rest =>
    match signal? (c :: cs) with
    | some n => return { signal := n, targets := if rest.head? = some ['-', '-'] then rest.drop 1 else rest }
    | none =>
      if s.isExtended && c ≠ 's' && c ≠ 'n' && c ≠ 'l' && c ≠ 'L' then refuseSignal (c :: cs)
      else
        let o ← options (if s.isExtended then "lL" else "l") (if s.isExtended then "sn" else "s") args
        let lists := o.has 'l' || o.has 'L'
        match (o.value? 's').or (o.value? 'n') with
        | some name =>
          match signal? name with
          | some n => return { signal := n, lists, targets := o.rest }
          | none => refuseSignal name
        | none => return { lists, targets := o.rest }
  | args => return { targets := args }

/-- Names the signal that a status or number means, or gives the number of a name. -/
def listSignal (arg : ByteText) : Run Nat := do
  let s ← get
  match Decimal.value? arg with
  | some n =>
    let n := if 128 < n then n - 128 else n
    if (0 < n ∨ s.isExtended) ∧ n < SignalName.limit then emit (SignalName.name s.dialect n ++ ['\n'])
    else if s.isExtended then refuseWith arg ": invalid signal specification" 1
    else Run.fail ("invalid signal number or exit status: ".toList ++ arg) 2
  | none =>
    if s.isExtended then
      match SignalName.number? s.dialect arg with
      | some n => emit (Decimal.digits n ++ ['\n'])
      | none => refuseWith arg ": invalid signal specification" 1
    else Run.fail ("Illegal number: ".toList ++ arg) 2

/-- Lists all signals, or those that arguments mean; the plain form takes one argument. -/
def listSignals (args : List ByteText) : Run Nat := do
  let s ← get
  match args with
  | [] =>
    if s.isExtended then emitLines signalColumns
    else emitLines (['0'] :: ((List.range SignalName.limit).drop 1).map (SignalName.name s.dialect))
  | arg :: more =>
    if s.isExtended then return ((← (arg :: more).mapM listSignal).foldl max 0) else listSignal arg

/-- The process that a target means; negative numbers stand for groups. -/
def targetOf (text : ByteText) : Run (Option Int) := do
  let s ← get
  if text.head? = some '%' then
    match (jobNamed s text).bind fun j => j.processes.head? with
    | some (pid, _) => return some pid
    | none =>
      if s.isExtended then
        Run.warn (text ++ ": no such job".toList)
        return none
      else Run.fail ("No such job: ".toList ++ text) 2
  else if s.isExtended then
    match integer? text with
    | some n => return some n
    | none =>
      Run.warn (text ++ ": arguments must be process or job IDs".toList)
      return none
  else if text.head? = some '-' then return some (-((← number (text.drop 1) : Nat) : Int))
  else return some ((← number text : Nat) : Int)

/-- Sends a signal to each target. -/
def sendAll (signal : Nat) (targets : List ByteText) : Run Nat := do
  let statuses ← targets.mapM fun text => do
    match ← targetOf text with
    | none => return 1
    | some target =>
      match ← Run.routine (Routine.call (.sendSignal target signal)) with
      | none => return 0
      | some e =>
        let s ← get
        if s.isExtended then Run.warn ('(' :: text ++ ") - ".toList ++ (Errno.description e).toList)
        else Run.warn ((Errno.description e).toList ++ ['\n'])
        return 1
  let extended := (← get).isExtended
  return if extended && statuses.any (· = 0) then 0 else statuses.foldl max 0

def kill : Builtin := fun args => do
  let s ← get
  let sending ← readSending args
  if sending.lists then listSignals sending.targets
  else if sending.targets = [] then
    if s.isExtended then
      discard <| Run.write 2
        ("kill: usage: kill [-s sigspec | -n signum | -sigspec] pid | jobspec ... or kill -l [sigspec]\n".toList)
      return 2
    else
      Run.fail ("Usage: kill [-s sigspec | -signum | -sigspec] [pid | job]... or\nkill -l [exitstatus]".toList) 2
  else sendAll sending.signal sending.targets

/-- Lists the jobs of the plain form. -/
def jobs : Builtin := fun args => do
  let s ← get
  let o ← options "lpnrs" "" args
  if o.has 'p' then return ← emitLines (s.jobs.map fun j => Decimal.digits ((j.leader?).getD 0))
  if s.isExtended then return 0
  let numbered := (List.range s.jobs.length).zip s.jobs
  let lines := numbered.filterMap fun (i, j) =>
    if j.isDone && j.noticed then none
    else
      let mark := if i + 1 = s.jobs.length then '+' else if i + 2 = s.jobs.length then '-' else ' '
      let status := if !j.isDone then "Running".toList
        else
          match (j.processes.getLast?.bind (·.2)).map WaitStatus.outcome with
          | some (.signaled n) => SignalName.meaning n.toNat
          | some (.exited 0) | none => "Done".toList
          | some (.exited n) => "Done(".toList ++ (Decimal.signedText n).toList ++ [')']
      some ('[' :: Decimal.digits (i + 1) ++ "] ".toList ++ [mark, ' '] ++ status ++
        List.replicate (27 - status.length) ' ')
  emitLines lines

end OrderlyExit.Shell.Builtin
