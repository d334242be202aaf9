import OrderlyExit.Shell.Regular
import OrderlyExit.Shell.Simple

/-!
Commands that are made of commands: loops, choices, pipelines, copies of the shell, and conditions between
double brackets.

Each round of a loop takes a little time, so that a loop without an end lets time pass.
-/

namespace OrderlyExit.Shell

open Host (Routine)

namespace Compound

open Substituting (surroundings connect)

/-! ### Loops -/

/-- What the round of a loop comes to. -/
inductive Round
  | goOn
  | leave
  deriving DecidableEq

/-- Takes in the jumps of a loop. -/
def takeJumps (round : Run Round) : Run Round :=
  Run.catching round fun j => match j with
    | .breakOut n => if n ≤ 1 then pure .leave else Run.jump (.breakOut (n - 1))
    | .nextRound n => if n ≤ 1 then pure .goOn else Run.jump (.nextRound (n - 1))
    | j => Run.jump j

/-- Does something inside of a loop. -/
def inLoop (act : Run Unit) : Run Unit := do
  modify fun s => { s with loops := s.loops + 1 }
  Run.andThen act (modify fun s => { s with loops := s.loops - 1 })

/-- Runs rounds until one leaves. A round returns whether to go on, and the status of its body if that ran. -/
def rounds (fuel : Nat) (status : Nat) (test : Run Bool) (body : Run Unit) : Run Unit :=
  match fuel with
  | 0 => Run.setStatus status
  | fuel + 1 => do
    let began ← Run.routine Routine.now
    let tested ← takeJumps do
      if ← test then return .goOn else return .leave
    match tested with
    | .leave => Run.setStatus status
    | .goOn =>
      let done ← takeJumps do
        body
        return .goOn
      let status := (← get).status
      match done with
      | .leave => Run.setStatus status
      | .goOn =>
        Run.routine (Routine.finishRound began)
        rounds fuel status test body

/-- Runs a body as long as a condition succeeds, or until it does. -/
def loop (x : Hooks) (m : Manner) (stopOnSuccess : Bool) (condition body : Command) : Run Unit :=
  inLoop do
    let test : Run Bool := do
      x.command { tested := true } condition
      return ((← get).status = 0) != stopOnSuccess
    rounds Routine.manyRounds 0 test (x.command { tested := m.tested } body)

/-- Runs a body for each value of a parameter. -/
def forEach (x : Hooks) (m : Manner) (name : ByteText) (body : Command) : List ByteText → Run Unit
  | [] => pure ()
  | value :: rest => do
    Run.atOccasion x SignalName.beforeCommand
    let s ← get
    match s.ownBinding? name with
    | some b => if b.refers then set (s.bind name { b with value := some (.text value) }) else Run.assign name value
    | none => Run.assign name value
    let done ← takeJumps do
      x.command { tested := m.tested } body
      return .goOn
    match done with
    | .leave => pure ()
    | .goOn => forEach x m name body rest

/-- The value of an expression with parameters in it. -/
def valueOf (x : Hooks) (text : List Char) : Run ByteText := Expansion.text (surroundings x) [.arithmetic text true 1]

/-- Runs a body as long as an expression is not zero; others are evaluated before and after each round. -/
def counted (x : Hooks) (m : Manner) (start condition step : List Char) (body : Command) : Run Unit := do
  let blank (text : List Char) : Bool := text.all Arithmetic.isSpace
  let value (text : List Char) : Run ByteText := do
    Run.atOccasion x SignalName.beforeCommand
    valueOf x text
  if !blank start then discard <| value start
  inLoop do
    let test : Run Bool := do
      if blank condition then return true
      return (← value condition) ≠ ['0']
    let round : Run Unit := do
      let done ← takeJumps do
        x.command { tested := m.tested } body
        return .goOn
      let status := (← get).status
      if done = .leave then Run.jump (.breakOut 1)
      if !blank step then discard <| value step
      Run.setStatus status
    rounds Routine.manyRounds 0 test round

/-! ### Choices -/

/-- Whether one of several patterns matches a text. -/
def anyMatches (x : Hooks) (subject : ByteText) : List Word → Run Bool
  | [] => pure false
  | w :: rest => do
    let pattern ← Expansion.pattern (surroundings x) w
    let s ← get
    if Pattern.isMatch s.dialect pattern (Expansion.seen s subject) then return true else anyMatches x subject rest

/-- Runs the branches that are chosen. With `through`, the first of them runs in any case. -/
def branches (x : Hooks) (m : Manner) (subject : ByteText) (through : Bool) : Command → Run Unit
  | .branch patterns body ending next => do
    let chosen ← if through then pure true else anyMatches x subject patterns
    if chosen then
      let run (m : Manner) : Run Unit := match body with
        | .nothing => Run.setStatus 0
        | body => x.command m body
      match ending with
      | .leave => run m
      | .fallThrough =>
        run { tested := m.tested }
        branches x m subject true next
      | .tryNext =>
        run { tested := m.tested }
        branches x m subject false next
    else branches x m subject false next
  | _ => Run.setStatus 0

def choose (x : Hooks) (m : Manner) (subject : Word) (all : Command) : Run Unit := do
  let text ← Expansion.text (surroundings x) subject
  branches x m text false all

/-! ### Processes -/

/-- Runs a body in a copy of the shell, or in place if nothing follows. -/
def subshell (x : Hooks) (m : Manner) (body : Command) (rs : List Redirection) : Run Unit := do
  let inside : Run Unit :=
    Redirecting.around (surroundings x) false rs (fun status => Run.jump (.quit status))
      (x.command { m with last := true } body)
  let s ← get
  if m.last && !s.hasActions then
    Run.enterCopy false
    inside
  else Run.inCopy x inside

/-- The commands of a pipeline, each with whether its errors go along. -/
def members : Command → List (Command × Bool)
  | .pipe first errorsToo rest => (first, errorsToo) :: members rest
  | c => [(c, false)]

/-- Lets a process read nothing. -/
def readNothing : Routine Unit := do
  match ← Routine.openFile "/dev/null".toList { reads := true } with
  | .ok n => connect n 0
  | .error _ => pure ()

/-- A simple command is announced before it runs in a process of its own; the plain form looks for its program
already then. -/
def announce (x : Hooks) : Command → Run Unit
  | .simple c => do
    modify fun s => { s with line := if c.line = 0 then s.line else c.line }
    Run.atOccasion x SignalName.beforeCommand
    let s ← get
    match c.words.head?.bind Command.bareText? with
    | some name =>
      let isOwn := (s.functions.lookup name).isSome || Lookup.isBuiltin s.dialect name
      if !s.isExtended && Command.isName name && !isOwn then discard <| Lookup.locate name
    | none => pure ()
  | _ => pure ()

/-- Starts the commands of a pipeline; `input` is what the first one reads. Returns the process ids. -/
def start (x : Hooks) (m : Manner) (background : Bool) (input : Option Nat) : List (Command × Bool) → Run (List Nat)
  | [] => pure []
  | [(c, _)] => do
    announce x c
    let pid ← Run.startCopy x background do
      Run.routine (match input with
        | some n => connect n 0
        | none => if background then readNothing else pure ())
      x.command { m with last := true } c
    Run.routine (match input with
      | some n => Routine.close n
      | none => pure ())
    return [pid]
  | (c, errorsToo) :: rest => do
    let (source, sink) ← Run.routine (Routine.call Host.Call.pipe)
    announce x c
    let pid ← Run.startCopy x background do
      Run.routine do
        Routine.close source
        match input with
        | some n => connect n 0
        | none => if background then readNothing else pure ()
        if errorsToo then discard <| Routine.call (.duplicateTo sink 2)
        connect sink 1
      x.command { m with last := true } c
    Run.routine do
      Routine.close sink
      match input with
      | some n => Routine.close n
      | none => pure ()
    let pids ← start x m background (some source) rest
    return pid :: pids

/-- Runs a pipeline; its status is that of its last command. -/
def pipeline (x : Hooks) (m : Manner) (c : Command) : Run Unit := do
  Run.makeRoom
  let pids ← start x { tested := m.tested } false none (members c)
  let statuses ← Run.await pids
  let s ← get
  let failed := statuses.reverse.find? (· ≠ 0)
  let status := if s.hasLongOption "pipefail" then failed.getD 0 else statuses.getLast?.getD 0
  set { s with status, pipeline := statuses }

/-- Starts a command in the background. -/
def background (x : Hooks) (c : Command) : Run Unit := do
  Run.makeRoom
  let pids ← start x {} true none (members c)
  modify fun s => { s with
    jobs := s.jobs ++ [{ processes := pids.map (·, none) }]
    background := pids.getLast?
    status := 0 }

/-! ### Conditions -/

/-- The status of a condition with an expression that cannot be read. -/
def malformed : Nat := 2

/-- Whether a condition between double brackets holds. -/
def holds (x : Hooks) : Test → Run Bool
  | .word w => do
    let text ← Expansion.text (surroundings x) w
    return text ≠ []
  | .unary op w => do
    let text ← Expansion.text (surroundings x) w
    let s ← get
    if op = ['-', 'v'] then return (s.text? text).isSome
    else if op = ['-', 'o'] then
      return Builtin.extendedOptions.any fun (name, c) => name.toList = text && Builtin.isOptionSet s name c
    else Run.routine (Condition.decideUnary op text)
  | .binary a op b => do
    let text ← Expansion.text (surroundings x) a
    match String.ofList op with
    | "=" | "==" | "!=" =>
      let pattern ← Expansion.pattern (surroundings x) b
      let s ← get
      return Pattern.isMatch s.dialect pattern (Expansion.seen s text) != (op = "!=".toList)
    | "=~" =>
      let pattern ← Expansion.pattern (surroundings x) b
      matchExpression text pattern
    | "<" | ">" | "-nt" | "-ot" | "-ef" =>
      let other ← Expansion.text (surroundings x) b
      return (← Run.routine (Condition.decideBinary text op other)).toOption.getD false
    | _ =>
      let other ← Expansion.text (surroundings x) b
      let p ← Expansion.evaluate text
      let q ← Expansion.evaluate other
      return Condition.compare op p q
  | .negation t => return !(← holds x t)
  | .conjunction a b => do
    if ← holds x a then holds x b else return false
  | .disjunction a b => do
    if ← holds x a then return true else holds x b
where
  /-- Matches an expression and remembers what its parts have matched. -/
  matchExpression (text : ByteText) (pattern : List Letter) : Run Bool := do
    let escaped := pattern.flatMap fun l =>
      if l.quoted && !l.char.isAlphanum then ['\\', l.char] else [l.char]
    match Regular.read .extended escaped with
    | .error _ => Run.jump (.fail malformed)
    | .ok e =>
      match Regular.search e text.characters with
      | none =>
        modify fun s => s.unbind "BASH_REMATCH".toList
        return false
      | some found =>
        let texts := found.groups.map ByteText.ofCharacters
        Run.assignValue "BASH_REMATCH".toList (.list ((List.range texts.length).zip texts))
        return true

end Compound

end OrderlyExit.Shell
