import OrderlyExit.Shell.Aliases
import OrderlyExit.Shell.Expansion
import OrderlyExit.Shell.Job

/-!
Running scripts line by line, and taking the output of commands for a text.

A line is read only when the lines before it have run. A line that is no command ends the script.
-/

namespace OrderlyExit.Shell

open Host (Routine)

namespace Script

/-- Says that a line cannot be read. -/
def refuse (f : Grammar.Fault) (lastLine : Nat) : Run Unit := do
  modify fun s => { s with line := if f.line = 0 then lastLine else f.line }
  let s ← get
  if s.isExtended then
    discard <| Run.write 2 (s.name ++ ": -c: line ".toList ++ Decimal.digits s.line ++ ": syntax error: ".toList ++
      f.message.toList ++ ['\n'])
    Run.setStatus 2
  else Run.fail ("Syntax error: ".toList ++ f.message.toList) 2

/-- Reads the next line of a script, with other spellings replaced if they are used. -/
def nextLine (s : State) (ts : List Token) : Grammar.Line :=
  if s.aliases = [] || (s.isExtended && !s.hasLongOption "expand_aliases") then Grammar.readLine s.dialect ts
  else
    let expanded := Aliases.expand s.dialect s.aliases ts
    match Grammar.readLine s.dialect (expanded.map (·.1)) with
    | .command c rest reached => .command c (Aliases.remainder ts expanded rest.length) reached
    | line => line

/-- Runs the lines of a script. With `keeps`, a fault in a line ends only that line, in the extended form. -/
def runLines (x : Hooks) (m : Manner) (keeps : Bool) (lastLine fuel : Nat) (ts : List Token) : Run Unit :=
  match fuel with
  | 0 => pure ()
  | fuel + 1 => do
    let s ← get
    match nextLine s ts with
    | .none => pure ()
    | .broken f => refuse f lastLine
    | .command c rest reached =>
      let last := m.last && (Command.skipNewlines rest).isEmpty
      modify fun s => { s with reached := reached.getD lastLine }
      let line := x.command { m with last } c
      if keeps && s.isExtended then
        Run.catching line fun j => match j with
          | .fail status => do
            Run.attend x
            modify fun t => { t with status, command := s.command, loops := s.loops }
          | j => Run.jump j
      else line
      runLines x m keeps lastLine fuel rest

/-- Runs a text whose first line has a number. -/
def run (x : Hooks) (m : Manner) (keeps : Bool) (firstLine : Nat) (text : ByteText) : Run Unit := do
  let s ← get
  runLines x m keeps (firstLine + Grammar.lineCount text) Routine.manyRounds (Grammar.tokens s.dialect firstLine text)

/-- Runs a text in the middle of a script, with lines of its own from a number on. -/
def nested (x : Hooks) (m : Manner) (firstLine : Nat) (text : ByteText) : Run Unit := do
  let s ← get
  set { s with level := s.level + 1 }
  Run.andThen (run x m false firstLine text) (modify fun t => { t with level := s.level })
  modify fun t => { t with line := s.line, reached := s.reached }

end Script

/-! ### Substituting commands -/

namespace Substituting

/-- A text without the line ends at its end, and without zero bytes. -/
def trimmed (text : ByteText) : ByteText :=
  ((text.filter (· ≠ '\x00')).reverse.dropWhile (· = '\n')).reverse

/-- Lets a descriptor lead to where another one leads, which is not needed any more. -/
def connect (source target : Nat) : Routine Unit := do
  if source ≠ target then
    discard <| Routine.call (.duplicateTo source target)
    Routine.close source

/-- The file whose content a text asks for, without a command. -/
def fileOf? (s : State) (text : ByteText) : Option Redirection :=
  if !s.isExtended then none
  else
    match Grammar.readLine s.dialect (Grammar.tokens s.dialect 1 text) with
    | .command (.simple c) [] _ =>
      match c.words, c.assignments, c.redirections with
      | [], [], [r] => if r.kind = .read then some r else none
      | _, _, _ => none
    | _ => none

/-- What a substitution runs: a file that is only named is copied. -/
def body (s : State) (text : ByteText) : ByteText :=
  match fileOf? s text with
  | some _ => "cat ".toList ++ text
  | none => text

/-- The output of commands without the line ends at its end. Their lines are numbered from the given one on. -/
def substitute (x : Hooks) (text : ByteText) (line : Nat) : Run ByteText := do
  Run.makeRoom
  let s ← get
  let (source, sink) ← Run.routine (Routine.call Host.Call.pipe)
  let pid ← Run.startCopy x false do
    Run.routine do
      Routine.close source
      connect sink 1
    x.script { last := true } line (body s text)
  let output ← Run.routine do
    Routine.close sink
    let output ← Routine.readAll source
    Routine.close source
    pure output
  let statuses ← Run.await [pid]
  modify fun s => { s with substituted := statuses.head? }
  return trimmed (output.toOption.getD [])

/-- The path of an open descriptor. -/
def descriptorPath (n : Nat) : ByteText := "/dev/fd/".toList ++ Decimal.digits n

/-- The least number of the descriptor of a pipe with a path. -/
def leastChannel : Nat := 60

/-- The path of a pipe from commands, or to them. -/
def channel (x : Hooks) (text : ByteText) (reads : Bool) (line : Nat) : Run ByteText := do
  let (source, sink) ← Run.routine (Routine.call Host.Call.pipe)
  discard <| Run.startCopy x false do
    Run.routine do
      if reads then
        Routine.close source
        connect sink 1
      else
        Routine.close sink
        connect source 0
    x.script { last := true } line text
  Run.routine do
    let (kept, other) := if reads then (source, sink) else (sink, source)
    Routine.close other
    match ← Routine.call (.duplicate kept leastChannel false) with
    | Except.ok n =>
      Routine.close kept
      return descriptorPath n
    | Except.error _ => return descriptorPath kept

/-- What expansion needs of a shell. -/
def surroundings (x : Hooks) : Expansion.Surroundings := { substitute := substitute x, channel := channel x }

end Substituting

end OrderlyExit.Shell
