import OrderlyExit.Host.Call
import OrderlyExit.Shell.Command
import OrderlyExit.Text.Decimal
import OrderlyExit.Text.LetterCase

/-!
The state of a shell, and what it means to do something in it.

Something done in a shell may jump: out of loops, out of a function, to the end of the shell. A shell is a
program like any other, so all it does to the world is to make calls.
-/

namespace OrderlyExit.Shell

open Host (Routine Program Environment)

/-- The value of a parameter. -/
inductive Value
  | text (t : ByteText)
  /-- Elements by number, in ascending order. -/
  | list (items : List (Nat × ByteText))
  /-- Elements by name. -/
  | table (items : List (ByteText × ByteText))
  deriving DecidableEq, Repr

/-- The place of a name among the elements of a table: tables are listed in the order of these numbers. -/
def keyPlace (key : ByteText) : Nat :=
  let digit (c : Char) : UInt32 := UInt32.ofNat (if c.toNat < 128 then c.toNat else c.toNat + 0xFFFFFF00)
  (key.foldl (fun (h : UInt32) c => (h * 16777619) ^^^ digit c) 2166136261).toNat % 1024

/-- A table with an element. -/
def withElement (items : List (ByteText × ByteText)) (key text : ByteText) : List (ByteText × ByteText) :=
  if (items.lookup key).isSome then items.map fun (k, t) => (k, if k = key then text else t)
  else
    let before := items.takeWhile fun (k, _) => keyPlace k < keyPlace key
    before ++ (key, text) :: items.drop before.length

/-- How the letters of values are written. -/
inductive Lettering
  | small
  | capital
  deriving DecidableEq, Repr

def Lettering.apply : Lettering → ByteText → ByteText
  | .small => LetterCase.recase LetterCase.small
  | .capital => LetterCase.recase LetterCase.capital

/-- A value with each text changed. -/
def Value.map (f : ByteText → ByteText) : Value → Value
  | .text t => .text (f t)
  | .list items => .list (items.map fun (n, t) => (n, f t))
  | .table items => .table (items.map fun (k, t) => (k, f t))

structure Binding where
  value : Option Value := none
  /-- Programs that the shell runs find it in their environment. -/
  exported : Bool := false
  /-- It must not change. -/
  frozen : Bool := false
  /-- Values are taken as expressions. -/
  numeric : Bool := false
  lettering : Option Lettering := none
  /-- It stands for the parameter that its value names. -/
  refers : Bool := false
  deriving DecidableEq, Repr, Inhabited

/-- Processes that were started together. -/
structure Job where
  /-- The processes with their statuses, as far as they have ended; the last counts. -/
  processes : List (Nat × Option WaitStatus)
  /-- Somebody has asked for the status. -/
  noticed : Bool := false
  deriving Repr

namespace Job

def contains (j : Job) (pid : Nat) : Bool := j.processes.any (·.1 = pid)

def isDone (j : Job) : Bool := j.processes.all (·.2.isSome)

/-- The process that counts. -/
def leader? (j : Job) : Option Nat := j.processes.getLast?.map (·.1)

/-- The job after the end of a process. -/
def note (j : Job) (pid : Nat) (status : WaitStatus) : Job :=
  { j with processes := j.processes.map fun (p, s) => (p, if p = pid then some status else s) }

end Job

/-- The status that stands for the end of a process. -/
def statusOf (w : WaitStatus) : Nat :=
  match w.outcome with
  | .exited code => code.toNat
  | .signaled n => 128 + n.toNat

/-- What comes back at the end of a function. -/
structure Frame where
  bindings : List (ByteText × Option Binding) := []
  /-- The options with a letter, and those without. -/
  options : Option (List Char × List ByteText) := none

structure State where
  dialect : Dialect
  /-- What it is called, in complaints and as the parameter zero. -/
  name : ByteText
  args : List ByteText := []
  status : Nat := 0
  bindings : List (ByteText × Binding) := []
  functions : List (ByteText × Command) := []
  aliases : List (ByteText × ByteText) := []
  /-- The process id that it shows as its own. -/
  shownPid : Nat
  /-- The process of the last command in the background. -/
  background : Option Nat := none
  jobs : List Job := []
  /-- The actions of signals by number; zero stands for the end. -/
  actions : List (Nat × ByteText) := []
  /-- Signals that were ignored when it began, and stay so. -/
  inherited : List Nat := []
  /-- Signals that have arrived and whose actions have not run yet. -/
  arrived : List Nat := []
  /-- The occasions whose actions are running. -/
  attending : List Nat := []
  /-- The status from before the action that is running. -/
  before : Option Nat := none
  /-- It is no copy of another shell. -/
  outermost : Bool := true
  /-- The letters of the options that are set. -/
  options : List Char := []
  /-- Options without a letter that are set. -/
  longOptions : List ByteText := []
  line : Nat := 1
  /-- The line up to which the script has been read. -/
  reached : Nat := 1
  /-- The command whose complaints name it. -/
  command : Option ByteText := none
  /-- What comes back at the end of each function that is running. -/
  saved : List Frame := []
  /-- How many loops are running. -/
  loops : Nat := 0
  /-- The status of the last substitution of a command, if there was one. -/
  substituted : Option Nat := none
  /-- The statuses of the last pipeline. -/
  pipeline : List Nat := []
  /-- How many texts are running inside each other. -/
  level : Nat := 1
  /-- Files that are being read as part of the script. -/
  sourced : Nat := 0
  /-- The functions that are running, the innermost first. -/
  running : List ByteText := []
  /-- It was started with a script of one text. -/
  fromText : Bool := false
  /-- The place in the option letters where the reader of options goes on, inside an argument. -/
  optionPlace : Nat := 0
  /-- The permissions that new files do not get. -/
  mask : Nat := 0o022
  /-- The soft and the hard limits that have been set, by the letters of the resources. -/
  limits : List (Char × Option Nat × Option Nat) := []
  /-- The directory that it is in, as it has come there. -/
  directory : ByteText := ['/']
  /-- Programs that it has found along the search path: name, path, and how often they have run. -/
  remembered : List (ByteText × ByteText × Nat) := []
  /-- How often it has taken a number at random. -/
  draws : Nat := 0

/-- A jump away from where the shell is. -/
inductive Jump
  /-- Out of so many loops. -/
  | breakOut (levels : Nat)
  /-- To the next round of a loop, so many levels out. -/
  | nextRound (levels : Nat)
  /-- Out of a function or a file. -/
  | comeBack (status : Nat)
  /-- To the end of the shell. -/
  | quit (status : Nat)
  /-- Away from something that went wrong, with a status. -/
  | fail (status : Nat)
  deriving DecidableEq, Repr

/-- What is done in a shell. -/
abbrev Run := ExceptT Jump (StateT State Routine)

/-! ### Bindings -/

namespace State

/-- What is bound to a name itself. -/
def ownBinding? (s : State) (name : ByteText) : Option Binding := s.bindings.lookup name

/-- How many names may stand for each other in a row. -/
def maxReferences : Nat := 8

/-- The name of the parameter that a name stands for. Each call has less fuel than its caller. -/
def resolveWith (fuel : Nat) (s : State) (name : ByteText) : ByteText :=
  match fuel, s.ownBinding? name with
  | fuel + 1, some { value := some (.text target), refers := true, .. } => resolveWith fuel s target
  | _, _ => name

def resolve (s : State) (name : ByteText) : ByteText := s.resolveWith maxReferences name

/-- What is bound to the parameter that a name stands for. -/
def binding? (s : State) (name : ByteText) : Option Binding := s.ownBinding? (s.resolve name)

/-- The state after a change of a parameter: with another search path, programs are looked for anew. -/
def afterChange (s : State) (name : ByteText) : State :=
  if name = "PATH".toList then { s with remembered := [] } else s

/-- The state with a binding. -/
def bind (s : State) (name : ByteText) (b : Binding) : State :=
  { s with bindings := (name, b) :: s.bindings.filter (·.1 ≠ name) }.afterChange name

def unbind (s : State) (name : ByteText) : State :=
  { s with bindings := s.bindings.filter (·.1 ≠ name) }.afterChange name

def hasOption (s : State) (c : Char) : Bool := s.options.contains c

def hasLongOption (s : State) (name : String) : Bool := s.longOptions.contains name.toList

def isExtended (s : State) : Bool := s.dialect = .extended

/-- The text that a value is when one text is wanted. -/
def textOf : Value → Option ByteText
  | .text t => some t
  | .list items => items.lookup 0
  | .table items => items.lookup ['0']

/-- The text of a parameter with an ordinary name. -/
def text? (s : State) (name : ByteText) : Option ByteText := (s.binding? name).bind fun b => b.value.bind textOf

def textOrNone (s : State) (name : String) : ByteText := (s.text? name.toList).getD []

/-- The place of a name among others: the plain form lists exported parameters, and programs that it has found, in
the order of such numbers. -/
def namePlace (size : Nat) (name : ByteText) : Nat :=
  ((name.foldl (fun n c => n + c.toNat) (16 * (name.head?.getD '\x00').toNat)) &&& 0x7FFF) % size

/-- How many places there are for parameters. -/
def parameterPlaces : Nat := 39

/-- The environment of programs that the shell runs. -/
def environment (s : State) : Environment :=
  let all := s.bindings.reverse.filterMap fun (name, b) =>
    if b.exported then (b.value.bind textOf).map (name, ·) else none
  if s.isExtended then all
  else all.mergeSort fun a b => namePlace parameterPlaces a.1 ≤ namePlace parameterPlaces b.1

/-- The characters at which fields end. -/
def separators (s : State) : List Char := (s.text? "IFS".toList).getD [' ', '\t', '\n']

/-- The line in which a text begins that runs in the middle of a script. -/
def innerLine (s : State) : Nat := if s.isExtended then s.line else 1

/-- Whether something is to be done at a signal or at the end, so that the shell has to stay. -/
def hasActions (s : State) : Bool := s.actions.any (·.2 ≠ [])

/-- What is to be done at a signal, or at the end for zero. -/
def action? (s : State) (n : Nat) : Option ByteText := s.actions.lookup n

/-- The state with something else to be done at a signal, or with nothing. -/
def setAction (s : State) (n : Nat) (action : Option ByteText) : State :=
  let others := s.actions.filter (·.1 ≠ n)
  { s with actions := match action with
      | some a => (n, a) :: others
      | none => others }

/-- Whether something is to be done at a signal or an occasion. -/
def actsAt (s : State) (n : Nat) : Bool := (s.action? n).any (· ≠ [])

end State

/-! ### Complaints -/

/-- The line of a complaint. -/
def State.complaint (s : State) (message : ByteText) : ByteText :=
  let place := if s.isExtended then ": line ".toList ++ Decimal.digits s.line else ": ".toList ++ Decimal.digits s.line
  s.name ++ place ++ ": ".toList ++ (match s.command with
    | some c => c ++ ": ".toList
    | none => []) ++ message ++ ['\n']

namespace Run

def routine (r : Routine α) : Run α := fun s next => r fun a => next (.ok a, s)

def jump (j : Jump) : Run α := throw j

/-- Writes to a descriptor; returns whether that worked. -/
def write (descriptor : Nat) (text : ByteText) : Run Bool := do
  let failure ← routine (Routine.writeAll descriptor text)
  return failure.isNone

/-- Complains, and goes on. -/
def warn (message : ByteText) : Run Unit := do
  let s ← get
  discard <| write 2 (s.complaint message)

/-- Complains, and jumps away. -/
def fail (message : ByteText) (status : Nat) : Run α := do
  warn message
  jump (.fail status)

def setStatus (n : Nat) : Run Unit := modify fun s => { s with status := n }

/-- The status of a shell's own faults. -/
def faultStatus : Run Nat := return if (← get).isExtended then 1 else 2

/-! ### Assigning -/

def frozenMessage (s : State) (name : ByteText) : ByteText :=
  name ++ (if s.isExtended then ": readonly variable" else ": is read only").toList

/-- Gives a parameter a value; one that must not change is a fault. -/
def assignValue (name : ByteText) (value : Value) : Run Unit := do
  let s ← get
  let name := s.resolve name
  let b := (s.ownBinding? name).getD {}
  if b.frozen then fail (frozenMessage s name) (← faultStatus)
  let value := match b.lettering with
    | some l => value.map l.apply
    | none => value
  set (s.bind name { b with value := some value, exported := b.exported || s.hasOption 'a' })

/-- Gives a parameter a text; of a list, its first element changes. -/
def assign (name text : ByteText) : Run Unit := do
  match ((← get).binding? name).bind (·.value) with
  | some (.list items) => assignValue name (.list ((0, text) :: items.filter (·.1 ≠ 0)))
  | some (.table items) => assignValue name (.table (withElement items ['0'] text))
  | _ => assignValue name (.text text)

end Run

end OrderlyExit.Shell
