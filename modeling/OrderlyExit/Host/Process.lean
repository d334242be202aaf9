import OrderlyExit.Host.Call
import OrderlyExit.Host.Files
import OrderlyExit.Signal

/-!
The processes of a host: what each one still has to do, where its descriptors lead, and how it takes
signals.
-/

namespace OrderlyExit.Host

/-- Where an open file leads. -/
inductive Channel
  /-- The output that is observed. -/
  | captured
  /-- Somewhere that nobody looks. -/
  | hidden
  | device (d : Device)
  /-- The end of a pipe to read from. -/
  | pipeSource (pipe : Nat)
  /-- The end of a pipe to write to. -/
  | pipeSink (pipe : Nat)
  | file (place : Place)
  deriving DecidableEq, Repr

/-- An open file. Descriptors that were made from each other share it, with its offset. -/
structure OpenFile where
  channel : Channel
  mode : OpenMode
  offset : Nat := 0
  deriving Repr

/-- A descriptor of a process. -/
structure Descriptor where
  number : Nat
  /-- The number of the open file on the host. -/
  file : Nat
  closesAtExecute : Bool := false
  deriving DecidableEq, Repr

inductive Life
  | running (p : Program)
  | ended (status : WaitStatus)

structure Process where
  pid : Nat
  parent : Nat
  group : Nat
  descriptors : List Descriptor := []
  directory : Place
  /-- The signals it ignores. -/
  ignored : List Nat := []
  /-- The signals it looks after itself. -/
  caught : List Nat := []
  /-- Signals that have arrived and wait for its attention. -/
  pending : List Nat := []
  /-- It is stopped, with the signals that arrived meanwhile. -/
  stopped : Option (List Nat) := none
  life : Life

namespace Process

/-- What is left to do for a process that has not ended. -/
def program? (p : Process) : Option Program :=
  match p.life with
  | .running program => some program
  | .ended _ => none

def status? (p : Process) : Option WaitStatus :=
  match p.life with
  | .ended status => some status
  | .running _ => none

def hasEnded (p : Process) : Bool := p.status?.isSome

/-- The open file that a descriptor leads to. -/
def fileOf? (p : Process) (n : Nat) : Option Nat := (p.descriptors.find? (·.number = n)).map (·.file)

/-- The lowest number of a descriptor, from `least` on, that is not in use. -/
def freeDescriptor (p : Process) (least : Nat) : Nat :=
  ((List.range (p.descriptors.length + 1)).map (· + least)).find? (fun n => (p.fileOf? n).isNone) |>.getD least

/-- The process with a descriptor, in place of another of that number. -/
def setDescriptor (p : Process) (d : Descriptor) : Process :=
  { p with descriptors := d :: p.descriptors.filter (·.number ≠ d.number) }

def dropDescriptor (p : Process) (n : Nat) : Process :=
  { p with descriptors := p.descriptors.filter (·.number ≠ n) }

/-- The caught signals that have arrived. -/
def arrivals (p : Process) : List Nat := p.pending.filter (p.caught.contains ·)

end Process

/-! ### Signals -/

/-- Whether a program puts interrupts off for now. -/
def Program.holdsInterrupt : Program → Bool
  | .call (.wait mode) _ => mode.holdsInterrupt
  | _ => false

/-- What a signal does to a process. -/
inductive Effect
  | nothing
  | change (p : Process)
  /-- It goes on, and the signals that arrived meanwhile take effect. -/
  | goesOn (held : List Nat)
  | ends (n : Nat)

/-- A process for which a signal has arrived. -/
def Process.receive (p : Process) (n : Nat) : Process :=
  { p with pending := if p.pending.contains n then p.pending else p.pending ++ [n] }

/-- What signal `n` does to a process that has not ended. -/
def Process.effect (p : Process) (program : Program) (n : Nat) : Effect :=
  if n = SignalNumber.kill then .ends n
  else
    match p.stopped with
    | some held =>
      if n = SignalNumber.resume then .goesOn held
      else if SignalNumber.stops n then .nothing
      else .change { p with stopped := some (held ++ [n]) }
    | none =>
      if n = SignalNumber.stop then .change { p with stopped := some [] }
      else if p.ignored.contains n then .nothing
      else if p.caught.contains n then .change (p.receive n)
      else if n = SignalNumber.interrupt && program.holdsInterrupt then .change (p.receive n)
      else if SignalNumber.harmless n then .nothing
      else if SignalNumber.stops n then .change { p with stopped := some [] }
      else .ends n

end OrderlyExit.Host
