import OrderlyExit.Host.Machine

/-!
A host at work: within one moment its processes step until none can go on, and then the clock jumps to
the next moment at which one can. With this a host is a system that can be observed.
-/

namespace OrderlyExit.Host

namespace Machine

/-- How many steps one moment has at most; a host that takes more has lost itself in it. -/
def momentSteps : Nat := 1000000

/-- The first of these processes that can takes a step; the state after it, if there is one. -/
def stepFirst? (m : Machine) : List Process → Option Machine
  | [] => none
  | p :: rest =>
    match (step p).run m with
    | (true, next) => some next
    | (false, _) => stepFirst? m rest

/-- Steps until no process can go on, at most `fuel` times. -/
def settleWith (fuel : Nat) (m : Machine) : Machine :=
  match fuel with
  | 0 => m
  | fuel + 1 =>
    match m.stepFirst? m.processes with
    | none => m
    | some next => settleWith fuel next

/-- The host at the end of its present moment. -/
def settle (m : Machine) : Machine := (noticeClosing.run (m.settleWith momentSteps)).2

/-- What has happened since it was last asked for. -/
def takeSeen (m : Machine) : List Sighting × Machine := (m.seen, { m with seen := [] })

/-- The next moment at which a process goes on by itself. -/
def next? (m : Machine) : Option Nat := ((m.processes.filterMap Process.wake?).filter (m.clock < ·)).min?

/-- The host at the end of the moment `time`. -/
def atMoment (m : Machine) (time : Nat) : Machine := { m with clock := time }.settle

/-- Lets time pass up to a limit, or until something is seen. -/
def runUntil (limit : Nat) (m : Machine) : Machine :=
  match m.next? with
  | none => { m with clock := max m.clock limit }
  | some time =>
    if m.clock < time ∧ time ≤ limit then
      if (m.atMoment time).seen.isEmpty ∧ m.clock < (m.atMoment time).clock then runUntil limit (m.atMoment time)
      else m.atMoment time
    else { m with clock := max m.clock limit }
termination_by limit - m.clock
decreasing_by omega

/-- The environment of a program that an observer starts. -/
def environment : Environment :=
  [("HOME".toList, "/root".toList), ("PATH".toList, "/usr/local/sbin:/usr/local/bin:/usr/sbin:/usr/bin:/sbin:/bin".toList),
   ("PWD".toList, "/work".toList)]

/-- The directory of a program that an observer starts. -/
def home : Place := ["work".toList]

/-- What the descriptors of a program lead to that an observer starts: no input, captured output, and errors
that nobody reads. -/
def observedChannels : List (Nat × Channel × OpenMode) :=
  [(0, .device .null, { reads := true }), (1, .captured, { writes := true }), (2, .hidden, { writes := true })]

/-- Starts a program that an observer asks for. -/
def spawn (m : Machine) (i : Invocation) : Except IoError Started × Machine :=
  let program := ByteText.ofBytes i.program
  let args := i.args.map ByteText.ofBytes
  if i.spoiled then (.error .zeroByte, m)
  else
    match m.files.executable home program with
    | .error e => (.error (.ofErrno e), m)
    | .ok e =>
      match m.programs e.program with
      | none => (.error (.ofErrno .accessDenied), m)
      | some start =>
        let pid := m.nextPid
        let own := if e.args = [] then program :: args else e.program :: e.args ++ args
        let process : Process :=
          { pid, parent := observerPid, group := pid, directory := home
            descriptors := observedChannels.map fun (n, _) => { number := n, file := m.nextFile + n }
            life := .running (start own environment) }
        let m := { m with
          nextPid := pid + 1
          nextFile := m.nextFile + observedChannels.length
          processes := m.processes ++ [process]
          openFiles := m.openFiles ++ observedChannels.map fun (n, channel, mode) =>
            (m.nextFile + n, ({ channel, mode } : OpenFile))
          captureOpen := true }
        let (seen, m) := m.settle.takeSeen
        (.ok { pid := some (UInt32.ofNat pid), seen := seen }, m)

/-- Lets time pass for an observer. -/
def advance (m : Machine) (_now limit : Instant) : Option (Instant × List Sighting) × Machine :=
  let m := m.runUntil limit.nanos.toNat
  match m.takeSeen with
  | ([], m) => (none, m)
  | (seen, m) => (some (⟨m.clock⟩, seen), m)

/-- Sends an observer's signal. -/
def send (m : Machine) (target : SignalTarget) (n : Nat) : Option Errno × List Sighting × Machine :=
  let number : Int := match target with
    | .process pid => pid.toNat
    | .group pid => -(pid.toNat : Int)
  let (failure, m) := (sendSignal number n).run m
  let (seen, m) := m.settle.takeSeen
  (failure, seen, m)

/-- Forgets the observer's child once it has ended. -/
def reap (m : Machine) (pid : UInt32) : Machine :=
  { m with processes := m.processes.filter fun p => p.pid ≠ pid.toNat || !p.hasEnded }

end Machine

/-- A host as an observer deals with it. -/
def system : System Machine where
  spawn := Machine.spawn
  advance := Machine.advance
  send := Machine.send
  reap := Machine.reap

end OrderlyExit.Host
