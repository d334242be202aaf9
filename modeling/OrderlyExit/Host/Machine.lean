import OrderlyExit.Host.Process
import OrderlyExit.Observer.System

/-!
A host: its files, its clock, its processes, and how it answers their calls. A call that cannot be answered
yet is tried again when something else has happened.

The process that an observer starts has no parent on the host and leads a process group. What the
observer sees of it is collected until the observer asks.
-/

namespace OrderlyExit.Host

/-- The programs of a host by name: what each does with its arguments, its own name first. -/
abbrev ProgramTable := ByteText → Option (List ByteText → Environment → Program)

structure Machine where
  programs : ProgramTable
  files : Files
  /-- Nanoseconds since the start of the host. -/
  clock : Nat := 0
  processes : List Process := []
  openFiles : List (Nat × OpenFile) := []
  /-- What has been written to each pipe and not been read yet. -/
  pipes : List (Nat × ByteText) := []
  nextPid : Nat
  nextFile : Nat := 0
  nextPipe : Nat := 0
  /-- What has happened and has not been shown yet. -/
  seen : List Sighting := []
  /-- Some process may still write captured output. -/
  captureOpen : Bool := false

/-- The parent of the process that an observer starts. -/
def observerPid : Nat := 0

/-- The parent of processes whose own parent has ended. -/
def reaperPid : Nat := 1

/-- What happens on a host. -/
abbrev Happening := StateM Machine

namespace Machine

/-! ### Processes -/

def find? (m : Machine) (pid : Nat) : Option Process := m.processes.find? (·.pid = pid)

/-- The machine with one process changed. -/
def update (m : Machine) (pid : Nat) (f : Process → Process) : Machine :=
  { m with processes := m.processes.map fun p => if p.pid = pid then f p else p }

/-- Whether somebody may take note of the end of a process with this parent. -/
def isAwaited (m : Machine) (parent : Nat) : Bool :=
  parent = observerPid || (m.find? parent).any (!·.hasEnded)

/-- Whether some process can reach a channel. -/
def reaches (m : Machine) (c : Channel) : Bool :=
  m.processes.any fun p => p.descriptors.any fun d => (m.openFiles.lookup d.file).any (·.channel = c)

/-- The machine without open files that no descriptor leads to. -/
def collect (m : Machine) : Machine :=
  { m with openFiles := m.openFiles.filter fun (n, _) =>
      m.processes.any fun p => p.descriptors.any (·.file = n) }

/-- The open file of a descriptor, with its number. -/
def opened? (m : Machine) (p : Process) (descriptor : Nat) : Option (Nat × OpenFile) := do
  let n ← p.fileOf? descriptor
  let f ← m.openFiles.lookup n
  some (n, f)

/-- The machine with an open file changed. -/
def setOpenFile (m : Machine) (n : Nat) (f : OpenFile) : Machine :=
  { m with openFiles := (n, f) :: m.openFiles.filter (·.1 ≠ n) }

/-- The machine with the content of a pipe changed. -/
def setPipe (m : Machine) (n : Nat) (content : ByteText) : Machine :=
  { m with pipes := (n, content) :: m.pipes.filter (·.1 ≠ n) }

def pipeContent (m : Machine) (n : Nat) : ByteText := (m.pipes.lookup n).getD []

end Machine

open Machine

def update (pid : Nat) (f : Process → Process) : Happening Unit := modify (·.update pid f)

/-- A process ends. It stays until somebody takes note; its children lose their parent. -/
def finish (pid : Nat) (status : WaitStatus) : Happening Unit := do
  let m ← get
  let some p := m.find? pid | return
  if p.hasEnded then return
  update pid fun p => { p with life := .ended status, descriptors := [], pending := [], stopped := none }
  if p.parent = observerPid then modify fun m => { m with seen := m.seen ++ [.ended status] }
  else if !m.isAwaited p.parent then
    modify fun m => { m with processes := m.processes.filter (·.pid ≠ pid) }
  modify fun m => { m with
    processes := (m.processes.filter fun q => q.parent ≠ pid || !q.hasEnded).map fun q =>
      if q.parent = pid then { q with parent := reaperPid } else q }
  modify Machine.collect

/-- A signal ends a process. -/
def killBy (pid n : Nat) : Happening Unit := finish pid (.ofSignal (UInt32.ofNat n) false)

/-- The output closes when no process can write to it any more. -/
def noticeClosing : Happening Unit :=
  modify fun m =>
    if m.captureOpen && !m.reaches .captured then
      { m with captureOpen := false, seen := m.seen ++ [.closed] }
    else m

/-! ### Signals -/

/-- A signal takes effect on a process. -/
def deliver (pid n : Nat) : Happening Unit := do
  let some p := (← get).find? pid | return
  let some program := p.program? | return
  match p.effect program n with
  | .nothing => return
  | .change q => update pid fun _ => q
  | .ends n => killBy pid n
  | .goesOn held =>
    update pid fun p => { p with stopped := none }
    for h in held do
      let some p := (← get).find? pid | return
      let some program := p.program? | return
      match p.effect program h with
      | .change q => update pid fun _ => q
      | .ends h => killBy pid h
      | _ => pure ()

/-- Sends a signal, zero for none, to a process, or to a group for a negative number. Processes that
have ended and still stand there take it without effect. -/
def sendSignal (target : Int) (n : Nat) : Happening (Option Errno) := do
  let m ← get
  if n > SignalNumber.highest then return some .invalidArgument
  let pids := if target < 0 then (m.processes.filter fun p => (p.group : Int) = -target).map (·.pid)
    else (m.processes.filter fun p => (p.pid : Int) = target).map (·.pid)
  if pids.isEmpty then return some .noProcess
  if n ≠ 0 then
    for pid in pids do deliver pid n
  return none

/-! ### Reading and writing -/

/-- How much a pipe holds. -/
def pipeCapacity : Nat := 65536

/-- Up to this length a text goes into a pipe at once or not at all. -/
def wholeWrite : Nat := 4096

/-- What stands in for random bytes. -/
def randomBytes (count : Nat) : ByteText := (List.range count).map fun i => Char.ofNat ((i * 167 + 89) % 256)

/-- What a device yields when it is read. -/
def deviceBytes (d : Device) (count : Nat) : ByteText :=
  match d with
  | .zero | .full => List.replicate count '\x00'
  | .random => randomBytes count
  | .null | .terminal | .descriptor _ => []

/-- Reads from a descriptor; nothing if the process has to wait. -/
def readFrom (p : Process) (descriptor count : Nat) : Happening (Option (Except Errno ByteText)) := do
  let m ← get
  match m.opened? p descriptor with
  | none => return some (.error .badDescriptor)
  | some (n, f) =>
    if !f.mode.reads then return some (.error .badDescriptor)
    match f.channel with
    | .captured | .hidden | .pipeSink _ => return some (.error .badDescriptor)
    | .device d => return some (.ok (deviceBytes d count))
    | .pipeSource k =>
      match m.pipeContent k with
      | [] =>
        if !m.reaches (.pipeSink k) then return some (.ok [])
        else if p.arrivals ≠ [] then return some (.error .interrupted)
        else return none
      | content =>
        set (m.setPipe k (content.drop count))
        return some (.ok (content.take count))
    | .file place =>
      match m.files.at? place with
      | some .directory => return some (.error .isADirectory)
      | some (.file content _) =>
        let text := (content.drop f.offset).take count
        set (m.setOpenFile n { f with offset := f.offset + text.length })
        return some (.ok text)
      | _ => return some (.ok [])

/-- A text with another one written over it from a place on. -/
def overwrite (content : ByteText) (offset : Nat) (text : ByteText) : ByteText :=
  content.take offset ++ List.replicate (offset - content.length) '\x00' ++ text ++ content.drop (offset + text.length)

/-- Writes to a descriptor; nothing if the process has to wait. -/
def writeTo (p : Process) (descriptor : Nat) (text : ByteText) : Happening (Option (Except Errno Nat)) := do
  let m ← get
  match m.opened? p descriptor with
  | none => return some (.error .badDescriptor)
  | some (n, f) =>
    if !f.mode.writes then return some (.error .badDescriptor)
    if text = [] then return some (.ok 0)
    match f.channel with
    | .captured =>
      set { m with seen := m.seen ++ [Sighting.output (ByteText.toBytes text)] }
      return some (.ok text.length)
    | .hidden => return some (.ok text.length)
    | .device .full => return some (.error .noSpace)
    | .device _ => return some (.ok text.length)
    | .pipeSource _ => return some (.error .badDescriptor)
    | .pipeSink k =>
      if !m.reaches (.pipeSource k) then
        deliver p.pid SignalNumber.pipe
        return some (.error .brokenPipe)
      let room := pipeCapacity - (m.pipeContent k).length
      if room = 0 ∨ (text.length ≤ wholeWrite ∧ room < text.length) then
        return if p.arrivals ≠ [] then some (.error .interrupted) else none
      set (m.setPipe k (m.pipeContent k ++ text.take room))
      return some (.ok (min room text.length))
    | .file place =>
      let (content, permissions) := match m.files.at? place with
        | some (.file content permissions) => (content, permissions)
        | _ => ([], 0o644)
      let offset := if f.mode.appends then content.length else f.offset
      let m := { m with files := m.files.put place (.file (overwrite content offset text) permissions) }
      set (m.setOpenFile n { f with offset := offset + text.length })
      return some (.ok text.length)

/-- Whether reading from a descriptor would not wait. -/
def Machine.canRead (m : Machine) (p : Process) (descriptor : Nat) : Bool :=
  match m.opened? p descriptor with
  | some (_, { channel := .pipeSource k, .. }) => m.pipeContent k ≠ [] || !m.reaches (.pipeSink k)
  | _ => true

/-! ### Opening -/

/-- A process gets a descriptor for an open file. -/
def addDescriptor (p : Process) (least : Nat) (file : Nat) (closesAtExecute : Bool) : Happening Nat := do
  let number := p.freeDescriptor least
  update p.pid (·.setDescriptor { number, file, closesAtExecute })
  return number

/-- A file is opened. -/
def addOpenFile (f : OpenFile) : Happening Nat := do
  let m ← get
  set { m with nextFile := m.nextFile + 1, openFiles := (m.nextFile, f) :: m.openFiles }
  return m.nextFile

/-- Where a descriptor leads when it is opened by its path. -/
def reopened (c : Channel) (mode : OpenMode) : Channel :=
  match c with
  | .pipeSource k | .pipeSink k => if mode.writes then .pipeSink k else .pipeSource k
  | c => c

/-- Opens the file at a path. -/
def openPath (p : Process) (path : ByteText) (mode : OpenMode) : Happening (Except Errno Nat) := do
  let m ← get
  let add (c : Channel) : Happening (Except Errno Nat) := do
    return .ok (← addDescriptor p 0 (← addOpenFile { channel := c, mode }) false)
  match m.files.locate p.directory path with
  | .error e => return .error e
  | .ok (place, none) =>
    if !mode.creates then return .error .noEntry
    if path.getLast? = some '/' then return .error .isADirectory
    set { m with files := m.files.put place (.file [] 0o644) }
    add (.file place)
  | .ok (place, some entry) =>
    if mode.creates && mode.exclusive then return .error .fileExists
    match entry with
    | .directory => if mode.writes then return .error .isADirectory else add (.file place)
    | .device .terminal => return .error .noDevice
    | .device (.descriptor n) =>
      match m.opened? p n with
      | some (_, f) => add (reopened f.channel mode)
      | none => return .error .noEntry
    | .device d => add (.device d)
    | .file _ permissions =>
      if mode.truncates then set { m with files := m.files.put place (.file [] permissions) }
      add (.file place)
    | .program _ => add (.file place)

/-- The facts of what stands at a place. -/
def entryFacts (entry : Entry) : FileFacts :=
  match entry with
  | .directory => { kind := .directory, size := 4096, permissions := 0o755 }
  | .file content permissions => { kind := .regular, size := content.length, permissions }
  | .program _ => { kind := .regular, size := 65536, permissions := 0o755 }
  | .device _ => { kind := .device, permissions := 0o666 }

/-- The facts of an open file. -/
def Machine.openFacts (m : Machine) (f : OpenFile) : FileFacts :=
  match f.channel with
  | .captured | .pipeSource _ | .pipeSink _ | .hidden => { kind := .pipe, permissions := 0o600 }
  | .device d => entryFacts (.device d)
  | .file place => entryFacts ((m.files.at? place).getD (.file [] 0o644))

/-- The facts of the file at a path. -/
def Machine.factsAt (m : Machine) (p : Process) (path : ByteText) : Except Errno FileFacts := do
  match ← m.files.entryAt p.directory path with
  | .device (.descriptor n) =>
    match m.opened? p n with
    | some (_, f) => .ok (m.openFacts f)
    | none => .error .noEntry
  | entry => .ok (entryFacts entry)

/-! ### Changing files -/

/-- Changes files at the place of a path, if a function of what stands there allows it. -/
def changeAt (p : Process) (path : ByteText) (change : Files → Place → Option Entry → Except Errno Files) :
    Happening (Option Errno) := do
  let m ← get
  match m.files.locate p.directory path with
  | .error e => return some e
  | .ok (place, entry) =>
    match change m.files place entry with
    | .error e => return some e
    | .ok files =>
      set { m with files }
      return none

def removeFile (files : Files) (place : Place) (entry : Option Entry) : Except Errno Files :=
  match entry with
  | none => .error .noEntry
  | some .directory => .error .isADirectory
  | some _ => .ok (files.erase place)

def removeDirectory (files : Files) (place : Place) (entry : Option Entry) : Except Errno Files :=
  match entry with
  | none => .error .noEntry
  | some .directory => if files.children place = [] then .ok (files.erase place) else .error .notEmpty
  | some _ => .error .notADirectory

def makeDirectory (files : Files) (place : Place) (entry : Option Entry) : Except Errno Files :=
  match entry with
  | none => .ok (files.put place .directory)
  | some _ => .error .fileExists

def setPermissions (permissions : Nat) (files : Files) (place : Place) (entry : Option Entry) : Except Errno Files :=
  match entry with
  | none => .error .noEntry
  | some (.file content _) => .ok (files.put place (.file content permissions))
  | some _ => .ok files

/-- What stands at a place, with all below it, moves to another one. -/
def move (files : Files) (source target : Place) : Files :=
  let kept := files.entries.filter fun (place, _) => place ≠ target
  ⟨kept.map fun (place, entry) => (if source.isPrefixOf place then target ++ place.drop source.length else place, entry)⟩

def renamePath (p : Process) (source target : ByteText) : Happening (Option Errno) := do
  let m ← get
  match m.files.locate p.directory source, m.files.locate p.directory target with
  | .error e, _ | _, .error e => return some e
  | .ok (_, none), _ => return some .noEntry
  | .ok (_, some entry), .ok (place, there) =>
    match m.files.locate p.directory source, entry, there with
    | .ok (origin, _), entry, there =>
      if there = some .directory ∧ entry ≠ .directory then return some .isADirectory
      if entry = .directory ∧ there.any (· ≠ .directory) then return some .notADirectory
      if origin ≠ place then set { m with files := move m.files origin place }
      return none
    | _, _, _ => return some .noEntry

/-! ### Waiting -/

/-- Waits for a child; nothing if the process has to go on waiting. -/
def waitFor (p : Process) (mode : WaitMode) : Happening (Option Waited) := do
  let m ← get
  let children := m.processes.filter (·.parent = p.pid)
  match children.findSome? fun c => c.status?.map (c.pid, ·) with
  | some (pid, status) =>
    set { m with processes := m.processes.filter (·.pid ≠ pid) }
    if mode.forgetsInterrupt && status.outcome ≠ .signaled SignalNumber.interrupt &&
        !p.caught.contains SignalNumber.interrupt then
      update p.pid fun p => { p with pending := p.pending.filter (· ≠ SignalNumber.interrupt) }
    return some (.ended pid status)
  | none =>
    if children.isEmpty then return some .noChildren
    else if mode.interruptible && p.arrivals ≠ [] then return some .interrupted
    else if mode.deadline.any (· ≤ m.clock) then return some .nothing
    else return none

/-! ### All calls -/

/-- Answers a call of a process; nothing if the process has to wait. -/
def answer (p : Process) : (c : Call) → Happening (Option c.Reply)
  | .read descriptor count => readFrom p descriptor count
  | .awaitInput descriptor deadline => do
    let m ← get
    if m.canRead p descriptor then return some true
    else if p.arrivals ≠ [] ∨ deadline ≤ m.clock then return some false
    else return none
  | .write descriptor text => writeTo p descriptor text
  | .openFile path mode => some <$> openPath p path mode
  | .close descriptor => do
    update p.pid (·.dropDescriptor descriptor)
    modify Machine.collect
    return some ()
  | .duplicate descriptor least closesAtExecute =>
    match p.fileOf? descriptor with
    | none => return some (Except.error Errno.badDescriptor)
    | some file => return some (Except.ok (← addDescriptor p least file closesAtExecute))
  | .duplicateTo descriptor target =>
    match p.fileOf? descriptor with
    | none => return some (some Errno.badDescriptor)
    | some file => do
      if descriptor ≠ target then
        update p.pid (·.setDescriptor { number := target, file })
        modify Machine.collect
      return some none
  | .pipe => do
    let m ← get
    let k := m.nextPipe
    let inUse := m.pipes.filter fun (n, _) => m.reaches (.pipeSource n) || m.reaches (.pipeSink n)
    set { m with nextPipe := k + 1, pipes := (k, []) :: inUse }
    let source ← addDescriptor p 0 (← addOpenFile { channel := .pipeSource k, mode := { reads := true } }) false
    let p := ((← get).find? p.pid).getD p
    let sink ← addDescriptor p 0 (← addOpenFile { channel := .pipeSink k, mode := { writes := true } }) false
    return some (source, sink)
  | .facts path => return some ((← get).factsAt p path)
  | .descriptorFacts descriptor => do
    let m ← get
    return some (match m.opened? p descriptor with
      | some (_, f) => Except.ok (m.openFacts f)
      | none => Except.error Errno.badDescriptor)
  | .list path => do
    let m ← get
    return some (match m.files.locate p.directory path with
      | .ok (place, some .directory) => Except.ok (m.files.children place)
      | .ok (_, some _) => Except.error Errno.notADirectory
      | .ok (_, none) => Except.error Errno.noEntry
      | .error e => Except.error e)
  | .removeFile path => some <$> changeAt p path removeFile
  | .removeDirectory path => some <$> changeAt p path removeDirectory
  | .makeDirectory path => some <$> changeAt p path makeDirectory
  | .rename source target => some <$> renamePath p source target
  | .setPermissions path permissions => some <$> changeAt p path (setPermissions permissions)
  | .changeDirectory path => do
    match (← get).files.locate p.directory path with
    | .ok (place, some .directory) =>
      update p.pid fun p => { p with directory := place }
      return some none
    | .ok (_, some _) => return some (some Errno.notADirectory)
    | .ok (_, none) => return some (some Errno.noEntry)
    | .error e => return some (some e)
  | .directory => return some (Files.pathOf p.directory)
  | .wait mode => waitFor p mode
  | .sendSignal target n => some <$> sendSignal (if target = 0 then -(p.group : Int) else target) n
  | .setSignal n d => do
    update p.pid fun p =>
      let p := { p with ignored := p.ignored.filter (· ≠ n), caught := p.caught.filter (· ≠ n) }
      match d with
      | .byDefault => { p with pending := p.pending.filter (· ≠ n) }
      | .ignored => { p with ignored := n :: p.ignored, pending := p.pending.filter (· ≠ n) }
      | .caught => { p with caught := n :: p.caught }
    return some ()
  | .signals => do
    update p.pid fun p => { p with pending := p.pending.filter fun n => !p.caught.contains n }
    return some p.arrivals
  | .ignoredSignals => return some p.ignored
  | .pause wake => do
    if p.arrivals ≠ [] then return some true
    else if wake.any (· ≤ (← get).clock) then return some false
    else return none
  | .now => return some (← get).clock
  | .identity => return some { pid := p.pid, parent := p.parent, group := p.group }
  | .leadGroup => do
    update p.pid fun q => { q with group := q.pid }
    return some ()

/-! ### Programs -/

/-- A process turns into the program at a path, if it can. What paid attention to signals is gone; what
was ignored stays so. -/
def execute (p : Process) (path : ByteText) (args : List ByteText) (environment : Environment) :
    Happening (Option Errno) := do
  let m ← get
  match m.files.executableAt p.directory path with
  | .error e => return some e
  | .ok e =>
    match m.programs e.program with
    | none => return some .accessDenied
    | some program =>
      let own := if e.args = [] then args else e.program :: e.args ++ args.drop 1
      update p.pid fun p => { p with
        caught := []
        pending := []
        descriptors := p.descriptors.filter (!·.closesAtExecute)
        life := .running (program own environment) }
      modify Machine.collect
      return none

/-- A process is running a program now, unless it has ended meanwhile. -/
def goOn (pid : Nat) (program : Program) : Happening Unit :=
  update pid fun p => if p.hasEnded then p else { p with life := .running program }

/-- An interrupt that was put off ends a process which puts it off no longer. -/
def releaseInterrupt (pid : Nat) : Happening Unit := do
  let some p := (← get).find? pid | return
  let some program := p.program? | return
  if p.pending.contains SignalNumber.interrupt && !p.caught.contains SignalNumber.interrupt &&
      !program.holdsInterrupt then
    killBy pid SignalNumber.interrupt

/-- One step of a process; returns whether it could take one. -/
def step (p : Process) : Happening Bool := do
  if p.stopped.isSome then return false
  match p.program? with
  | none => return false
  | some (.exit code) =>
    finish p.pid (.ofExit (UInt8.ofNat code))
    return true
  | some (.fork child next) => do
    let m ← get
    let pid := m.nextPid
    set { m with
      nextPid := pid + 1
      processes := m.processes ++ [{ p with pid, parent := p.pid, pending := [], life := .running child }] }
    goOn p.pid (next pid)
    return true
  | some (.execute path args environment refused) => do
    if let some e := ← execute p path args environment then goOn p.pid (refused e)
    return true
  | some (.call c next) =>
    match ← answer p c with
    | none => return false
    | some reply => do
      goOn p.pid (next reply)
      releaseInterrupt p.pid
      return true

/-- When a process that waits goes on by itself, if it does. -/
def Process.wake? (p : Process) : Option Nat :=
  match p.stopped, p.life with
  | none, .running (.call (.pause wake) _) => wake
  | none, .running (.call (.wait mode) _) => mode.deadline
  | none, .running (.call (.awaitInput _ deadline) _) => some deadline
  | _, _ => none

end OrderlyExit.Host
