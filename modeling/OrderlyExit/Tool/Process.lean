import OrderlyExit.Shell.SignalName
import OrderlyExit.Text.Floating
import OrderlyExit.Tool.Printing

/-!
Programs that wait, send signals, or run other programs in changed surroundings.
-/

namespace OrderlyExit.Tool

open Host (Routine Environment)

/-! ### Becoming another program -/

/-- Turns into the program at a path. A text that no program reads is a script. -/
def becomeAt (path : ByteText) (args : List ByteText) (environment : Environment) : Routine Errno := do
  let e ← Routine.execute path args environment
  if e = .notExecutable then
    Routine.execute "/bin/sh".toList ("/bin/sh".toList :: path :: args.drop 1) environment
  else return e

/-- Turns into the program of a name in the first of these directories that has one. -/
def becomeIn (name : ByteText) (args : List ByteText) (environment : Environment) (refusal : Errno) :
    List ByteText → Routine Errno
  | [] => pure refusal
  | dir :: rest => do
    let e ← becomeAt (if dir = [] then name else dir ++ '/' :: name) args environment
    if e = .noEntry ∨ e = .notADirectory then becomeIn name args environment refusal rest
    else if e = .accessDenied then becomeIn name args environment e rest
    else return e

/-- Where programs are looked for without a path in the environment. -/
def defaultPath : ByteText := "/bin:/usr/bin".toList

/-- Turns into the program of a name; comes back only with the reason why that cannot be. -/
def become (args : List ByteText) (environment : Environment) : Routine Errno :=
  let name := args.headD []
  if name.contains '/' then becomeAt name args environment
  else if name = [] then pure .noEntry
  else becomeIn name args environment .noEntry (((environment.lookup "PATH".toList).getD defaultPath).splitOn ':')

/-- The exit code of a program that could not run another one. -/
def refusalCode (e : Errno) : Nat := if e = .noEntry then 127 else 126

/-- Turns into another program, or says that it cannot be run. -/
def becomeOr (name : ByteText) (lead : String) (args : List ByteText) (environment : Environment) : Routine Nat := do
  let e ← become args environment
  complainOf name (lead.toList ++ quoted (args.headD [])) e
  return refusalCode e

/-! ### Waiting -/

/-- A span of time in nanoseconds. -/
inductive Span
  | finite (nanos : Nat)
  | endless
  deriving DecidableEq, Repr

def Span.add : Span → Span → Span
  | .finite a, .finite b => .finite (a + b)
  | _, _ => .endless

/-- When a span that begins at a time is over. -/
def Span.after (s : Span) (now : Nat) : Option Nat :=
  match s with
  | .finite n => some (now + n)
  | .endless => none

/-- How many seconds a unit has. -/
def unitSeconds? (unit : ByteText) : Option Nat :=
  match unit with
  | [] | ['s'] => some 1
  | ['m'] => some 60
  | ['h'] => some 3600
  | ['d'] => some 86400
  | _ => none

/-- Reads a span: a number that is not negative, and perhaps a unit. Parts of a nanosecond count as one. -/
def Span.read? (text : ByteText) : Option Span := do
  let (number, rest) ← Floating.read? .extended (text.dropWhile (· = ' '))
  let seconds ← unitSeconds? rest
  match number.magnitude with
  | .finite num den =>
    if number.negative && num ≠ 0 then none else some (.finite ((num * seconds * 1000000000 + den - 1) / den))
  | .infinite => if number.negative then none else some .endless
  | .notANumber => none

def sleep : Tool := withOptions [] false 1 fun name a _ => do
  let spans := a.operands.map Span.read?
  let wrong := a.operands.filter fun t => (Span.read? t).isNone
  if a.operands = [] then misuse name "missing operand".toList 1
  else
    match wrong.getLast? with
    | some last =>
      for t in wrong.dropLast do complain name ("invalid time interval ".toList ++ quoted t)
      misuse name ("invalid time interval ".toList ++ quoted last) 1
    | none =>
      let span := (spans.filterMap fun s => s).foldl Span.add (.finite 0)
      let now ← Routine.now
      discard <| Routine.pause (span.after now)
      return 0

/-! ### Signals -/

/-- The number of the signal that an option means. -/
def signalNumber? (text : ByteText) : Option Nat := Shell.SignalName.number? .extended text

/-- Reads a whole number with a sign. -/
def integer? (text : ByteText) : Option Int :=
  match text with
  | '-' :: digits => (Decimal.value? digits).map fun n => -(n : Int)
  | '+' :: digits => (Decimal.value? digits).map fun n => (n : Int)
  | digits => (Decimal.value? digits).map fun n => (n : Int)

/-- Sends a signal to each target; the exit code tells whether all of that worked. -/
def sendEach (name : ByteText) (n : Nat) : List ByteText → Routine Nat
  | [] => pure 0
  | target :: rest => do
    let failed ← match integer? target with
      | none =>
        complain name ("failed to parse argument: '".toList ++ target ++ ['\''])
        pure true
      | some pid =>
        match ← Routine.call (.sendSignal pid n) with
        | none => pure false
        | some (e : Errno) =>
          complain name ("(".toList ++ target ++ "): ".toList ++ e.description.toList)
          pure true
    let more ← sendEach name n rest
    return if failed then 1 else more

/-- The short names of the first signals. -/
def signalListing : ByteText :=
  ([' '] : List Char).intercalate ((List.range 31).map fun i => Shell.SignalName.name .extended (i + 1))

def kill : Tool := fun args _ => do
  let name := args.headD []
  let send (signal : ByteText) (targets : List ByteText) : Routine Nat := do
    match signalNumber? signal with
    | some n => sendEach name n (if targets.head? = some ['-', '-'] then targets.drop 1 else targets)
    | none =>
      complain name ("unknown signal ".toList ++ signal)
      return 1
  match args.drop 1 with
  | [] =>
    complain name "not enough arguments".toList
    return 1
  | option :: rest =>
    if option = "-l".toList ∨ option = "-L".toList then
      match rest with
      | [] => emit name (signalListing ++ ['\n'])
      | text :: _ =>
        match Decimal.value? text, signalNumber? text with
        | some n, _ => emit name (Shell.SignalName.name .extended (n % 128) ++ ['\n'])
        | none, some n => emit name (Decimal.digits n ++ ['\n'])
        | none, none =>
          complain name ("unknown signal name ".toList ++ text)
          return 1
    else if option = "-s".toList ∨ option = "-n".toList then send (rest.headD []) (rest.drop 1)
    else if option = "--".toList then send "TERM".toList rest
    else if option.head? = some '-' then send (option.drop 1) rest
    else send "TERM".toList (option :: rest)

/-! ### Limited time -/

/-- What a program with limited time does at its end. -/
structure Limit where
  signal : Nat := SignalNumber.terminate
  /-- How long to wait before the program is killed. -/
  killAfter : Option Span := none
  /-- The program stays in the group that it was started in. -/
  foreground : Bool := false
  keepsStatus : Bool := false

/-- The signals that are handed on to a program with limited time. -/
def handedOn : List Nat := [1, 2, 3, 13, 15, 10, 12]

/-- Sends a signal to a program with limited time. -/
def Limit.send (l : Limit) (child n : Nat) : Routine Unit := do
  discard <| Routine.call (.sendSignal child n)
  if !l.foreground then
    Routine.call (.setSignal n .ignored)
    discard <| Routine.call (.sendSignal 0 n)
    if n ≠ SignalNumber.kill && n ≠ SignalNumber.resume then
      discard <| Routine.call (.sendSignal child SignalNumber.resume)
      Routine.call (.setSignal SignalNumber.resume .ignored)
      discard <| Routine.call (.sendSignal 0 SignalNumber.resume)

/-- The exit code for how a program with limited time has ended. -/
def Limit.code (l : Limit) (timedOut : Bool) (status : WaitStatus) : Routine Nat := do
  let code ← match status.outcome with
    | .exited n => pure n.toNat
    | .signaled n => do
      if !timedOut then
        Routine.call (.setSignal n.toNat .byDefault)
        let id ← Routine.identity
        discard <| Routine.call (.sendSignal id.pid n.toNat)
      pure (128 + n.toNat)
  return if timedOut && !l.keepsStatus && code ≠ 128 + SignalNumber.kill then 124 else code

/-- Waits for a program with limited time. Each round has less fuel than the one before. -/
def Limit.await (child : Nat) (fuel : Nat) (l : Limit) (timedOut : Bool) (deadline : Option Nat) : Routine Nat :=
  match fuel with
  | 0 => pure 0
  | fuel + 1 => do
    let strike (n : Nat) : Routine (Limit × Option Nat) := do
      l.send child n
      match l.killAfter with
      | some span =>
        let now ← Routine.now
        return ({ l with signal := SignalNumber.kill, killAfter := none }, span.after now)
      | none => return (l, none)
    match ← Routine.wait { deadline } with
    | .ended pid status => if pid = child then l.code timedOut status else l.await child fuel timedOut deadline
    | .noChildren => return 125
    | .nothing =>
      let (l, deadline) ← strike l.signal
      l.await child fuel true deadline
    | .interrupted =>
      let arrived ← Routine.signals
      match arrived with
      | n :: _ =>
        let (l, next) ← strike n
        l.await child fuel timedOut (if next.isSome then next else deadline)
      | [] => l.await child fuel timedOut deadline

def timeout : Tool := withOptions
    [{ letter := 's', long := "signal", takesValue := true }, { letter := 'k', long := "kill-after", takesValue := true },
     { letter := 'p', long := "preserve-status" }, { letter := 'f', long := "foreground" },
     { letter := 'v', long := "verbose" }] true 125 fun name a environment => do
  let signal? := match a.value? 's' with
    | some text => signalNumber? text
    | none => some SignalNumber.terminate
  match signal?, a.operands with
  | none, _ => misuse name (quoted ((a.value? 's').getD []) ++ ": invalid signal".toList) 125
  | _, [] | _, [_] => misuse name "missing operand".toList 125
  | some signal, length :: args =>
    let killAfter := (a.value? 'k').map Span.read?
    match killAfter, Span.read? length with
    | some none, _ => misuse name ("invalid time interval ".toList ++ quoted ((a.value? 'k').getD [])) 125
    | _, none => misuse name ("invalid time interval ".toList ++ quoted length) 125
    | _, some span =>
      let l : Limit :=
        { signal, killAfter := killAfter.bind fun s => s, foreground := a.has 'f', keepsStatus := a.has 'p' }
      if !l.foreground then Routine.call .leadGroup
      let caught := (signal :: handedOn).eraseDups.filter fun n =>
        n ≠ SignalNumber.kill && n ≠ SignalNumber.stop && n ≠ 0
      for n in caught do Routine.call (.setSignal n .caught)
      let child ← Routine.fork (Routine.program (do
        for n in caught do Routine.call (.setSignal n .byDefault)
        becomeOr name "failed to run command " args environment))
      let now ← Routine.now
      let deadline := if span = .finite 0 then none else span.after now
      l.await child Routine.manyRounds false deadline

/-! ### Changed surroundings -/

/-- A name and a value in one argument. -/
def binding? (arg : ByteText) : Option (ByteText × ByteText) :=
  let name := arg.takeWhile (· ≠ '=')
  if name.length < arg.length then some (name, arg.drop (name.length + 1)) else none

/-- An environment with a value for a name. -/
def withValue (environment : Environment) (name value : ByteText) : Environment :=
  if environment.any (·.1 = name) then environment.map fun (n, v) => if n = name then (n, value) else (n, v)
  else environment ++ [(name, value)]

def env : Tool := withOptions
    [{ letter := 'i', long := "ignore-environment" }, { letter := 'u', long := "unset", takesValue := true },
     { letter := 'C', long := "chdir", takesValue := true }, { letter := '0', long := "null" }] true 125
    fun name a environment => do
  let lone := a.operands.head? = some ['-']
  let operands := if lone then a.operands.drop 1 else a.operands
  let start : Environment := if a.has 'i' || lone then [] else environment
  let start := start.filter fun (n, _) => !(a.values 'u').contains n
  let front := operands.takeWhile fun arg => (binding? arg).isSome
  let environment := (front.filterMap binding?).foldl (fun e (n, v) => withValue e n v) start
  match operands.drop front.length with
  | [] => emit name (joined (environment.map fun (n, v) => n ++ '=' :: v))
  | args =>
    match a.value? 'C' with
    | some dir =>
      match ← Routine.call (.changeDirectory dir) with
      | some (e : Errno) =>
        complainOf name ("cannot change directory to ".toList ++ quoted dir) e
        return 125
      | none => becomeOr name "" args environment
    | none => becomeOr name "" args environment

def nohup : Tool := fun args environment => do
  let name := args.headD []
  let rest := if args[1]? = some ['-', '-'] then args.drop 2 else args.drop 1
  if rest = [] then misuse name "missing operand".toList 125
  else
    Routine.call (.setSignal 1 .ignored)
    becomeOr name "failed to run command " rest environment

def nice : Tool := withOptions [{ letter := 'n', long := "adjustment", takesValue := true }] true 125
    fun name a environment =>
  if a.operands = [] then emit name "0\n".toList else becomeOr name "" a.operands environment

def stdbuf : Tool := withOptions (valued "ioe") true 125 fun name a environment =>
  if a.operands = [] then misuse name "missing operand".toList 125
  else becomeOr name "failed to run command " a.operands environment

/-- Waits until a child has ended. Each round has less fuel than the one before. -/
def awaitChild (child : Nat) (fuel : Nat) : Routine WaitStatus :=
  match fuel with
  | 0 => pure (.ofExit 0)
  | fuel + 1 => do
    match ← Routine.wait {} with
    | .ended pid status => if pid = child then return status else awaitChild child fuel
    | .noChildren => return .ofExit 0
    | _ => awaitChild child fuel

def setsid : Tool := withOptions [{ letter := 'c', long := "ctty" }, { letter := 'f', long := "fork" },
    { letter := 'w', long := "wait" }] true 1 fun name a environment => do
  if a.operands = [] then misuse name "no command specified".toList 1
  else
    let go : Routine Nat := do
      Routine.call .leadGroup
      let e ← become a.operands environment
      complainOf name ("failed to execute ".toList ++ a.operands.headD []) e
      return refusalCode e
    let id ← Routine.identity
    if a.has 'f' || id.pid = id.group then
      let child ← Routine.fork (Routine.program go)
      if a.has 'w' then
        match (← awaitChild child Routine.manyRounds).outcome with
        | .exited n => return n.toNat
        | .signaled n => return n.toNat
      else return 0
    else go

/-! ### Arguments from the input -/

/-- Cuts a text into arguments: between blanks, but for what is quoted. -/
structure Cutting where
  args : List ByteText := []
  current : Option ByteText := none
  quote : Option Char := none
  escaped : Bool := false

def Cutting.push (k : Cutting) (c : Char) : Cutting :=
  { k with current := some ((k.current.getD []) ++ [c]), escaped := false }

def Cutting.finish (k : Cutting) : Cutting :=
  match k.current with
  | some arg => { k with args := k.args ++ [arg], current := none }
  | none => k

def Cutting.next (k : Cutting) (c : Char) : Cutting :=
  if k.escaped then k.push c
  else
    match k.quote with
    | some q => if c = q then { k with quote := none } else k.push c
    | none =>
      if c = ' ' ∨ c = '\t' ∨ c = '\n' then k.finish
      else if c = '\'' ∨ c = '"' then { k with quote := some c, current := some (k.current.getD []) }
      else if c = '\\' then { k with escaped := true }
      else k.push c

/-- Cuts a list into parts of a length. Each call has less fuel than its caller. -/
def chunks (size : Nat) (fuel : Nat) (xs : List ByteText) : List (List ByteText) :=
  match fuel, xs with
  | 0, _ | _, [] => []
  | fuel + 1, xs => xs.take size :: chunks size fuel (xs.drop size)

/-- A text with each occurrence of a mark replaced. Each call has less fuel than its caller. -/
def replaced (mark value : ByteText) (fuel : Nat) (text : ByteText) : ByteText :=
  match fuel, text with
  | 0, _ => text
  | _, [] => []
  | fuel + 1, c :: rest =>
    match mark.isPrefixOf? (c :: rest) with
    | some tail => if mark = [] then c :: rest else value ++ replaced mark value fuel tail
    | none => c :: replaced mark value fuel rest

/-- Runs commands one after the other. -/
def runEach (name : ByteText) (environment : Environment) (code : Nat) : List (List ByteText) → Routine Nat
  | [] => pure code
  | args :: rest => do
    let child ← Routine.fork (Routine.program (do
      match ← Routine.openFile "/dev/null".toList { reads := true } with
      | .ok n =>
        discard <| Routine.call (.duplicateTo n 0)
        if n ≠ 0 then Routine.close n
      | .error _ => pure ()
      let e ← become args environment
      complainOf name (args.headD []) e
      return refusalCode e))
    match (← awaitChild child Routine.manyRounds).outcome with
    | .exited n =>
      if n = 255 then
        complain name (args.headD [] ++ ": exited with status 255; aborting".toList)
        return 124
      else if n = 126 ∨ n = 127 then return n.toNat
      else runEach name environment (if n = 0 then code else 123) rest
    | .signaled n =>
      complain name (args.headD [] ++ ": terminated by signal ".toList ++ (Decimal.signedText n).toList)
      return 125

def xargs : Tool := withOptions (flags "r0tx" ++ valued "nILPdsE") true 1 fun name a environment => do
  let text := ((← Routine.readAll 0).toOption).getD []
  let command := if a.operands = [] then ["echo".toList] else a.operands
  let byLines := a.has 'I'
  let items :=
    if a.has '0' then (text.splitOn '\x00').filter (· ≠ [])
    else
      match a.value? 'd' with
      | some (c :: cs) =>
        let c := if c = '\\' && cs = ['n'] then '\n' else c
        let parts := text.splitOn c
        if parts.getLast? = some [] then parts.dropLast else parts
      | _ =>
        if byLines then ((lines text).map (·.dropWhile fun c => c = ' ' || c = '\t')).filter (· ≠ [])
        else (text.foldl Cutting.next {}).finish.args
  let size := ((a.value? 'n').bind Decimal.value?).getD ((a.value? 'L').bind Decimal.value? |>.getD (items.length + 1))
  let commands := match a.value? 'I' with
    | some mark => items.map fun item => command.map fun w => replaced mark item (w.length + 1) w
    | none =>
      if items = [] then if a.has 'r' then [] else [command]
      else (chunks (max size 1) (items.length + 1) items).map fun part => command ++ part
  runEach name environment 0 commands

end OrderlyExit.Tool
