import OrderlyExit.Shell.Builtin.Table
import OrderlyExit.Shell.Redirecting
import OrderlyExit.Shell.Script

/-!
Simple commands: assignments, functions, commands of the shell, and programs.

Words take values first, then redirections are carried out, then assignments are made. Assignments in
front of a command hold for that command only, except in front of the special commands of the plain form.
-/

namespace OrderlyExit.Shell

open Host (Routine)

namespace Simple

open Substituting (surroundings)

/-! ### Assignments -/

/-- The words in a list of values. -/
def listWords (s : State) (text : List Char) : List Word :=
  (Token.ofScript s.dialect s.line text).filterMap fun t => match t with
    | .word w _ => some w
    | _ => none

/-- An element of a list of values that names its place. -/
def keyed? (w : Word) : Option (Word × Word) :=
  match w with
  | .char '[' false :: rest =>
    match Command.splitSubscript rest with
    | some (key, .char '=' false :: value) => some (key, value)
    | _ => none
  | _ => none

/-- Puts the values of a list into a parameter, from a place on. -/
def fillList (x : Hooks) (name : List Char) (next : Nat) : List Word → Run Unit
  | [] => pure ()
  | w :: rest => do
    match keyed? w with
    | some (key, value) =>
      let k ← Expansion.text (surroundings x) key
      let v ← Expansion.value (surroundings x) value
      match ((← get).binding? name).bind (·.value) with
      | some (.table _) =>
        Expansion.assignElement name k v
        fillList x name next rest
      | _ =>
        let n := (← Expansion.evaluate k).toNat
        Expansion.assignElement name (Decimal.digits n) v
        fillList x name (n + 1) rest
    | none =>
      let texts ← Expansion.fields (surroundings x) w
      for (text, i) in texts.zip (List.range texts.length) do
        Expansion.assignElement name (Decimal.digits (next + i)) text
      fillList x name (next + texts.length) rest

/-- Gives a parameter a list of values. -/
def assignList (x : Hooks) (a : Assignment) (text : List Char) : Run Unit := do
  let s ← get
  let old := (s.binding? a.name).bind (·.value)
  let next := match a.appends, old with
    | true, some (.list items) => (items.getLast?.map (·.1 + 1)).getD 0
    | true, some (.text _) => 1
    | _, _ => 0
  if !a.appends then
    Run.assignValue a.name (match old with
      | some (.table _) => .table []
      | _ => .list [])
  fillList x a.name next (listWords s text)

/-- The text that is assigned, with regard to the present value. -/
def assignedText (x : Hooks) (a : Assignment) (old : Option ByteText) : Run ByteText := do
  let text ← Expansion.value (surroundings x) a.value
  let numeric := (((← get).binding? a.name).map (·.numeric)).getD false
  if numeric then
    let n ← Expansion.evaluate (if a.appends then (old.getD ['0']) ++ "+(".toList ++ text ++ [')'] else text)
    return (Decimal.signedText n).toList
  else return if a.appends then old.getD [] ++ text else text

/-- What is shown of an assignment. -/
def shownAssignment (s : State) (a : Assignment) (text : ByteText) : ByteText :=
  let sign := if a.appends then "+=".toList else ['=']
  match a.value, a.subscript with
  | [.list items], none => a.name ++ sign ++ '(' :: items ++ [')']
  | _, none => a.name ++ sign ++ if s.isExtended then Builtin.quotedIfNeeded text else text
  | _, some key => a.name ++ '[' :: Token.bareText key ++ ']' :: sign ++ Builtin.quotedIfNeeded text

/-- Makes an assignment; returns what is shown of it. -/
def assign (x : Hooks) (a : Assignment) : Run ByteText := do
  match a.value, a.subscript with
  | [.list text], none =>
    assignList x a text
    return shownAssignment (← get) a []
  | _, none =>
    let text ← assignedText x a ((← get).text? a.name)
    Run.assign a.name text
    return shownAssignment (← get) a text
  | _, some subscript =>
    let key ← Expansion.text (surroundings x) subscript
    let held ← Expansion.heldAt pure a.name key
    let s ← get
    let text ← assignedText x a (if held.isSet s { whole := true } false false then some (held.text s) else none)
    match (s.binding? a.name).bind (·.value) with
    | some (.table _) => Expansion.assignElement a.name key text
    | _ => Expansion.assignElement a.name (Decimal.signedText (← Expansion.evaluate key)).toList text
    return shownAssignment s a text

/-- Gives a parameter that has been declared its list of values, also if it is not to change from now on. -/
def assignDeclared (x : Hooks) (before : State) (a : Assignment) : Run Unit := do
  let s ← get
  let b := (s.ownBinding? a.name).getD {}
  if b.frozen && !(before.ownBinding? a.name).any (·.frozen) then
    set (s.bind a.name { b with frozen := false })
    discard <| assign x a
    modify fun t => t.bind a.name { ((t.ownBinding? a.name).getD {}) with frozen := true }
  else discard <| assign x a

/-- Assigns while something runs: the parameters are exported meanwhile and come back afterwards. What runs knows
what is shown of the assignments. -/
def assigning (x : Hooks) (as : List Assignment) (act : List ByteText → Run Unit) : Run Unit := do
  if as = [] then act []
  else
    let before ← get
    let restore : Run Unit := modify fun s =>
      let names := as.map (·.name)
      let kept := s.bindings.filter fun (name, _) => !names.contains name
      { s with
        bindings := before.bindings.filter (fun (name, _) => names.contains name) ++ kept
        remembered := if names.contains "PATH".toList then before.remembered else s.remembered }
    let assignAll : Run (List ByteText) := as.mapM fun a => do
      let shown ← assign x a
      modify fun s => s.bind a.name { ((s.binding? a.name).getD {}) with exported := true }
      return shown
    let extended := (← get).isExtended
    let result ← Run.catching (Except.ok <$> assignAll) fun j => match j with
      | .fail n => if extended then pure (.error n) else Run.jump j
      | j => Run.jump j
    match result with
    | .error n =>
      restore
      Run.setStatus n
    | .ok shown => Run.andThen (act shown) restore

/-! ### Words -/

/-- The fields of the words of a command. Assignments among the arguments of a command that takes them are
no fields but texts; lists of values are assigned separately. -/
def expandWords (x : Hooks) (takes : Bool) (lists : List Assignment) : List Word → Run (List ByteText × List Assignment)
  | [] => pure ([], lists)
  | w :: rest => do
    let s ← get
    match if takes then Command.assignment? s.dialect w else none with
    | some a =>
      match a.value, a.subscript with
      | [.list _], none =>
        let (texts, lists) ← expandWords x takes (lists ++ [a]) rest
        return (a.name :: texts, lists)
      | _, _ =>
        let text ← Expansion.value (surroundings x) a.value
        let (texts, lists) ← expandWords x takes lists rest
        return ((a.name ++ (if a.appends then "+=" else "=").toList ++ text) :: texts, lists)
    | none =>
      let texts ← Expansion.fields (surroundings x) w
      let takes := takes || texts.head?.any (Lookup.takesAssignments s.dialect)
      let (more, lists) ← expandWords x takes lists rest
      return (texts ++ more, lists)

/-- The mark in front of what is shown of a command. In the extended form its first character stands there once for
each text that is running. -/
def traceMark (x : Hooks) : Run ByteText := do
  let s ← get
  let text := (s.text? "PS4".toList).getD "+ ".toList
  set { s with options := s.options.filter (· ≠ 'x') }
  let mark ← Run.andThen (Expansion.document (surroundings x) (Token.ofDocument s.dialect s.line text))
    (modify fun t => { t with options := s.options, status := s.status, substituted := s.substituted })
  return if s.isExtended then List.replicate (s.level - 1) (mark.headD '+') ++ mark else mark

/-- Shows assignments and the words of a command, if that is wanted, where errors went before its redirections. -/
def trace (x : Hooks) (errors : Nat) (shown words : List ByteText) : Run Unit := do
  let s ← get
  if s.hasOption 'x' then
    let quote (w : ByteText) : ByteText :=
      if s.isExtended then (if w = [] then "''".toList else Builtin.quotedIfNeeded w) else w
    let line := ([' '] : List Char).intercalate (words.map quote)
    let lines := if s.isExtended then shown ++ if words = [] then [] else [line]
      else [([' '] : List Char).intercalate (shown ++ words)]
    for text in lines do
      let mark ← traceMark x
      discard <| Run.write errors (mark ++ text ++ ['\n'])

/-- Makes assignments for good. -/
def assignAll (x : Hooks) (as : List Assignment) : Run (List ByteText) := as.mapM (assign x)

/-! ### Programs -/

/-- What is said about a program that cannot be run. -/
def programFault (s : State) (name : ByteText) (e : Errno) : ByteText :=
  let missing := e = .noEntry ∨ e = .notADirectory
  name ++ ": ".toList ++
    if s.isExtended then
      (if missing ∧ !name.contains '/' then "command not found" else e.description).toList
    else (if missing then "not found" else e.description).toList

/-- The status of a program that cannot be run. -/
def programStatus (e : Errno) : Nat := if e = .noEntry ∨ e = .notADirectory ∨ e = .nameTooLong then 127 else 126

/-- The shell that runs files which are no programs. -/
def scriptShell (s : State) : ByteText := (if s.isExtended then "/bin/bash" else "/bin/sh").toList

/-- Turns into a program; comes back only if that cannot be. -/
def turnInto (path : ByteText) (words : List ByteText) : Run Errno := do
  let s ← get
  let e ← Run.routine (Routine.execute path words s.environment)
  if e = .notExecutable then
    Run.routine (Routine.execute (scriptShell s) (scriptShell s :: path :: words.drop 1) s.environment)
  else
    match ← Run.routine (Routine.facts path) with
    | .ok facts => return if s.isExtended && facts.kind = .directory then .isADirectory else e
    | .error _ => return e

/-- Turns into a program, or ends. -/
def become (path : ByteText) (words : List ByteText) : Run Unit := do
  let e ← turnInto path words
  Run.warn (programFault (← get) path e)
  Run.jump (.quit (programStatus e))

/-- Runs a program, in place if nothing follows. -/
def runProgram (x : Hooks) (m : Manner) (words : List ByteText) : Run Unit := do
  let s ← get
  let name := words.headD []
  match ← Lookup.locate name with
  | .error e =>
    Run.warn (programFault s name e)
    Run.setStatus (if s.isExtended then programStatus e else 127)
  | .ok path =>
    Lookup.countRun name
    if m.last && !s.hasActions then become path words
    else Run.inCopy x (become path words)

/-! ### Functions -/

/-- How deep functions run inside each other, at most. -/
def maxCalls : Nat := 1000

/-- Brings back what was local to the function that is ending. -/
def bringBack (s : State) : State :=
  match s.saved with
  | [] => s
  | frame :: frames =>
    let (options, longOptions) := frame.options.getD (s.options, s.longOptions)
    frame.bindings.foldl (fun s (name, old) => match old with
      | some b => s.bind name b
      | none => s.unbind name) { s with saved := frames, options, longOptions }

def callFunction (x : Hooks) (m : Manner) (name : ByteText) (body : Command) (args : List ByteText) : Run Unit := do
  let s ← get
  if maxCalls ≤ s.running.length then
    Run.fail "Maximum function recursion depth (1000) reached".toList 2
  set { s with args, loops := 0, running := name :: s.running, saved := {} :: s.saved, optionPlace := 0 }
  let run : Run Unit := Run.withinFunction do
    let status ← Run.catching
      (do x.command { tested := m.tested } body; pure none)
      fun j => match j with
        | .comeBack n => pure (some n)
        | j => Run.jump j
    Run.atOccasion x SignalName.comingBack
    Run.setStatus (status.getD (← get).status)
  Run.andThen run (modify fun t =>
    { bringBack t with args := s.args, loops := s.loops, running := s.running, optionPlace := s.optionPlace })

/-! ### Commands of the shell -/

/-- Runs a command of the shell. Its faults end the shell if it is a special one, and are a status otherwise. -/
def runBuiltin (name : ByteText) (special : Bool) (b : Builtin) (args : List ByteText) : Run Unit := do
  let before := (← get).command
  modify fun s => { s with command := some name }
  let status ← Run.andThen
    (Run.catching (b args) fun j => match j with
      | .fail n => if special then Run.jump (.fail n) else pure n
      | j => Run.jump j)
    (modify fun s => { s with command := before })
  Run.setStatus status

/-! ### Dispatch -/

/-- What the words of a command come to, once commands that only announce others are taken away. -/
structure Plan where
  words : List ByteText
  /-- Functions are not meant. -/
  noFunctions : Bool := false
  /-- Programs are not meant. -/
  noPrograms : Bool := false
  /-- The names are only looked up, in words or as they are spelled. -/
  looksUp : Option Bool := none
  /-- An option in front of them is wrong. -/
  misused : Bool := false

/-- The options of the command that announces another one. -/
def commandOptions : String := "pvV"

/-- Takes announcing commands away. Each call has less fuel than its caller. -/
def planWith (fuel : Nat) (s : State) (p : Plan) : Plan :=
  match fuel, p.words with
  | 0, _ | _, [] => p
  | fuel + 1, name :: rest =>
    if !p.noFunctions && (s.functions.lookup name).isSome then p
    else if name = "command".toList then
      let o := Builtin.readOptions commandOptions "" rest
      if o.wrong.isSome then { p with words := rest, misused := true }
      else if o.has 'v' || o.has 'V' then { p with words := o.rest, looksUp := some (o.has 'V') }
      else if o.rest = [] then p
      else planWith fuel s { p with words := o.rest, noFunctions := true }
    else if s.isExtended && name = "builtin".toList && rest ≠ [] then
      planWith fuel s { p with words := rest, noFunctions := true, noPrograms := true }
    else p

/-- A failed redirection: a fault of a special command, and a status of any other. -/
def redirectionFailed (special : Bool) (status : Nat) : Run Unit := do
  if special then Run.jump (.fail status) else Run.setStatus status

/-- Turns into a program on request, or changes the descriptors for good. -/
def runExec (x : Hooks) (c : SimpleCommand) (words args : List ByteText) : Run Unit := do
  let s ← get
  let (failure, saved) ← Redirecting.perform (surroundings x) false c.redirections
  let errors := Redirecting.errorsBefore saved
  match failure with
  | some status => redirectionFailed (!s.isExtended) status
  | none =>
    let o := Builtin.readOptions (if s.isExtended then "cl" else "") (if s.isExtended then "a" else "") args
    if o.rest = [] then
      let shown ← assignAll x c.assignments
      trace x errors shown words
      Run.routine (Redirecting.forget saved)
      Run.setStatus 0
    else
      assigning x c.assignments fun shown => do
        trace x errors shown words
        modify fun s => { s with command := some "exec".toList }
        let name := o.rest.headD []
        let s ← get
        let e ← match ← Lookup.locate name with
          | .error e => pure e
          | .ok path => turnInto path ((o.value? 'a').getD name :: o.rest.drop 1)
        let missing := s.isExtended ∧ programStatus e = 127 ∧ !name.contains '/'
        Run.warn (if missing then name ++ ": not found".toList else programFault s name e)
        Run.jump (.quit (programStatus e))

/-- Does something with redirections, then assignments, and shows the command in between. With `forProgram` the
redirections are those of a program; with `stays` the assignments stay. -/
def prepared (x : Hooks) (c : SimpleCommand) (words : List ByteText) (forProgram stays : Bool)
    (failed : Nat → Run Unit) (act : Run Unit) : Run Unit := do
  let s ← get
  -- The extended form shows a command without assignments before its redirections.
  let early := s.isExtended && c.assignments = []
  if early then trace x 2 [] words
  Redirecting.within (surroundings x) forProgram c.redirections failed fun errors => do
    let run (shown : List ByteText) : Run Unit := do
      if !early then trace x errors shown words
      act
    if stays then
      let shown ← assignAll x c.assignments
      run shown
    else assigning x c.assignments run

/-- Runs the words of a command with its redirections and assignments. -/
def runWords (x : Hooks) (m : Manner) (c : SimpleCommand) (words : List ByteText) (lists : List Assignment) :
    Run Unit := do
  let s ← get
  let p := planWith (words.length + 1) s { words }
  let name := p.words.headD []
  let args := p.words.drop 1
  let ordinary := prepared x c words false false (redirectionFailed false)
  if p.misused then
    let refuse : Builtin := fun args => do
      discard <| Builtin.options commandOptions "" args
      return 0
    ordinary (runBuiltin "command".toList false refuse p.words)
  else match p.looksUp with
  | some inWords => ordinary (runBuiltin "command".toList false (Builtin.lookUp inWords) p.words)
  | none =>
    match if p.noFunctions then none else s.functions.lookup name with
    | some body => ordinary (callFunction x m name body args)
    | none =>
      if name = "exec".toList then runExec x c words args
      else
        match Builtin.find? x m s.dialect name with
        | some b =>
          let special := Lookup.isSpecial s.dialect name && !p.noFunctions
          prepared x c words false special (redirectionFailed special) do
            runBuiltin name special b args
            for a in lists do assignDeclared x s a
        | none =>
          if p.noPrograms then
            Run.warn ("builtin: ".toList ++ name ++ ": not a shell builtin".toList)
            Run.setStatus 1
          else prepared x c words true false (redirectionFailed false) (runProgram x m p.words)

/-- Runs a simple command. -/
def run (x : Hooks) (m : Manner) (c : SimpleCommand) : Run Unit := do
  modify fun s => { s with line := if c.line = 0 then s.line else c.line }
  Run.atOccasion x SignalName.beforeCommand
  modify fun s => { s with substituted := none }
  let (words, lists) ← expandWords x false [] c.words
  if words = [] then
    Redirecting.within (surroundings x) false c.redirections (redirectionFailed false) fun errors => do
      let shown ← assignAll x c.assignments
      trace x errors shown []
      let s ← get
      Run.setStatus (s.substituted.getD 0)
  else runWords x m c words lists

end Simple

end OrderlyExit.Shell
