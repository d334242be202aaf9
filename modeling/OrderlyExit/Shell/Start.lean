import OrderlyExit.Shell.Interpreter

/-!
A shell as a program: what its arguments and its environment make of it, and which script it runs.

The script is the text behind the option `-c`, or the file that is named first, or its input.
-/

namespace OrderlyExit.Shell

open Host (Routine Program Environment)

namespace Start

/-- What the arguments say. -/
structure Plan where
  asText : Bool := false
  fromInput : Bool := false
  letters : List Char := []
  named : List ByteText := []
  rest : List ByteText
  /-- Something is wrong with them. -/
  fault : Option ByteText := none

/-- The letters that are options of a shell. -/
def knownLetters (d : Dialect) : List Char :=
  if d = .plain then "efIimnsxvVEbuaCpl".toList else "abefhkmnptuvxBCEHPTilrsD".toList

/-- What is said about an option that does not exist. -/
def wrongOption (d : Dialect) (text : ByteText) : ByteText :=
  if d = .plain then "Illegal option ".toList ++ text else text ++ ": invalid option".toList

/-- Takes the letters of one argument in. -/
def takeLetters (d : Dialect) (on : Bool) (p : Plan) : List Char → Plan
  | [] => p
  | c :: cs =>
    if c = 'c' then takeLetters d on { p with asText := on } cs
    else if c = 's' && on then takeLetters d on { p with fromInput := true } cs
    else if c = 'o' then
      match p.rest with
      | name :: rest =>
        let known := (if d = .plain then Builtin.plainOptions else Builtin.extendedOptions).find? fun (n, _) =>
          n.toList = name
        match known with
        | some (_, ' ') => takeLetters d on { p with rest, named := if on then name :: p.named else p.named } cs
        | some (_, letter) =>
          takeLetters d on { p with rest, letters := if on then letter :: p.letters else p.letters } cs
        | none => { p with rest, fault := some (wrongOption d ((if on then "-o " else "+o ").toList ++ name)) }
      | [] => p
    else if (knownLetters d).contains c then
      takeLetters d on { p with letters := if on then c :: p.letters.filter (· ≠ c) else p.letters.filter (· ≠ c) } cs
    else { p with fault := some (wrongOption d [if on then '-' else '+', c]) }

/-- Reads options up to the first argument that is none. Each call has less fuel than its caller. -/
def readArguments (d : Dialect) (fuel : Nat) (p : Plan) : Plan :=
  match fuel, p.rest with
  | 0, _ | _, [] => p
  | fuel + 1, arg :: rest =>
    if p.fault.isSome then p
    else if arg = ['-', '-'] ∨ arg = ['-'] then { p with rest }
    else
      match arg with
      | sign :: c :: cs =>
        if sign ≠ '-' ∧ sign ≠ '+' then p
        else if d = .extended ∧ sign = '-' ∧ c = '-' then readArguments d fuel { p with rest }
        else readArguments d fuel (takeLetters d (sign = '-') { p with rest } (c :: cs))
      | _ => p

/-! ### The first state -/

/-- The parameters that a shell has besides those of its environment. -/
def ownParameters (d : Dialect) (id : Host.Identity) : List (ByteText × Binding) :=
  let text (name value : String) : ByteText × Binding := (name.toList, { value := some (.text value.toList) })
  let fixed (name value : String) : ByteText × Binding :=
    (name.toList, { value := some (.text value.toList), frozen := true, numeric := true })
  [text "IFS" " \t\n", text "OPTIND" "1", text "PS4" "+ "] ++
  if d = .plain then [text "PPID" (Decimal.text id.parent), text "PS1" "# ", text "PS2" "> "]
  else
    [fixed "PPID" (Decimal.text id.parent), fixed "UID" "0", fixed "EUID" "0", text "BASH" "/bin/bash",
     text "BASH_VERSION" "5.2.21(1)-release", text "HOSTNAME" "host", text "HOSTTYPE" "x86_64",
     text "MACHTYPE" "x86_64-pc-linux-gnu", text "OSTYPE" "linux-gnu", text "OPTERR" "1", text "SHELL" "/bin/bash",
     text "TERM" "dumb"]

/-- Where programs are looked for if the environment does not say so. -/
def standardPath : ByteText := "/usr/local/sbin:/usr/local/bin:/usr/sbin:/usr/bin:/sbin:/bin".toList

/-- The level of a shell inside of others. -/
def raised (level : Option ByteText) : ByteText := Decimal.digits (((level.bind Decimal.value?).getD 0) + 1)

/-- The parameters of a shell at its start. -/
def parameters (d : Dialect) (id : Host.Identity) (directory : ByteText) (environment : Environment) :
    List (ByteText × Binding) :=
  let own := ownParameters d id
  let taken := (environment.reverse.filter fun (name, _) =>
    Command.isName name && !own.any (·.1 = name)).map fun (name, value) =>
      (name, ({ value := some (.text value), exported := true } : Binding))
  let exported (value : ByteText) : Binding := { value := some (.text value), exported := true }
  let level : List (ByteText × Binding) :=
    if d = .extended then [("SHLVL".toList, exported (raised (environment.lookup "SHLVL".toList)))] else []
  let place : List (ByteText × Binding) :=
    [("PWD".toList, exported directory)]
  let path : List (ByteText × Binding) :=
    if (environment.lookup "PATH".toList).isSome then [] else [("PATH".toList, { value := some (.text standardPath) })]
  let settled := level ++ place
  settled ++ path ++ own ++ taken.filter fun (name, _) => !settled.any (·.1 = name)

/-! ### Running -/

/-- Ends a shell that cannot begin. -/
def giveUp (d : Dialect) (name message : ByteText) (status : Nat) : Routine Nat := do
  let place := if d = .plain then ": 0: ".toList else ": ".toList
  discard <| Routine.writeAll 2 (name ++ place ++ message ++ ['\n'])
  return status

/-- The text of a script file, or how the shell ends without it. -/
def scriptText (d : Dialect) (name path : ByteText) : Routine (Except Nat ByteText) := do
  match ← Routine.openFile path { reads := true } with
  | .error e =>
    if d = .plain then
      let reason := if e = .noEntry ∨ e = .notADirectory then "No such file" else e.description
      return .error (← giveUp d name ("cannot open ".toList ++ path ++ ": ".toList ++ reason.toList) 2)
    else return .error (← giveUp d name (path ++ ": ".toList ++ e.description.toList) 127)
  | .ok n =>
    let content ← Routine.readAll n
    Routine.close n
    match content with
    | .ok text => return .ok text
    | .error e =>
      if d = .plain then return .ok []
      else return .error (← giveUp d path (path ++ ": ".toList ++ e.description.toList) 126)

/-- Runs a script in a new shell. -/
def run (d : Dialect) (p : Plan) (environment : Environment) (name : ByteText) (args : List ByteText)
    (fromText : Bool) (text : ByteText) : Program :=
  (do
    let id ← Routine.identity
    let directory ← Routine.call .directory
    let ignored ← Routine.call .ignoredSignals
    let s : State :=
      { dialect := d, name, args, shownPid := id.pid, inherited := ignored, fromText, directory
        bindings := parameters d id directory environment
        options := p.letters ++ if !fromText && p.fromInput then ['s'] else []
        longOptions := p.named }
    pure s : Routine State) fun s =>
      Run.program Interpreter.all (Script.run Interpreter.all { last := d = .extended && fromText } true 1 text) s

/-- A shell with its arguments, its own name first, and its environment. -/
def program (d : Dialect) (args : List ByteText) (environment : Environment) : Program :=
  let own := args.headD []
  let p := readArguments d (args.length + 1) { rest := args.drop 1 }
  match p.fault with
  | some message => Routine.program (giveUp d own message 2)
  | none =>
    if p.asText then
      match p.rest with
      | [] =>
        Routine.program (giveUp d own
          (if d = .plain then "-c requires an argument" else "-c: option requires an argument").toList 2)
      | text :: rest => run d p environment (rest.headD own) (rest.drop 1) true text
    else
      match p.rest, p.fromInput with
      | path :: rest, false =>
        proceed (scriptText d own path) fun
          | .error status => .exit status
          | .ok text => run d p environment path rest false text
      | rest, _ =>
        proceed (Routine.readAll 0) fun text =>
          run d { p with fromInput := true } environment own rest false (text.toOption.getD [])
where
  /-- Does something and goes on with its result. -/
  proceed {α : Type} (r : Routine α) (next : α → Program) : Program := r next

end Start

end OrderlyExit.Shell
