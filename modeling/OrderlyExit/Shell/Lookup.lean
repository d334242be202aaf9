import OrderlyExit.Shell.State

/-!
What a name means as a command: a reserved word, another spelling, a function, a command of the shell, or a
program that is found along the search path.
-/

namespace OrderlyExit.Shell

open Host (Routine)

namespace Lookup

/-- The commands of the plain form besides the special ones. -/
def regular : List String :=
  ["[", "alias", "bg", "cd", "chdir", "command", "echo", "false", "fg", "getopts", "hash", "jobs", "kill", "printf",
   "pwd", "read", "test", "true", "type", "ulimit", "umask", "unalias", "wait"]

/-- The commands that the extended form has besides. -/
def extended : List String :=
  ["source", "declare", "typeset", "let", "mapfile", "readarray", "shopt", "builtin", "disown", "enable", "caller",
   "suspend", "logout", "history", "help", "dirs", "pushd", "popd", "compgen", "complete", "bind", "fc"]

def isSpecial (d : Dialect) (name : ByteText) : Bool := d = .plain && Command.special.contains name

/-- Whether a name is that of a command of the shell. -/
def isBuiltin (d : Dialect) (name : ByteText) : Bool :=
  let others := regular.filter (fun n => d = .plain || n ≠ "chdir") ++ if d = .extended then extended else []
  Command.special.contains name || others.any (·.toList = name)

/-- Commands whose arguments may be assignments. -/
def takesAssignments (d : Dialect) (name : ByteText) : Bool :=
  (["export", "readonly", "local"] ++ if d = .extended then ["declare", "typeset"] else []).any (·.toList = name)

/-- The directories in which programs are looked for. -/
def directories (s : State) : List ByteText := (s.textOrNone "PATH").splitOn ':'

/-- The first of these directories that has a program of the name. -/
def searchIn (name : ByteText) (found : Errno) : List ByteText → Routine (Except Errno ByteText)
  | [] => pure (.error found)
  | dir :: rest => do
    let path := if dir = [] then name else dir ++ '/' :: name
    match ← Routine.facts path with
    | .ok facts =>
      if facts.kind ≠ .regular then searchIn name .accessDenied rest
      else if facts.permissions &&& 0o111 = 0 then searchIn name .accessDenied rest
      else return .ok path
    | .error _ => searchIn name found rest

/-- Where a program is, or why there is none. A name with a slash is a path. -/
def program (s : State) (name : ByteText) : Routine (Except Errno ByteText) :=
  if name.contains '/' then pure (.ok name) else searchIn name .noEntry (directories s)

/-- Where a program is. What is found along the search path is remembered. -/
def locate (name : ByteText) : Run (Except Errno ByteText) := do
  let s ← get
  match s.remembered.lookup name with
  | some (path, _) => return .ok path
  | none =>
    let found ← Run.routine (program s name)
    match found with
    | .ok path => if !name.contains '/' then set { s with remembered := s.remembered ++ [(name, path, 0)] }
    | .error _ => pure ()
    return found

/-- Counts a run of a program that is remembered. -/
def countRun (name : ByteText) : Run Unit :=
  modify fun s => { s with remembered := s.remembered.map fun (n, path, runs) =>
    (n, path, if n = name then runs + 1 else runs) }

inductive Meaning
  | reserved
  | alias (text : ByteText)
  | function
  | builtin (special : Bool)
  /-- A program, which may have been found before. -/
  | program (path : ByteText) (again : Bool)
  | nothing
  deriving DecidableEq, Repr

/-- What a name means as a command. -/
def meaning (s : State) (name : ByteText) : Routine Meaning := do
  if (Command.reservedWords s.dialect).contains name then return .reserved
  match s.aliases.lookup name with
  | some text => return .alias text
  | none =>
    if (s.functions.lookup name).isSome then return .function
    else if isBuiltin s.dialect name then return .builtin (isSpecial s.dialect name)
    else if name.contains '/' then
      match ← Routine.facts name with
      | .ok facts => return if facts.permissions &&& 0o111 ≠ 0 then .program name false else .nothing
      | .error _ => return .nothing
    else
      match s.remembered.lookup name with
      | some (path, _) => return .program path true
      | none =>
        match ← program s name with
        | .ok path => return .program path false
        | .error _ => return .nothing

/-- What a name means; the plain form remembers a program that it finds. -/
def meaningOf (name : ByteText) : Run Meaning := do
  let s ← get
  let m ← Run.routine (meaning s name)
  match m with
  | .program .. => if !s.isExtended then discard <| locate name
  | _ => pure ()
  return m

/-- What a name means, in words. -/
def describe (name : ByteText) : Meaning → ByteText
  | .reserved => name ++ " is a shell keyword".toList
  | .alias text => name ++ " is an alias for ".toList ++ text
  | .function => name ++ " is a shell function".toList
  | .builtin special => name ++ (if special then " is a special shell builtin" else " is a shell builtin").toList
  | .program path again => name ++ (if again then " is a tracked alias for " else " is ").toList ++ path
  | .nothing => name ++ ": not found".toList

end Lookup

end OrderlyExit.Shell
