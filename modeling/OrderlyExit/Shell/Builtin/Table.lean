import OrderlyExit.Shell.Builtin.Control
import OrderlyExit.Shell.Builtin.Input
import OrderlyExit.Shell.Builtin.Limits
import OrderlyExit.Shell.Builtin.Output
import OrderlyExit.Shell.Builtin.Places
import OrderlyExit.Shell.Builtin.Variables

/-!
The commands of the shell by name.
-/

namespace OrderlyExit.Shell.Builtin

/-- A command that does nothing and gives a status. -/
def constant (status : Nat) : Builtin := fun _ => pure status

/-- The times that the shell and its children have used, which are none. -/
def times : Builtin := fun _ => do
  let time := if (← get).isExtended then "0m0.000s 0m0.000s".toList else "0m0.000000s 0m0.000000s".toList
  emitLines [time, time]

/-- The commands by name. Some run others in a manner. -/
def table (x : Hooks) (m : Manner) : List (String × Builtin) :=
  [(":", constant 0), ("true", constant 0), ("false", constant 1), (".", source x m), ("source", source x m),
   ("break", leave false), ("continue", leave true), ("eval", eval x m), ("exit", exit), ("export", export_),
   ("local", local_), ("readonly", readonly), ("return", return_), ("set", set_), ("shift", shift), ("times", times),
   ("trap", trap), ("unset", unset), ("[", bracket), ("alias", alias_), ("cd", cd), ("chdir", cd), ("echo", echo),
   ("getopts", getopts), ("hash", hash), ("jobs", jobs), ("kill", kill), ("printf", printf), ("pwd", pwd),
   ("read", read), ("test", test), ("type", type), ("ulimit", ulimit), ("umask", umask), ("unalias", unalias),
   ("wait", wait), ("declare", declare), ("typeset", declare), ("let", let_), ("mapfile", mapfile),
   ("readarray", mapfile), ("shopt", shopt), ("bg", constant 1), ("fg", constant 1)]

/-- The command of a name, if the shell has one. -/
def find? (x : Hooks) (m : Manner) (d : Dialect) (name : ByteText) : Option Builtin :=
  if Lookup.isBuiltin d name then
    match (table x m).find? fun (n, _) => n.toList = name with
    | some (_, b) => some b
    | none => some (constant 0)
  else none

end OrderlyExit.Shell.Builtin
