import OrderlyExit.CommandLine.Arguments

/-!
The command line of a worker: at most one configuration file.
-/

namespace OrderlyExit.CommandLine

/-- The options of a worker. -/
structure WorkerOptions where
  /-- The path of the configuration file. -/
  config : Option (List Char) := none
  deriving DecidableEq, Repr, Inhabited

namespace WorkerOptions

def rules : List OptionRule := [⟨"config".toList, some 'c', true⟩]

/-- Takes in a path that is not empty, once. -/
def take (o : WorkerOptions) : Item → Option WorkerOptions
  | .option _ path => if o.config.isSome ∨ path = [] then none else some ⟨some path⟩
  | _ => none

def parse (args : List (List Char)) : Usage WorkerOptions := collect take {} (items rules args)

/-- The help for a worker that is called by a name. -/
def help (name : String) : List String :=
  ["Worker that announces its pid and shuts down observably on SIGINT/SIGTERM", "",
   "Usage: " ++ name ++ " [OPTIONS]", "",
   "Options:",
   "  -c, --config <CONFIG>  Optional TOML config; defaults apply when omitted",
   "  -h, --help             Print help"]

end WorkerOptions

end OrderlyExit.CommandLine
