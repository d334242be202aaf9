import OrderlyExit.Tool.Matching
import OrderlyExit.Tool.Printing
import OrderlyExit.Tool.Process
import OrderlyExit.Tool.Text
import OrderlyExit.Tool.Worker

/-!
The programs of a host by their names.
-/

namespace OrderlyExit.Tool

/-- The programs that an ordinary host has, besides its shells. -/
def table : List (String × Tool) :=
  [("[", bracket), ("arch", fixed "x86_64"), ("basename", basename), ("cat", cat), ("cut", cut), ("date", date),
   ("dirname", dirname), ("echo", echo), ("egrep", egrep), ("env", env), ("expr", expr), ("false", constant 1), ("fgrep", fgrep),
   ("grep", grep), ("head", head), ("hostname", fixed "host"),
   ("id", id), ("kill", kill), ("nice", nice), ("nl", nl), ("nohup", nohup), ("nproc", fixed "1"),
   ("printenv", printenv), ("printf", printf), ("pwd", pwd), ("rev", rev), ("sed", sed), ("seq", seq), ("setsid", setsid),
   ("sleep", sleep), ("sort", sort), ("stdbuf", stdbuf), ("sync", constant 0), ("tac", tac), ("tail", tail),
   ("tee", tee), ("test", test), ("timeout", timeout), ("tr", tr), ("true", constant 0), ("uname", uname),
   ("uniq", uniq), ("wc", wc), ("whoami", fixed "root"), ("xargs", xargs), ("yes", yes)]

/-- The program of a name, its name as in its file. -/
def find? (name : ByteText) : Option Tool := (table.find? fun (n, _) => n.toList = name).map (·.2)

end OrderlyExit.Tool
