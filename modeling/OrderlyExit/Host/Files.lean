import OrderlyExit.IoError
import OrderlyExit.Text.ByteText

/-!
The files of a host: what stands at a path, what a path or a name means to someone who wants to run it, and
how files come and go.

A place is written as the names that lead to it from the root, without `.` and `..`.
-/

namespace OrderlyExit.Host

/-- A file that is no store of bytes. -/
inductive Device
  | null
  | zero
  /-- A device without room. -/
  | full
  | random
  /-- The terminal of a process, which it does not have. -/
  | terminal
  /-- Another name for an open descriptor of the process that asks. -/
  | descriptor (n : Nat)
  deriving DecidableEq, Repr

/-- What stands at a path. -/
inductive Entry
  | directory
  | file (content : ByteText) (permissions : Nat)
  /-- A program that the host can run by itself. -/
  | program (name : ByteText)
  | device (d : Device)
  deriving DecidableEq, Repr

/-- The names that lead to a file from the root. -/
abbrev Place := List ByteText

/-- The files of a host. -/
structure Files where
  entries : List (Place × Entry)

namespace Files

def maxNameLength : Nat := 255

def maxPathLength : Nat := 4095

/-- What stands at a place; the root is a directory. -/
def at? (files : Files) (place : Place) : Option Entry :=
  if place = [] then some .directory else files.entries.lookup place

/-- The path of a place. -/
def pathOf (place : Place) : ByteText := if place = [] then ['/'] else place.flatMap ('/' :: ·)

/-- The names in a path. -/
def names (path : ByteText) : List ByteText := (path.splitOn '/').filter (· ≠ [])

/-- Follows names from a directory on: the place they lead to, and what stands there. -/
def follow (files : Files) (dir : Place) : List ByteText → Except Errno (Place × Option Entry)
  | [] => .ok (dir, some .directory)
  | name :: rest =>
    if name = ['.'] then follow files dir rest
    else if name = ['.', '.'] then follow files dir.dropLast rest
    else if name.length > maxNameLength then .error .nameTooLong
    else
      match files.entries.lookup (dir ++ [name]), rest with
      | none, [] => .ok (dir ++ [name], none)
      | none, _ => .error .noEntry
      | some .directory, rest => follow files (dir ++ [name]) rest
      | some entry, [] => .ok (dir ++ [name], some entry)
      | some _, _ => .error .notADirectory

/-- The place of a path that is used in directory `dir`, and what stands there. -/
def locate (files : Files) (dir : Place) (path : ByteText) : Except Errno (Place × Option Entry) :=
  if path = [] then .error .noEntry
  else if path.length > maxPathLength then .error .nameTooLong
  else
    match follow files (if path.head? = some '/' then [] else dir) (names path) with
    | .ok (place, some .directory) => .ok (place, some .directory)
    | .ok (place, some entry) =>
      if path.getLast? = some '/' then .error .notADirectory else .ok (place, some entry)
    | found => found

/-- What stands at a path. -/
def entryAt (files : Files) (dir : Place) (path : ByteText) : Except Errno Entry :=
  match files.locate dir path with
  | .ok (_, some entry) => .ok entry
  | .ok (_, none) => .error .noEntry
  | .error e => .error e

/-- Files with an entry at a place. -/
def put (files : Files) (place : Place) (entry : Entry) : Files :=
  ⟨(place, entry) :: files.entries.filter (·.1 ≠ place)⟩

/-- Files without the entry at a place. -/
def erase (files : Files) (place : Place) : Files := ⟨files.entries.filter (·.1 ≠ place)⟩

/-- The names in a directory. -/
def children (files : Files) (place : Place) : List ByteText :=
  files.entries.filterMap fun (p, _) => if p.dropLast = place then p.getLast? else none

/-! ### Running -/

/-- A program to run, with the name it goes by and arguments in front of its own. -/
structure Executable where
  program : ByteText
  args : List ByteText := []
  deriving DecidableEq, Repr

def isBlank (c : Char) : Bool := c == ' ' || c == '\t'

/-- The interpreter and its argument in the first line of a script. -/
def interpreter? (content : ByteText) : Option (ByteText × List ByteText) :=
  match content with
  | '#' :: '!' :: rest =>
    let line := (rest.takeWhile (· ≠ '\n')).dropWhile isBlank
    let arg := ((line.dropWhile (!isBlank ·)).dropWhile isBlank).reverse.dropWhile isBlank |>.reverse
    some (line.takeWhile (!isBlank ·), if arg = [] then [] else [arg])
  | _ => none

/-- Whether somebody may run a file with these permissions. -/
def isExecutable (permissions : Nat) : Bool := permissions &&& 0o111 != 0

/-- What running the file at a path means. -/
def executableAt (files : Files) (dir : Place) (path : ByteText) : Except Errno Executable :=
  match files.entryAt dir path with
  | .error e => .error e
  | .ok (.program p) => .ok { program := p }
  | .ok (.file content permissions) =>
    if !isExecutable permissions then .error .accessDenied
    else
      match interpreter? content with
      | none => .error .notExecutable
      | some (interpreter, arg) =>
        match files.entryAt dir interpreter with
        | .error e => .error e
        | .ok (.program p) => .ok { program := p, args := arg ++ [path] }
        | .ok _ => .error .accessDenied
  | .ok _ => .error .accessDenied

/-- Where programs are looked for by name. -/
def searchPath : List ByteText := ["/usr/bin".toList, "/bin".toList]

/-- What running a program by its name or path means. A name that is found where it cannot be run is
refused, unless it can be run elsewhere. -/
def executable (files : Files) (dir : Place) (name : ByteText) : Except Errno Executable :=
  if name = [] then .error .noEntry
  else if '/' ∈ name then files.executableAt dir name
  else
    let found := searchPath.map fun d => files.executableAt dir (d ++ '/' :: name)
    match found.find? Except.toBool with
    | some e => e
    | none =>
      match found.find? (fun e => match e with
        | .error e => e ≠ .noEntry
        | .ok _ => true) with
      | some e => e
      | none => .error .noEntry

end Files

end OrderlyExit.Host
