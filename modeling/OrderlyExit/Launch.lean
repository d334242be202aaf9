import OrderlyExit.Text.Utf8

/-!
How a program is started: directly, or as the child of a shell.

The shell's script names the program and its arguments as quoted words, so nothing in them is special
to the shell. A second command keeps the shell waiting for the program instead of turning into it.
-/

namespace OrderlyExit

/-- A program, its arguments, and whether a shell stands in between. -/
structure Launch where
  program : List UInt8
  args : List (List UInt8) := []
  viaShell : Bool := false
  deriving DecidableEq, Repr

/-- A program to run and its arguments, as the system takes them. -/
structure Invocation where
  program : List UInt8
  args : List (List UInt8)
  /-- Some word has a zero byte, so nothing can be started. -/
  spoiled : Bool := false
  deriving DecidableEq, Repr

namespace Invocation

/-- A zero byte ends a word for the system, so a text stands in for a word that has one. -/
def word (bytes : List UInt8) : List UInt8 :=
  if bytes.contains 0 then Utf8.ofString "<string-with-nul>" else bytes

/-- The invocation of a program with arguments, whatever bytes they have. -/
def ofWords (program : List UInt8) (args : List (List UInt8)) : Invocation :=
  ⟨word program, args.map word, (program :: args).any (·.contains 0)⟩

end Invocation

namespace Launch

/-- A word between single quotes; a single quote in it is closed over, escaped, and opened again. -/
def quote (word : List Char) : List Char :=
  '\'' :: (word.flatMap fun c => if c = '\'' then ['\'', '\\', '\'', '\''] else [c]) ++ ['\'']

/-- Quoted words with blanks between them. -/
def words : List (List Char) → List Char
  | [] => []
  | [w] => quote w
  | w :: ws => quote w ++ ' ' :: words ws

/-- What follows the command in a script. -/
def scriptEnd : List Char := "; exit $?".toList

/-- The script that runs the program under a shell. -/
def script (l : Launch) : List Char :=
  words (Utf8.decodeLossy l.program :: l.args.map Utf8.decodeLossy) ++ scriptEnd

/-- What is started first: the program itself, or a shell with the script. -/
def command (l : Launch) : Invocation :=
  if l.viaShell then .ofWords (Utf8.ofString "sh") [Utf8.ofString "-c", Utf8.encode l.script]
  else .ofWords l.program l.args

/-- The name of the program in reports. -/
def display (l : Launch) : String := Utf8.toStringLossy l.program

end Launch

end OrderlyExit
