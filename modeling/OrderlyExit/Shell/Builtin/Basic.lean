import OrderlyExit.Shell.Hooks

/-!
Commands of the shell itself: what they take and give, how they complain about their arguments, and how values
are listed so that they read back.
-/

namespace OrderlyExit.Shell

/-- A command of the shell: from its arguments to its status. -/
abbrev Builtin := List ByteText → Run Nat

namespace Builtin

/-- Complains and gives a status. -/
def refuse (message : String) (status : Nat) : Run Nat := do
  Run.warn message.toList
  return status

/-- Complains about an argument. -/
def refuseWith (argument : ByteText) (message : String) (status : Nat) : Run Nat := do
  Run.warn (argument ++ message.toList)
  return status

/-- The largest number that the plain form takes as an argument. -/
def maxNumber : Nat := 2147483647

/-- A number in an argument; anything else is a fault. -/
def number (text : ByteText) : Run Nat := do
  match Decimal.value? text with
  | some n => if n ≤ maxNumber then return n else Run.fail ("Illegal number: ".toList ++ text) 2
  | none => Run.fail ("Illegal number: ".toList ++ text) 2

/-- A whole number in an argument. -/
def integer? (text : ByteText) : Option Int :=
  match text with
  | '-' :: digits => (Decimal.value? digits).map fun n => -(n : Int)
  | '+' :: digits => (Decimal.value? digits).map fun n => (n : Int)
  | digits => (Decimal.value? digits).map fun n => (n : Int)

/-- Writes a text; a failure is said and gives a status of its own. -/
def emit (text : ByteText) : Run Nat := do
  match ← Run.routine (Host.Routine.writeAll 1 text) with
  | none => return 0
  | some e =>
    let s ← get
    if s.isExtended then refuse ("write error: " ++ e.description) 1
    else refuseWith (s.command.getD []) ": I/O error" 1

/-- Writes lines. -/
def emitLines (lines : List ByteText) : Run Nat :=
  if lines = [] then pure 0 else emit (lines.flatMap (· ++ ['\n']))

/-! ### Options -/

/-- Options in front of arguments, each a letter with its argument if it takes one. -/
structure Options where
  given : List (Char × ByteText) := []
  rest : List ByteText
  /-- A letter that is no option. -/
  wrong : Option Char := none
  /-- An option whose argument is missing. -/
  incomplete : Option Char := none

def Options.has (o : Options) (c : Char) : Bool := o.given.any (·.1 = c)

/-- The argument of the last option of a letter. -/
def Options.value? (o : Options) (c : Char) : Option ByteText := (o.given.reverse.lookup c)

/-- Reads the letters of one argument; the letters in `valued` take the rest of it, or the next argument. -/
def readLetters (plain valued : List Char) (rest : List ByteText) (o : List (Char × ByteText)) :
    List Char → Options × Bool
  | [] => ({ given := o, rest }, true)
  | c :: cs =>
    if valued.contains c then
      if cs ≠ [] then ({ given := o ++ [(c, cs)], rest }, true)
      else
        match rest with
        | v :: rest => ({ given := o ++ [(c, v)], rest }, true)
        | [] => ({ given := o, rest := [], incomplete := some c }, false)
    else if plain.contains c then readLetters plain valued rest (o ++ [(c, [])]) cs
    else ({ given := o, rest, wrong := some c }, false)

/-- Reads options. Each call has less fuel than its caller. -/
def readOptionsWith (fuel : Nat) (plain valued : List Char) (o : List (Char × ByteText)) (args : List ByteText) :
    Options :=
  match fuel, args with
  | 0, args => { given := o, rest := args }
  | _, [] => { given := o, rest := [] }
  | fuel + 1, arg :: rest =>
    if arg = ['-', '-'] then { given := o, rest }
    else
      match arg with
      | '-' :: c :: cs =>
        let (read, goesOn) := readLetters plain valued rest o (c :: cs)
        if goesOn then readOptionsWith fuel plain valued read.given read.rest else read
      | _ => { given := o, rest := arg :: rest }

/-- Reads options: the letters of those without an argument, and of those with one. -/
def readOptions (plain valued : String) (args : List ByteText) : Options :=
  readOptionsWith (args.length + 1) plain.toList valued.toList [] args

/-- Reads options; a wrong one is a fault. -/
def options (plain valued : String) (args : List ByteText) : Run Options := do
  let o := readOptions plain valued args
  let s ← get
  match o.wrong, o.incomplete with
  | some c, _ =>
    if s.isExtended then Run.fail ('-' :: c :: ": invalid option".toList) 2
    else Run.fail ("Illegal option -".toList ++ [c]) 2
  | _, some c =>
    if s.isExtended then Run.fail ('-' :: c :: ": option requires an argument".toList) 2
    else Run.fail ("No arg for -".toList ++ [c] ++ " option".toList) 2
  | none, none => return o

/-! ### Listing -/

/-- A text in single quotes; quotes in it stand between double quotes. -/
def quotedPlain (text : ByteText) : ByteText :=
  go (text.length + 1) text
where
  go (fuel : Nat) (text : ByteText) : ByteText :=
    match fuel with
    | 0 => []
    | fuel + 1 =>
      let before := text.takeWhile (· ≠ '\'')
      let after := text.drop before.length
      let quotes := after.takeWhile (· = '\'')
      let rest := after.drop quotes.length
      '\'' :: before ++ ['\''] ++
        if quotes = [] then [] else '"' :: quotes ++ ['"'] ++ if rest = [] then [] else go fuel rest

/-- A text in single quotes; quotes in it stand behind backslashes. -/
def quotedSingle (text : ByteText) : ByteText :=
  '\'' :: (text.flatMap fun c => if c = '\'' then "'\\''".toList else [c]) ++ ['\'']

/-- A text in double quotes. -/
def quotedDouble (text : ByteText) : ByteText :=
  '"' :: (text.flatMap fun c => if "\"\\$\x60".toList.contains c then ['\\', c] else [c]) ++ ['"']

/-- A text with quotes around it if it needs them. -/
def quotedIfNeeded (text : ByteText) : ByteText :=
  if text.all fun c => c.isAlphanum || "_-./:=@%+,".toList.contains c || c.toNat > 127 then text else quotedSingle text

/-- An action as it is listed. -/
def quotedAction (s : State) (text : ByteText) : ByteText := if s.isExtended then quotedSingle text else quotedPlain text

/-- Texts in ascending order. -/
def sorted (texts : List ByteText) : List ByteText := texts.mergeSort fun a b => !(b < a)

/-- The bindings in the order of their names. -/
def sortedBindings (s : State) : List (ByteText × Binding) := s.bindings.mergeSort fun a b => !(b.1 < a.1)

end Builtin

end OrderlyExit.Shell
