import OrderlyExit.Host.Call
import OrderlyExit.Text.Decimal
import OrderlyExit.Text.Utf8

/-!
Small programs: what they take, how they read their options, how they go over their input, and how they
complain.
-/

namespace OrderlyExit

open Host (Routine Environment)

/-- A program: from its arguments, its own name first, and its environment to its exit code. -/
abbrev Tool := List ByteText → Environment → Routine Nat

namespace Tool

/-- A text between quotation marks. -/
def quoted (text : ByteText) : ByteText :=
  ByteText.ofBytes (Utf8.encode ['‘']) ++ text ++ ByteText.ofBytes (Utf8.encode ['’'])

/-- The last part of a path. -/
def lastPart (path : ByteText) : ByteText := (path.reverse.takeWhile (· ≠ '/')).reverse

/-- Says something about a failure. -/
def complain (name message : ByteText) : Routine Unit := do
  discard <| Routine.writeAll 2 (name ++ ": ".toList ++ message ++ ['\n'])

/-- Complains about a file. -/
def complainOf (name path : ByteText) (e : Errno) : Routine Unit :=
  complain name (path ++ ": ".toList ++ e.description.toList)

/-- Complains about the arguments and says where to read more; the exit code is given. -/
def misuse (name message : ByteText) (code : Nat) : Routine Nat := do
  complain name message
  discard <| Routine.writeAll 2 ("Try '".toList ++ name ++ " --help' for more information.\n".toList)
  return code

/-- Writes a text; the exit code tells whether that worked. -/
def emit (name text : ByteText) : Routine Nat := do
  match ← Routine.writeAll 1 text with
  | none => return 0
  | some e =>
    complain name ("write error: ".toList ++ e.description.toList)
    return 1

/-! ### Options -/

/-- An option: its letter, its long name, and whether it takes a value. -/
structure Rule where
  letter : Char
  long : String := ""
  takesValue : Bool := false

/-- Arguments, sorted into options with their values and what they are about. -/
structure Arguments where
  given : List (Char × ByteText) := []
  operands : List ByteText := []
  /-- Why they cannot be sorted. -/
  fault : Option ByteText := none

namespace Arguments

def has (a : Arguments) (c : Char) : Bool := a.given.any (·.1 = c)

/-- The value of the last option of a letter. -/
def value? (a : Arguments) (c : Char) : Option ByteText := a.given.reverse.lookup c

/-- All values of the options of a letter. -/
def values (a : Arguments) (c : Char) : List ByteText := (a.given.filter (·.1 = c)).map (·.2)

def add (a : Arguments) (c : Char) (v : ByteText) : Arguments := { a with given := a.given ++ [(c, v)] }

/-- Takes in the letters of one argument; a value is the rest of it, or the next argument. -/
def addLetters (rules : List Rule) (a : Arguments) (rest : List ByteText) : List Char → Arguments × List ByteText
  | [] => (a, rest)
  | c :: cs =>
    match rules.find? (·.letter = c) with
    | none => ({ a with fault := some ("invalid option -- '".toList ++ [c, '\'']) }, rest)
    | some r =>
      if !r.takesValue then addLetters rules (a.add c []) rest cs
      else if cs ≠ [] then (a.add c cs, rest)
      else
        match rest with
        | v :: rest => (a.add c v, rest)
        | [] => ({ a with fault := some ("option requires an argument -- '".toList ++ [c, '\'']) }, [])

/-- Takes in an argument with a long name. -/
def addLong (rules : List Rule) (a : Arguments) (rest : List ByteText) (text : List Char) :
    Arguments × List ByteText :=
  let name := text.takeWhile (· ≠ '=')
  let own := if name.length < text.length then some (text.drop (name.length + 1)) else none
  let found := (rules.filter fun r => r.long ≠ "" && name.isPrefixOf r.long.toList)
  let exact := found.filter fun r => r.long.toList = name
  match (if exact = [] then found else exact), own with
  | r :: _, some v => (a.add r.letter v, rest)
  | r :: _, none =>
    if !r.takesValue then (a.add r.letter [], rest)
    else
      match rest with
      | v :: rest => (a.add r.letter v, rest)
      | [] => ({ a with fault := some ("option '--".toList ++ name ++ "' requires an argument".toList) }, [])
  | [], _ => ({ a with fault := some ("unrecognized option '--".toList ++ text ++ ['\'']) }, rest)

/-- Sorts arguments. With `inOrder`, the first operand ends the options. Each call has less fuel than its
caller. -/
def readWith (rules : List Rule) (inOrder : Bool) (fuel : Nat) (a : Arguments) (args : List ByteText) : Arguments :=
  match fuel, args with
  | 0, _ | _, [] => a
  | fuel + 1, arg :: rest =>
    if a.fault.isSome then a
    else if arg = ['-', '-'] then { a with operands := a.operands ++ rest }
    else
      match arg with
      | '-' :: '-' :: text =>
        let (a, rest) := addLong rules a rest text
        readWith rules inOrder fuel a rest
      | '-' :: c :: cs =>
        let (a, rest) := addLetters rules a rest (c :: cs)
        readWith rules inOrder fuel a rest
      | operand =>
        if inOrder then { a with operands := a.operands ++ operand :: rest }
        else readWith rules inOrder fuel { a with operands := a.operands ++ [operand] } rest

def read (rules : List Rule) (args : List ByteText) (inOrder : Bool) : Arguments :=
  readWith rules inOrder (args.length + 1) {} args

end Arguments

/-- Runs a program whose options have rules; wrong ones are refused with an exit code. -/
def withOptions (rules : List Rule) (inOrder : Bool) (wrong : Nat)
    (run : ByteText → Arguments → Environment → Routine Nat) : Tool := fun args environment => do
  let name := args.headD []
  let a := Arguments.read rules (args.drop 1) inOrder
  match a.fault with
  | some message => misuse name message wrong
  | none => run name a environment

/-- Letters of options without values. -/
def flags (letters : String) : List Rule := letters.toList.map fun c => { letter := c }

/-- Letters of options with values. -/
def valued (letters : String) : List Rule := letters.toList.map fun c => { letter := c, takesValue := true }

/-! ### Input -/

/-- Opens what an operand names: a file, or the input for a dash. -/
def openOperand (path : ByteText) : Routine (Except Errno Nat) :=
  if path = ['-'] then pure (.ok 0) else Routine.openFile path { reads := true }

/-- Closes a descriptor that was opened for an operand. -/
def closeOperand (path : ByteText) (n : Nat) : Routine Unit :=
  if path = ['-'] then pure () else Routine.close n

/-- The content of what an operand names. -/
def contentOf (path : ByteText) : Routine (Except Errno ByteText) := do
  match ← openOperand path with
  | .error e => return .error e
  | .ok n =>
    let content ← Routine.readAll n
    closeOperand path n
    return content

/-- The contents of all operands, or of the input if there are none; the ones that cannot be read are
complained about. Returns the contents with their names and an exit code. -/
def contents (name : ByteText) : List ByteText → Routine (List (ByteText × ByteText) × Nat)
  | [] => pure ([], 0)
  | path :: rest => do
    match ← contentOf path with
    | .ok text =>
      let (more, code) ← contents name rest
      return ((path, text) :: more, code)
    | .error e =>
      complainOf name path e
      let (more, _) ← contents name rest
      return (more, 1)

/-- The operands, or the input if there are none. -/
def orInput (operands : List ByteText) : List ByteText := if operands = [] then [['-']] else operands

/-- Cuts a text behind each line end. -/
def cutLines (text : ByteText) : List ByteText :=
  let parts := text.splitOn '\n'
  let whole := parts.dropLast.map (· ++ ['\n'])
  match parts.getLast? with
  | some [] | none => whole
  | some rest => whole ++ [rest]

/-- The lines of a text without their ends. -/
def lines (text : ByteText) : List ByteText :=
  let parts := text.splitOn '\n'
  if parts.getLast? = some [] then parts.dropLast else parts

/-- Lines with their ends. -/
def joined (ls : List ByteText) : ByteText := ls.flatMap (· ++ ['\n'])

/-- What going over lines comes to after one of them. -/
structure Step (σ : Type) where
  state : σ
  output : ByteText := []
  /-- Nothing more is read. -/
  stops : Bool := false

/-- How much output is held back. -/
def held : Nat := 4096

/-- Writes output once there is enough of it, or all of it. -/
def release (all : Bool) (output : List ByteText) : Routine (Option Errno × List ByteText) := do
  let size := output.foldl (fun n t => n + t.length) 0
  if size = 0 ∨ (!all ∧ size < held) then return (none, output)
  let failure ← Routine.writeAll 1 output.reverse.flatten
  return (failure, [])

/-- Goes over complete lines; returns the state, the output, the last first, and whether it stopped. -/
def overLines (step : σ → ByteText → Step σ) (state : σ) (output : List ByteText) :
    List ByteText → σ × List ByteText × Bool
  | [] => (state, output, false)
  | l :: ls =>
    let s := step state l
    let output := if s.output = [] then output else s.output :: output
    if s.stops then (s.state, output, true) else overLines step s.state output ls

/-- Goes over the lines of a descriptor, each with its end, while they arrive. The answer is the state, whether
it stopped, output that is held back, and what went wrong. -/
def streamLines (descriptor : Nat) (step : σ → ByteText → Step σ) (fuel : Nat) (state : σ) (output : List ByteText)
    (unfinished : ByteText) : Routine (σ × Bool × List ByteText × Option Errno) :=
  match fuel with
  | 0 => pure (state, true, output, none)
  | fuel + 1 => do
    match ← Routine.read descriptor Routine.blockSize with
    | .error e => return (state, false, output, some e)
    | .ok [] =>
      if unfinished = [] then return (state, false, output, none)
      else
        let s := step state unfinished
        return (s.state, s.stops, s.output :: output, none)
    | .ok text =>
      let ls := cutLines (unfinished ++ text)
      let (complete, unfinished) := match ls.getLast? with
        | some l => if l.getLast? = some '\n' then (ls, []) else (ls.dropLast, l)
        | none => ([], [])
      let (state, output, stopped) := overLines step state output complete
      let (failure, output) ← release false output
      if stopped || failure.isSome then return (state, stopped, output, failure)
      streamLines descriptor step fuel state output unfinished

/-- Goes over the lines of all operands. Returns the last state and an exit code. -/
def filterLines (name : ByteText) (step : σ → ByteText → Step σ) (state : σ) (output : List ByteText) (code : Nat) :
    List ByteText → Routine (σ × List ByteText × Nat)
  | [] => pure (state, output, code)
  | path :: rest => do
    match ← openOperand path with
    | .error e =>
      complainOf name path e
      filterLines name step state output 1 rest
    | .ok n =>
      let (state, stopped, output, failure) ← streamLines n step Routine.manyRounds state output []
      closeOperand path n
      match failure with
      | some e =>
        complainOf name path e
        filterLines name step state output 1 rest
      | none => if stopped then return (state, output, code) else filterLines name step state output code rest

/-- Goes over the lines of the operands and writes what comes of each, and something at the end. -/
def filter (name : ByteText) (operands : List ByteText) (state : σ) (step : σ → ByteText → Step σ)
    (ending : σ → ByteText) : Routine (σ × Nat) := do
  let (state, output, code) ← filterLines name step state [] 0 (orInput operands)
  let written ← emit name ((ending state :: output).reverse.flatten)
  return (state, max code written)

end Tool

end OrderlyExit
