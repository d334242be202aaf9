import OrderlyExit.Shell.Builtin.Basic
import OrderlyExit.Shell.Expansion

/-!
The commands that take something in: a line of input, many lines, the next option among arguments.
-/

namespace OrderlyExit.Shell.Builtin

open Host (Routine)

/-! ### Lines -/

/-- A character of a line that is read; a quoted one separates nothing. -/
structure LineChar where
  char : Char
  quoted : Bool := false
  deriving DecidableEq

/-- How a line is read. -/
structure LineMode where
  /-- A backslash is an ordinary character. -/
  raw : Bool := false
  stop : Char := '\n'
  /-- At most so many characters, if there is a limit. -/
  most : Option Nat := none
  /-- Until when input may arrive. -/
  deadline : Option Nat := none

/-- What has been read: the line, and the status. -/
structure LineRead where
  chars : List LineChar
  status : Nat

/-- Reads the next character, in time; nothing at the end of the input. -/
def nextChar (m : LineMode) : Routine (Except Nat Char) := do
  let ready ← match m.deadline with
    | none => pure true
    | some time => Routine.call (.awaitInput 0 time)
  if !ready then return .error 142
  match ← Routine.read 0 1 with
  | .ok (c :: _) => return .ok c
  | _ => return .error 1

/-- Reads a line. The last character comes first in `sofar`. -/
def readLine (m : LineMode) (fuel : Nat) (sofar : List LineChar) : Routine LineRead :=
  match fuel with
  | 0 => pure ⟨sofar.reverse, 0⟩
  | fuel + 1 => do
    if m.most = some sofar.length then return ⟨sofar.reverse, 0⟩
    match ← nextChar m with
    | .error status => return ⟨sofar.reverse, status⟩
    | .ok c =>
      if c = m.stop then return ⟨sofar.reverse, 0⟩
      else if c = '\x00' then readLine m fuel sofar
      else if c = '\\' && !m.raw then
        match ← nextChar m with
        | .error status => return ⟨sofar.reverse, status⟩
        | .ok '\n' => readLine m fuel sofar
        | .ok c => readLine m fuel (⟨c, true⟩ :: sofar)
      else readLine m fuel (⟨c, false⟩ :: sofar)

/-! ### Fields of a line -/

def isSeparator (separators : List Char) (l : LineChar) : Bool := !l.quoted && separators.contains l.char

def isBlankSeparator (separators : List Char) (l : LineChar) : Bool :=
  isSeparator separators l && (l.char = ' ' || l.char = '\t' || l.char = '\n')

/-- What follows a separator: white space, one other separator, white space. -/
def skipSeparators (separators : List Char) (ls : List LineChar) : List LineChar :=
  let ls := ls.dropWhile (isBlankSeparator separators)
  match ls with
  | l :: rest => if isSeparator separators l then rest.dropWhile (isBlankSeparator separators) else ls
  | [] => []

/-- A line without white space at its end. -/
def trimEnd (separators : List Char) (ls : List LineChar) : List LineChar :=
  (ls.reverse.dropWhile (isBlankSeparator separators)).reverse

/-- What the last of several parameters takes: the rest of the line, without a separator that only ends it. -/
def lastField (separators : List Char) (ls : List LineChar) : List LineChar :=
  let ls := trimEnd separators ls
  let field := ls.takeWhile fun l => !isSeparator separators l
  if (skipSeparators separators (ls.drop field.length)).isEmpty then field else ls

/-- Deals a line out to so many parameters. -/
def deal (separators : List Char) (count : Nat) (ls : List LineChar) : List (List LineChar) :=
  match count with
  | 0 => []
  | 1 => [lastField separators ls]
  | count + 1 =>
    let field := ls.takeWhile fun l => !isSeparator separators l
    field :: deal separators count (skipSeparators separators (ls.drop field.length))

/-- All fields of a line. -/
def allFields (separators : List Char) (fuel : Nat) (ls : List LineChar) : List (List LineChar) :=
  match fuel, ls with
  | 0, _ | _, [] => []
  | fuel + 1, ls =>
    let field := ls.takeWhile fun l => !isSeparator separators l
    field :: allFields separators fuel (skipSeparators separators (ls.drop field.length))

def textOf (ls : List LineChar) : ByteText := ls.map (·.char)

/-- Numbers the elements of a list. -/
def numbered (texts : List ByteText) : Value := .list ((List.range texts.length).zip texts)

/-- Gives the fields of a line to parameters. -/
def assignFields (names : List ByteText) (ls : List LineChar) : Run Unit := do
  let separators := (← get).separators
  let ls := ls.dropWhile (isBlankSeparator separators)
  for (name, field) in names.zip (deal separators names.length ls) do
    Run.assign name (textOf field)

/-- A number of seconds as nanoseconds. -/
def nanoseconds (text : ByteText) : Nat :=
  let whole := text.takeWhile Char.isDigit
  let places := ((text.drop (whole.length + 1)).takeWhile Char.isDigit).take 9
  Decimal.value whole * 1000000000 + Decimal.value (places ++ List.replicate (9 - places.length) '0')

def read : Builtin := fun args => do
  let s ← get
  let o ← if s.isExtended then options "rseE" "pnNtdau" args else options "r" "p" args
  let names := o.rest
  if !s.isExtended && names = [] then Run.fail "arg count".toList 2
  match names.find? (!Command.isName ·) with
  | some name =>
    if s.isExtended then return ← refuseWith ('\x60' :: name) "': not a valid identifier" 1
    else Run.fail (name ++ ": bad variable name".toList) 2
  | none => pure ()
  let now ← Run.routine Routine.now
  let mode : LineMode :=
    { raw := o.has 'r'
      stop := ((o.value? 'd').map fun d => d.head?.getD '\x00').getD '\n'
      most := ((o.value? 'n').or (o.value? 'N')).bind Decimal.value?
      deadline := (o.value? 't').map fun t => now + nanoseconds t }
  let line ← Run.routine (readLine mode Routine.manyRounds [])
  match o.value? 'a' with
  | some name =>
    let separators := s.separators
    let ls := trimEnd separators (line.chars.dropWhile (isBlankSeparator separators))
    Run.assignValue name (numbered ((allFields separators (ls.length + 1) ls).map textOf))
  | none =>
    if names = [] then Run.assign "REPLY".toList (textOf line.chars)
    else if o.has 'N' then Run.assign (names.headD []) (textOf line.chars)
    else assignFields names line.chars
  return line.status

/-- Cuts a text behind each line end. -/
def linesOf (text : ByteText) : List ByteText :=
  match text.splitOn '\n' with
  | [] => []
  | parts =>
    let whole := parts.dropLast.map (· ++ ['\n'])
    match parts.getLast? with
    | some [] | none => whole
    | some rest => whole ++ [rest]

/-- Reads all lines into a list. -/
def mapfile : Builtin := fun args => do
  let o ← options "t" "nOsucCd" args
  let text ← Run.routine (Routine.readAll 0)
  let lines := linesOf (text.toOption.getD [])
  let lines := if o.has 't' then lines.map fun l => if l.getLast? = some '\n' then l.dropLast else l else lines
  let lines := match (o.value? 'n').bind Decimal.value? with
    | some n => if n = 0 then lines else lines.take n
    | none => lines
  Run.assignValue (o.rest.headD "MAPFILE".toList) (numbered lines)
  return 0

/-! ### Options among arguments -/

/-- What is found when options are read one by one. -/
inductive Found
  | done
  | option (c : Char) (value : Option ByteText)
  | wrong (c : Char)
  | incomplete (c : Char)

/-- The next option: what it is, the number of the next argument, and the place inside of the present one. -/
def nextOption (letters : ByteText) (args : List ByteText) (index place : Nat) : Found × Nat × Nat :=
  let current := if place = 0 then none else (args[index - 2]?).map (·.drop place)
  let (letter, index) : Option ByteText × Nat :=
    match current with
    | some (c :: cs) => (some (c :: cs), index)
    | _ =>
      match args[index - 1]? with
      | some ('-' :: c :: cs) => if c = '-' ∧ cs = [] then (none, index + 1) else (some (c :: cs), index + 1)
      | _ => (none, index)
  match letter with
  | none | some [] => (.done, index, 0)
  | some (c :: rest) =>
    let place := if rest = [] then 0 else ((args[index - 2]?).getD []).length - rest.length
    let known := letters.dropWhile (· = ':')
    match known.dropWhile (· ≠ c) with
    | [] => (.wrong c, index, place)
    | _ :: after =>
      if after.head? = some ':' then
        if rest ≠ [] then (.option c (some rest), index, 0)
        else
          match args[index - 1]? with
          | some value => (.option c (some value), index + 1, 0)
          | none => (.incomplete c, index, 0)
      else (.option c none, index, place)

def getopts : Builtin := fun args => do
  let s ← get
  match args with
  | letters :: name :: rest =>
    let args := if rest = [] then s.args else rest
    let index := max 1 ((Decimal.value? (s.textOrNone "OPTIND")).getD 1)
    let (found, index, place) := nextOption letters args index (if index ≤ 1 then 0 else s.optionPlace)
    let quiet := letters.head? = some ':'
    let complain (plain extended : ByteText) : Run Unit := do
      if !quiet then
        discard <| Run.write 2 (if s.isExtended then s.name ++ ": ".toList ++ extended ++ ['\n'] else plain ++ ['\n'])
    let clear : Run Unit := modify fun s => s.unbind "OPTARG".toList
    let letter ← match found with
      | .done =>
        if s.isExtended then clear
        pure '?'
      | .option c value =>
        match value with
        | some v => Run.assign "OPTARG".toList v
        | none => if s.isExtended then clear else Run.assign "OPTARG".toList []
        pure c
      | .wrong c =>
        complain ("Illegal option -".toList ++ [c]) ("illegal option -- ".toList ++ [c])
        if quiet then Run.assign "OPTARG".toList [c] else clear
        pure '?'
      | .incomplete c =>
        complain ("No arg for -".toList ++ [c] ++ " option".toList) ("option requires an argument -- ".toList ++ [c])
        if quiet then Run.assign "OPTARG".toList [c] else clear
        pure (if quiet then ':' else '?')
    Run.assign "OPTIND".toList (Decimal.digits index)
    modify fun s => { s with optionPlace := place }
    Run.assign name [letter]
    return match found with
      | .done => 1
      | _ => 0
  | _ =>
    if s.isExtended then refuse "usage: getopts optstring name [arg ...]" 2
    else Run.fail "Usage: getopts optstring var [arg]".toList 2

end OrderlyExit.Shell.Builtin
