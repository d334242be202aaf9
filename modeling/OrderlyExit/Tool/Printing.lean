import OrderlyExit.Shell.Condition
import OrderlyExit.Tool.Basic

/-!
Programs that print what their arguments say, and the one that decides conditions.
-/

namespace OrderlyExit.Tool

open Host (Routine Environment)

/-- A program that does nothing. -/
def constant (code : Nat) : Tool := fun _ _ => pure code

def echo : Tool := fun args _ => emit (args.headD []) (Shell.Printing.echo .program (args.drop 1))

def printf : Tool := fun args _ => do
  let name := args.headD []
  let rest := if args[1]? = some ['-', '-'] then args.drop 2 else args.drop 1
  match rest with
  | [] => misuse name "missing operand".toList 1
  | format :: args =>
    let p := Shell.Printing.printf .program format args
    for text in Shell.Printing.complaintsOf p.chunks do complain name text
    let written ← emit name (Shell.Printing.outputOf p.chunks)
    return max p.status written

/-- Decides a condition. -/
def decideAll (name : ByteText) (ws : List ByteText) : Routine Nat := do
  match ← Shell.Condition.decide .program ws with
  | .ok b => return if b then 0 else 1
  | .error f =>
    complain name (f.message .program)
    return 2

def test : Tool := fun args _ => decideAll (args.headD []) (args.drop 1)

/-- A condition between brackets. -/
def bracket : Tool := fun args _ =>
  let name := args.headD []
  if args.length > 1 && args.getLast? = some [']'] then decideAll name (args.drop 1).dropLast
  else do
    complain name ("missing ".toList ++ quoted [']'])
    return 2

/-! ### Repeating -/

/-- About how much is written at once. -/
def portion : Nat := 1024

/-- Writes a text again and again until that fails. -/
def writeAgain (name text : ByteText) (fuel : Nat) : Routine Nat :=
  match fuel with
  | 0 => pure 0
  | fuel + 1 => do
    let began ← Routine.now
    match ← Routine.writeAll 1 text with
    | some e =>
      complain name ("standard output: ".toList ++ e.description.toList)
      return 1
    | none =>
      Routine.finishRound began
      writeAgain name text fuel

def yes : Tool := withOptions [] true 1 fun name a _ =>
  let line := ([' '] : List Char).intercalate (if a.operands = [] then [['y']] else a.operands) ++ ['\n']
  let text := (List.replicate (portion / line.length + 1) line).flatten
  writeAgain name text Routine.manyRounds

/-! ### Sequences -/

/-- A decimal number: so many units of the last of its places. -/
structure Decimals where
  units : Int
  places : Nat

/-- Reads a decimal number. -/
def Decimals.read? (text : ByteText) : Option Decimals :=
  let negative := text.head? = some '-'
  let body := if negative || text.head? = some '+' then text.drop 1 else text
  let whole := body.takeWhile Char.isDigit
  let (places, rest) := match body.drop whole.length with
    | '.' :: rest => (rest.takeWhile Char.isDigit, rest.dropWhile Char.isDigit)
    | rest => ([], rest)
  let (e, rest) := Floating.exponent 'e' 'E' rest
  if whole ++ places ≠ [] && rest = [] then
    let n : Int := Decimal.value (whole ++ places)
    let shift := e - places.length
    let size := min shift.toNat Floating.maxExponent
    some ⟨(if negative then -n else n) * Nat.pow 10 size, (-shift).toNat⟩
  else none

/-- The units of a number with more places. -/
def Decimals.scaled (d : Decimals) (places : Nat) : Int := d.units * Nat.pow 10 (places - d.places)

/-- A number of units with a point in front of its places. -/
def pointed (places : Nat) (n : Int) : ByteText :=
  let digits := Decimal.zeroPadded (places + 1) n.natAbs
  let whole := digits.take (digits.length - places)
  (if n < 0 then ['-'] else []) ++ whole ++ if places = 0 then [] else '.' :: digits.drop (digits.length - places)

/-- A number with zeros behind its sign, up to a width. -/
def widened (width : Nat) (text : ByteText) : ByteText :=
  let zeros := List.replicate (width - text.length) '0'
  match text with
  | '-' :: digits => '-' :: zeros ++ digits
  | digits => zeros ++ digits

/-- How many items are written at once. -/
def atOnce : Nat := 256

/-- Writes `count` items from a place on, with a separator between them and a line end behind the last. Each call
has less fuel than its caller. -/
def printItems (name : ByteText) (item : Nat → ByteText) (separator : ByteText) (count fuel from_ : Nat) :
    Routine Nat :=
  match fuel with
  | 0 => pure 0
  | fuel + 1 => do
    if count ≤ from_ then return 0
    let began ← Routine.now
    let size := min atOnce (count - from_)
    let text := (List.range size).flatMap fun i =>
      item (from_ + i) ++ if from_ + i + 1 = count then ['\n'] else separator
    let failure ← emit name text
    if failure ≠ 0 then return failure
    Routine.finishRound began
    printItems name item separator count fuel (from_ + size)

/-- What is wrong with a format for numbers: it must have one conversion, of a number with a fraction. -/
def formatFault? (format : ByteText) : Option ByteText :=
  go (format.length + 1) false format
where
  /-- Goes over the rest of the format; each call has less fuel than its caller. -/
  go (fuel : Nat) (seen : Bool) (s : List Char) : Option ByteText :=
    let said (what : String) : Option ByteText := some ("format ".toList ++ quoted format ++ what.toList)
    match fuel, s with
    | 0, _ => none
    | _, [] => if seen then none else said " has no % directive"
    | fuel + 1, '%' :: '%' :: rest => go fuel seen rest
    | fuel + 1, '%' :: rest =>
      if seen then said " has too many % directives"
      else
        let rest := rest.dropWhile fun c => "-+#0 '".toList.contains c
        let rest := rest.dropWhile Char.isDigit
        let rest := match rest with
          | '.' :: rest => rest.dropWhile Char.isDigit
          | rest => rest
        match if rest.head? = some 'L' then rest.drop 1 else rest with
        | [] => said " ends in %"
        | c :: rest =>
          if "aAeEfFgG".toList.contains c then go fuel true rest
          else some ("format ".toList ++ quoted format ++ " has unknown %".toList ++ c :: " directive".toList)
    | fuel + 1, _ :: rest => go fuel seen rest

/-- A number as a format says, in which backslashes stand for themselves. -/
def formatted (format number : ByteText) : ByteText :=
  let format := format.flatMap fun c => if c = '\\' then ['\\', '\\'] else [c]
  Shell.Printing.outputOf (Shell.Printing.printf .program format [number]).chunks

def seq : Tool := fun args _ => do
  let name := args.headD []
  -- A negative number is no option.
  let rules := flags "w" ++ valued "sf"
  let isNumber (a : ByteText) : Bool := (Decimals.read? a).isSome
  let front := (args.drop 1).takeWhile fun a => !isNumber a
  let a := Arguments.read rules front true
  let operands := a.operands ++ (args.drop 1).drop front.length
  match a.fault with
  | some message => misuse name message 1
  | none =>
    let fault := (operands.find? fun t => !isNumber t).map fun wrong =>
      "invalid floating point argument: ".toList ++ quoted wrong
    let format := a.value? 'f'
    let unfit := if format.isSome && a.has 'w' then
        some "format string may not be specified when printing equal width strings".toList
      else none
    match (format.bind formatFault?), fault.or unfit with
    | some message, _ =>
      complain name message
      return 1
    | none, some message => misuse name message 1
    | none, none =>
      let numbers := operands.filterMap Decimals.read?
      let one : Decimals := ⟨1, 0⟩
      let go (first step last : Decimals) : Routine Nat := do
        if step.units = 0 then
          misuse name ("invalid Zero increment value: ".toList ++ quoted (operands[1]?.getD [])) 1
        else
          let places := max first.places step.places
          let all := max places last.places
          let (f, s, l) := (first.scaled all, step.scaled all, last.scaled all)
          let count := if s > 0 then (if l < f then 0 else ((l - f) / s).toNat + 1)
            else if f < l then 0 else ((f - l) / (-s)).toNat + 1
          let number (i : Nat) : ByteText := pointed places ((f + (i : Int) * s) / (Nat.pow 10 (all - places) : Nat))
          let width := max (number 0).length (number (count - 1)).length
          let item (i : Nat) : ByteText := match format with
            | some format => formatted format (number i)
            | none => if a.has 'w' then widened width (number i) else number i
          printItems name item ((a.value? 's').getD ['\n']) count Routine.manyRounds 0
      match numbers with
      | [] => misuse name "missing operand".toList 1
      | [last] => go one one last
      | [first, last] => go first one last
      | [first, step, last] => go first step last
      | _ => misuse name ("extra operand ".toList ++ quoted (operands[3]?.getD [])) 1

/-! ### Names -/

/-- A path without slashes at its end. -/
def trimSlashes (path : ByteText) : ByteText :=
  let trimmed := (path.reverse.dropWhile (· = '/')).reverse
  if trimmed = [] && path ≠ [] then ['/'] else trimmed

def baseName (path : ByteText) : ByteText :=
  let trimmed := trimSlashes path
  if trimmed = ['/'] then ['/'] else lastPart trimmed

def basename : Tool := withOptions (flags "az" ++ [{ letter := 's', long := "suffix", takesValue := true }]) true 1
    fun name a _ =>
  let cut (suffix path : ByteText) : ByteText :=
    let base := baseName path
    if suffix ≠ [] && suffix.length < base.length && suffix.reverse.isPrefixOf base.reverse then
      base.take (base.length - suffix.length) else base
  match a.operands with
  | [] => misuse name "missing operand".toList 1
  | [path] => emit name (cut ((a.value? 's').getD []) path ++ ['\n'])
  | [path, suffix] =>
    if a.has 'a' || a.has 's' then emit name (joined (a.operands.map (cut ((a.value? 's').getD []))))
    else emit name (cut suffix path ++ ['\n'])
  | operands =>
    if a.has 'a' || a.has 's' then emit name (joined (operands.map (cut ((a.value? 's').getD []))))
    else misuse name ("extra operand ".toList ++ quoted (operands[2]?.getD [])) 1

def dirname : Tool := withOptions (flags "z") true 1 fun name a _ =>
  let parent (path : ByteText) : ByteText :=
    let trimmed := trimSlashes path
    let dir := (trimmed.reverse.dropWhile (· ≠ '/')).reverse
    if trimmed = ['/'] then ['/'] else if dir = [] then ['.'] else trimSlashes dir
  if a.operands = [] then misuse name "missing operand".toList 1 else emit name (joined (a.operands.map parent))

/-! ### Surroundings -/

def printenv : Tool := withOptions (flags "0") true 2 fun name a environment =>
  if a.operands = [] then emit name (joined (environment.map fun (n, v) => n ++ '=' :: v))
  else do
    let found := a.operands.filterMap fun n => environment.lookup n
    let written ← emit name (joined found)
    return if found.length = a.operands.length then written else 1

def pwd : Tool := withOptions (flags "LP") true 1 fun name _ _ => do
  let path : ByteText ← Routine.call .directory
  emit name (path ++ ['\n'])

/-- A program that prints a fixed text. -/
def fixed (text : String) : Tool := fun args _ => emit (args.headD []) (text.toList ++ ['\n'])

def id : Tool := withOptions (flags "ugnGr") true 1 fun name a _ =>
  if a.has 'u' || a.has 'g' || a.has 'G' then emit name (if a.has 'n' then "root\n".toList else "0\n".toList)
  else emit name "uid=0(root) gid=0(root) groups=0(root)\n".toList

def uname : Tool := withOptions (flags "asnrvmpio") true 1 fun name a _ =>
  let parts := [('s', "Linux"), ('n', "host"), ('r', "6.1.0"), ('v', "#1 SMP"), ('m', "x86_64"), ('o', "GNU/Linux")]
  let wanted := parts.filter fun (c, _) => a.has c || a.has 'a' || (a.given = [] && c = 's')
  emit name (([' '] : List Char).intercalate (wanted.map fun (_, t) => t.toList) ++ ['\n'])

/-- Seconds since the epoch at the start of a host. -/
def startOfTime : Nat := 1700000000

/-- A date in the calendar: the year, the month and the day of a number of days since the epoch. -/
def civil (days : Nat) : Nat × Nat × Nat :=
  let z := days + 719468
  let era := z / 146097
  let doe := z % 146097
  let yoe := (doe - doe / 1460 + doe / 36524 - doe / 146096) / 365
  let doy := doe - (365 * yoe + yoe / 4 - yoe / 100)
  let mp := (5 * doy + 2) / 153
  let month := if mp < 10 then mp + 3 else mp - 9
  (yoe + era * 400 + (if month ≤ 2 then 1 else 0), month, doy - (153 * mp + 2) / 5 + 1)

/-- What a letter in a format for dates stands for, at a number of nanoseconds since the epoch. -/
def datePart (nanos : Nat) (c : Char) : ByteText :=
  let seconds := nanos / 1000000000
  let (year, month, day) := civil (seconds / 86400)
  let time := seconds % 86400
  let two (n : Nat) : ByteText := Decimal.zeroPadded 2 n
  match c with
  | 's' => Decimal.digits seconds
  | 'N' => Decimal.zeroPadded 9 (nanos % 1000000000)
  | 'Y' => Decimal.digits year
  | 'm' => two month
  | 'd' => two day
  | 'H' => two (time / 3600)
  | 'M' => two (time / 60 % 60)
  | 'S' => two (time % 60)
  | 'F' => Decimal.digits year ++ '-' :: two month ++ '-' :: two day
  | 'T' => two (time / 3600) ++ ':' :: two (time / 60 % 60) ++ ':' :: two (time % 60)
  | 'Z' => "UTC".toList
  | '%' => ['%']
  | 'n' => ['\n']
  | c => ['%', c]

/-- Writes a moment as a format says. -/
def dateText (nanos : Nat) : List Char → ByteText
  | '%' :: c :: rest => datePart nanos c ++ dateText nanos rest
  | c :: rest => c :: dateText nanos rest
  | [] => []

def date : Tool := withOptions (flags "uIR" ++ valued "d") true 1 fun name a _ => do
  let now ← Routine.now
  let nanos := startOfTime * 1000000000 + now
  match a.operands with
  | ('+' :: format) :: _ => emit name (dateText nanos format ++ ['\n'])
  | _ => emit name (dateText nanos "%F %T UTC".toList ++ ['\n'])

end OrderlyExit.Tool
