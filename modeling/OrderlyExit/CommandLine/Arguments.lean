/-!
Arguments on a command line, by the usual rules: long options with two hyphens, short ones with one, a
value behind an equals sign or as the next argument, operands, and two hyphens before operands only.
-/

namespace OrderlyExit.CommandLine

/-- An option that a program knows. -/
structure OptionRule where
  long : List Char
  short : Option Char := none
  takesValue : Bool
  deriving DecidableEq, Repr

/-- What an argument says. -/
inductive Item
  | flag (name : List Char)
  | option (name value : List Char)
  | operand (value : List Char)
  | help
  /-- The argument is no option that the program knows, or it lacks its value. -/
  | fault
  deriving DecidableEq, Repr

/-- Whether an argument cannot be the value of the option before it. -/
def looksLikeOption (arg : List Char) : Bool := arg.head? = some '-' && arg ≠ ['-']

/-- A name, and the value behind an equals sign. -/
def splitValue (arg : List Char) : List Char × Option (List Char) :=
  match arg.dropWhile (· ≠ '=') with
  | [] => (arg, none)
  | _ :: value => (arg.takeWhile (· ≠ '='), some value)

/-- What the arguments say, up to a request for help or the first fault. -/
def items (rules : List OptionRule) (args : List (List Char)) : List Item :=
  match args with
  | [] => []
  | ['-', '-'] :: rest => rest.map .operand
  | ('-' :: '-' :: body) :: rest =>
    match splitValue body with
    | (name, value) =>
      if name = "help".toList then [if value.isNone then .help else .fault]
      else match rules.find? (·.long = name) with
        | none => [.fault]
        | some rule =>
          match rule.takesValue, value with
          | true, some v => .option name v :: items rules rest
          | false, none => .flag name :: items rules rest
          | false, some _ => [.fault]
          | true, none =>
            match rest with
            | [] => [.fault]
            | v :: rest => if looksLikeOption v then [.fault] else .option name v :: items rules rest
  | ('-' :: c :: attached) :: rest =>
    if c = 'h' then [.help]
    else match rules.find? (·.short = some c) with
      | none => [.fault]
      | some rule =>
        match rule.takesValue, attached with
        | false, [] => .flag rule.long :: items rules rest
        | false, _ => [.fault]
        | true, '=' :: v => .option rule.long v :: items rules rest
        | true, _ :: _ => .option rule.long attached :: items rules rest
        | true, [] =>
          match rest with
          | [] => [.fault]
          | v :: rest => if looksLikeOption v then [.fault] else .option rule.long v :: items rules rest
  | operand :: rest => .operand operand :: items rules rest

/-- What a program makes of its arguments. -/
inductive Usage (α : Type u)
  | run (options : α)
  /-- Help is asked for. -/
  | help
  /-- The arguments cannot be used. -/
  | wrong
  deriving DecidableEq, Repr

/-- Takes in item by item; the first one that `step` refuses makes the usage wrong. -/
def collect (step : α → Item → Option α) (options : α) : List Item → Usage α
  | [] => .run options
  | .help :: _ => .help
  | .fault :: _ => .wrong
  | item :: rest =>
    match step options item with
    | some options => collect step options rest
    | none => .wrong

/-- The exit code of a program that is used wrongly. -/
def wrongUsageCode : Nat := 2

end OrderlyExit.CommandLine
