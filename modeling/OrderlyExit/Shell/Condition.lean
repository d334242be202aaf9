import OrderlyExit.Host.Call
import OrderlyExit.Shell.Printing

/-!
Conditions, as the command `test` decides them: texts, whole numbers, and what stands at a path. They are
read from their words first and decided then. What makes no sense is a fault.
-/

namespace OrderlyExit.Shell

open Host (Routine FileFacts FileKind)
open Printing (Make)

inductive Condition
  | constant (b : Bool)
  | unary (op arg : ByteText)
  | binary (a op b : ByteText)
  | negation (c : Condition)
  | conjunction (a b : Condition)
  | disjunction (a b : Condition)
  deriving Repr, Inhabited

namespace Condition

/-- What is wrong with a condition. -/
inductive Fault
  | unexpected (word : ByteText)
  | missingArgument (word : ByteText)
  | unaryExpected (word : ByteText)
  | binaryExpected (word : ByteText)
  | tooMany
  | unclosed
  | notNumber (word : ByteText)
  deriving DecidableEq, Repr

def Fault.message (make : Make) (f : Fault) : ByteText :=
  let mark (w : ByteText) : ByteText :=
    ByteText.ofBytes (Utf8.encode ['‘']) ++ w ++ ByteText.ofBytes (Utf8.encode ['’'])
  match make, f with
  | .plain, .unexpected w | .plain, .unaryExpected w | .plain, .binaryExpected w => w ++ ": unexpected operator".toList
  | .plain, .missingArgument w => w ++ ": argument expected".toList
  | .plain, .tooMany => "unexpected operator".toList
  | .plain, .unclosed => "closing paren expected".toList
  | .plain, .notNumber w => "Illegal number: ".toList ++ w
  | .extended, .unexpected w | .extended, .unaryExpected w => w ++ ": unary operator expected".toList
  | .extended, .binaryExpected w => w ++ ": binary operator expected".toList
  | .extended, .missingArgument _ => "argument expected".toList
  | .extended, .tooMany => "too many arguments".toList
  | .extended, .unclosed => "\x60)' expected".toList
  | .extended, .notNumber w => w ++ ": integer expression expected".toList
  | .program, .unexpected w => "extra argument ".toList ++ mark w
  | .program, .unaryExpected w => mark w ++ ": unary operator expected".toList
  | .program, .binaryExpected w => mark w ++ ": binary operator expected".toList
  | .program, .missingArgument w => "missing argument after ".toList ++ mark w
  | .program, .tooMany => "extra argument".toList
  | .program, .unclosed => mark [')'] ++ " expected".toList
  | .program, .notNumber w => "invalid integer ".toList ++ mark w

def isUnary (make : Make) (op : ByteText) : Bool :=
  match op with
  | ['-', c] => "bcdefgGhkLnNOprsStuwxz".toList.contains c || (make = .extended && (c = 'v' || c = 'o' || c = 'a'))
  | _ => false

def isBinary (make : Make) (op : ByteText) : Bool :=
  ["=".toList, "!=".toList, "-eq".toList, "-ne".toList, "-lt".toList, "-le".toList, "-gt".toList, "-ge".toList,
   "-nt".toList, "-ot".toList, "-ef".toList].contains op ||
    (op = "==".toList && make ≠ .plain) || ((op = ['<'] || op = ['>']) && make ≠ .program)

/-! ### Reading -/

/-- Whether a word in front is an operator of one operand, and no operand itself. -/
def actsUnary (make : Make) (ws : List ByteText) : Bool :=
  match ws with
  | op :: next :: rest =>
    isUnary make op && (match rest with
      | [] => true
      | third :: _ => !(isBinary make next && third ≠ [')']))
  | _ => false

mutual

def readOr (make : Make) (fuel : Nat) (ws : List ByteText) : Except Fault (Condition × List ByteText) :=
  match fuel with
  | 0 => .error .tooMany
  | fuel + 1 => do
    let (first, rest) ← readAnd make fuel ws
    match rest with
    | ['-', 'o'] :: rest => do
      let (second, rest) ← readOr make fuel rest
      .ok (.disjunction first second, rest)
    | rest => .ok (first, rest)

def readAnd (make : Make) (fuel : Nat) (ws : List ByteText) : Except Fault (Condition × List ByteText) :=
  match fuel with
  | 0 => .error .tooMany
  | fuel + 1 => do
    let (first, rest) ← readNot make fuel ws
    match rest with
    | ['-', 'a'] :: rest => do
      let (second, rest) ← readAnd make fuel rest
      .ok (.conjunction first second, rest)
    | rest => .ok (first, rest)

def readNot (make : Make) (fuel : Nat) (ws : List ByteText) : Except Fault (Condition × List ByteText) :=
  match fuel with
  | 0 => .error .tooMany
  | fuel + 1 =>
    match ws with
    | ['!'] :: w :: rest => do
      let (c, rest) ← readNot make fuel (w :: rest)
      .ok (.negation c, rest)
    | ws => readPrimary make fuel ws

def readPrimary (make : Make) (fuel : Nat) (ws : List ByteText) : Except Fault (Condition × List ByteText) :=
  match fuel with
  | 0 => .error .tooMany
  | fuel + 1 =>
    match ws with
    | [] => if make = .plain then .ok (.constant false, []) else .error (.missingArgument [])
    | ['('] :: w :: rest => do
      let (c, rest) ← readOr make fuel (w :: rest)
      match rest with
      | [')'] :: rest => .ok (c, rest)
      | _ => .error .unclosed
    | a :: rest =>
      if actsUnary make ws then
        match rest with
        | arg :: rest => .ok (.unary a arg, rest)
        | [] => .error (.missingArgument a)
      else
        match rest with
        | op :: more =>
          if isBinary make op then
            match more with
            | b :: rest => .ok (.binary a op b, rest)
            | [] => .error (.missingArgument (if make = .plain then op else a))
          else .ok (.constant (a ≠ []), rest)
        | [] => .ok (.constant (a ≠ []), [])

end

/-- Reads a condition of any length. -/
def readLong (make : Make) (ws : List ByteText) : Except Fault Condition :=
  match readOr make (8 * ws.length + 8) ws with
  | .ok (c, []) => .ok c
  | .ok (_, rest) =>
    .error (match make with
      | .plain => .unexpected (ws[ws.length - rest.length - 1]?.getD [])
      | .extended => .tooMany
      | .program => .unexpected (rest.head?.getD []))
  | .error f => .error f

/-- Reads a condition of two words. -/
def readTwo (make : Make) (a b : ByteText) : Except Fault Condition :=
  if a = ['!'] then .ok (.constant (b = []))
  else if isUnary make a then .ok (.unary a b)
  else match make with
    | .plain => if isBinary make b then .error (.missingArgument b) else if b = ['-', 'a'] then .ok (.constant false)
      else if b = ['-', 'o'] then .ok (.constant (a ≠ [])) else .error (.unexpected a)
    | .extended => .error (.unaryExpected a)
    | .program => .error (.missingArgument b)

/-- Reads a condition. How many words it has decides first what they mean. -/
def read (make : Make) (ws : List ByteText) : Except Fault Condition :=
  match ws with
  | [] => .ok (.constant false)
  | [a] => .ok (.constant (a ≠ []))
  | [a, b] => readTwo make a b
  | [a, op, b] =>
    if isBinary make op then .ok (.binary a op b)
    else if make ≠ .plain && op = ['-', 'a'] then .ok (.constant (a ≠ [] && b ≠ []))
    else if make ≠ .plain && op = ['-', 'o'] then .ok (.constant (a ≠ [] || b ≠ []))
    else if a = ['!'] then (readTwo make op b).map .negation
    else if a = ['('] ∧ b = [')'] then .ok (.constant (op ≠ []))
    else if make = .plain then readLong make ws
    else .error (.binaryExpected op)
  | [a, b, c, d] =>
    if a = ['!'] then
      if isBinary make c then .ok (.negation (.binary b c d)) else (readLong make [b, c, d]).map .negation
    else if a = ['('] ∧ d = [')'] then readTwo make b c
    else readLong make ws
  | ws => readLong make ws

/-! ### Deciding -/

/-- A whole number with white space around it. -/
def integer? (cs : ByteText) : Option Int :=
  let body := (cs.dropWhile Arithmetic.isSpace).reverse.dropWhile Arithmetic.isSpace |>.reverse
  let negative := body.head? = some '-'
  let digits := if negative || body.head? = some '+' then body.drop 1 else body
  let half := UInt64.size / 2
  match Decimal.value? digits with
  | some n => if n < half || (negative && n = half) then some (if negative then -(n : Int) else n) else none
  | none => none

/-- Facts about a path, if something stands there. -/
def factsOf (path : ByteText) : Routine (Option FileFacts) := return (← Routine.facts path).toOption

def decideUnary (op arg : ByteText) : Routine Bool := do
  match String.ofList op with
  | "-n" => return arg ≠ []
  | "-z" => return arg = []
  | "-t" | "-v" | "-o" | "-h" | "-L" | "-S" | "-b" | "-g" | "-k" | "-u" | "-N" => return false
  | "-e" | "-r" | "-w" | "-a" | "-O" | "-G" => return (← factsOf arg).isSome
  | "-f" => return (← factsOf arg).any (·.kind = .regular)
  | "-d" => return (← factsOf arg).any (·.kind = .directory)
  | "-c" => return (← factsOf arg).any (·.kind = .device)
  | "-p" => return (← factsOf arg).any (·.kind = .pipe)
  | "-s" => return (← factsOf arg).any (0 < ·.size)
  | "-x" => return (← factsOf arg).any fun f => f.kind = .directory || f.permissions &&& 0o111 != 0
  | _ => return false

/-- Whether two whole numbers stand in a relation. -/
def compare (op : ByteText) (a b : Int) : Bool :=
  match String.ofList op with
  | "-eq" => a = b
  | "-ne" => a ≠ b
  | "-lt" => a < b
  | "-le" => a ≤ b
  | "-gt" => a > b
  | "-ge" => a ≥ b
  | _ => false

def decideBinary (a op b : ByteText) : Routine (Except Fault Bool) := do
  match String.ofList op with
  | "=" | "==" => return .ok (a = b)
  | "!=" => return .ok (a ≠ b)
  | "<" => return .ok (a < b)
  | ">" => return .ok (b < a)
  | "-nt" => return .ok ((← factsOf a).isSome && (← factsOf b).isNone)
  | "-ot" => return .ok ((← factsOf a).isNone && (← factsOf b).isSome)
  | "-ef" =>
    let x ← factsOf a
    let y ← factsOf b
    return .ok (match x, y with
      | some x, some y => x = y
      | _, _ => false)
  | _ =>
    match integer? a, integer? b with
    | some x, some y => return .ok (compare op x y)
    | none, _ => return .error (.notNumber a)
    | _, none => return .error (.notNumber b)

/-- Whether a condition holds. -/
def holds : Condition → Routine (Except Fault Bool)
  | .constant b => pure (.ok b)
  | .unary op arg => return .ok (← decideUnary op arg)
  | .binary a op b => decideBinary a op b
  | .negation c => return (← holds c).map not
  | .conjunction a b => do
    match ← holds a with
    | .ok x => return (← holds b).map (x && ·)
    | .error f => return .error f
  | .disjunction a b => do
    match ← holds a with
    | .ok x => return (← holds b).map (x || ·)
    | .error f => return .error f

/-- Decides a condition from its words. -/
def decide (make : Make) (ws : List ByteText) : Routine (Except Fault Bool) :=
  match read make ws with
  | .error f => pure (.error f)
  | .ok c => holds c

end Condition

end OrderlyExit.Shell
