import OrderlyExit.Shell.Command

/-!
Other spellings of commands: a word at the place of a command's name is replaced by what it stands for, and
behind a spelling that ends in a blank so is the next word.

Each token that comes out carries the number of tokens of the script behind the one that it comes from, so
that a script can be left in the middle, where the spellings may change.
-/

namespace OrderlyExit.Shell.Aliases

/-- Whether the name of a command may follow an operator. -/
def introduces : Operator → Bool
  | .newline | .semicolon | .doubleSemicolon | .ampersand | .andIf | .orIf | .pipe | .pipeAll | .openParen
  | .closeParen => true
  | _ => false

/-- What is known before a token. -/
inductive Place
  /-- The name of a command may stand here. -/
  | command
  /-- So may it, after the target of a redirection. -/
  | target
  | argument
  deriving DecidableEq

/-- The place after a word at the place of a name. -/
def after (d : Dialect) (w : Word) (t : Token) : Place :=
  match Command.reserved? d t with
  | some r =>
    if ["for".toList, "case".toList, "in".toList, "function".toList, "[[".toList].contains r then .argument else .command
  | none => if (Command.assignment? d w).isSome then .command else .argument

/-- What a word stands for. -/
structure Spelling where
  tokens : List Token
  /-- The place behind them. -/
  place : Place
  /-- It ends in a blank. -/
  continues : Bool

/-- A token with the number of tokens behind it. -/
abbrev Marked := Token × Nat

/-- The place behind an operator. -/
def afterOperator (o : Operator) (place : Place) : Place :=
  if introduces o then .command else if Token.isRedirection o ∧ place = .command then .target else place

/-- Replaces words. `meaning` gives what a word of a line stands for at a place, and with `next` the first word is
replaced at any place. The answer has the place at the end. -/
def replace (d : Dialect) (meaning : Nat → Place → List Char → Option Spelling) (place : Place) (next : Bool)
    (left : Nat) : List Token → List Marked × Place
  | [] => ([], place)
  | .word w line :: rest =>
    let keep (place : Place) : List Marked × Place :=
      let (ts, last) := replace d meaning place false (left - 1) rest
      ((.word w line, left - 1) :: ts, last)
    let replaced (place : Place) (otherwise : Place) : List Marked × Place :=
      match (Command.bareText? w).bind (meaning line place) with
      | some s =>
        let (ts, last) := replace d meaning s.place s.continues (left - 1) rest
        (s.tokens.map (·, left - 1) ++ ts, last)
      | none => keep otherwise
    match place with
    | .argument => if next then replaced .argument .argument else keep .argument
    | .target => keep .command
    | .command =>
      if (Command.reserved? d (.word w line)).isSome then keep (after d w (.word w line))
      else replaced .command (after d w (.word w line))
  | .operator o line :: rest =>
    let (ts, last) := replace d meaning (afterOperator o place) false (left - 1) rest
    ((.operator o line, left - 1) :: ts, last)
  | t :: rest =>
    let (ts, last) := replace d meaning place next (left - 1) rest
    ((t, left - 1) :: ts, last)

/-- What a name stands for in a line; a spelling is not used inside itself. Each call has less fuel than its
caller. -/
def meaning (d : Dialect) (fuel : Nat) (aliases : List (List Char × List Char)) (line : Nat) (place : Place)
    (name : List Char) : Option Spelling :=
  match fuel with
  | 0 => none
  | fuel + 1 =>
    match aliases.lookup name with
    | none => none
    | some text =>
      let others := aliases.filter (·.1 ≠ name)
      let (ts, last) := replace d (meaning d fuel others) place true 0 (Token.ofScript d line text)
      some { tokens := ts.map (·.1), place := last, continues := text.getLast?.any Token.isBlank }

/-- A script with other spellings replaced. -/
def expand (d : Dialect) (aliases : List (List Char × List Char)) (ts : List Token) : List Marked :=
  (replace d (meaning d (aliases.length + 1) aliases) .command false ts.length ts).1

/-- What is left of a script when only some of its expanded tokens are left: those that come from a token that is
half done, and the tokens behind it as they stand in the script. -/
def remainder (ts : List Token) (expanded : List Marked) (left : Nat) : List Token :=
  match (expanded.drop (expanded.length - left - 1)).head? with
  | none => ts
  | some (_, mark) =>
    ((expanded.drop (expanded.length - left)).takeWhile (·.2 = mark)).map (·.1) ++ ts.drop (ts.length - mark)

end OrderlyExit.Shell.Aliases
