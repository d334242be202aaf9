import OrderlyExit.Shell.Token

/-!
The commands of a shell script.

A pipeline is written as a command whose output goes to another one, and the branches of a case as commands
that name the next branch, so that commands are made of commands only.
-/

namespace OrderlyExit.Shell

inductive RedirectionKind
  | read
  | write
  | append
  | readWrite
  /-- Writes even where files are protected. -/
  | clobber
  | duplicateInput
  | duplicateOutput
  /-- From a document in the script. -/
  | document
  /-- From one word and the end of a line. -/
  | text
  /-- Output and errors. -/
  | both
  | bothAppend
  deriving DecidableEq, Repr

structure Redirection where
  descriptor : Nat
  kind : RedirectionKind
  target : Word
  deriving DecidableEq, Repr

structure Assignment where
  name : List Char
  /-- Which element of a list it is for. -/
  subscript : Option Word := none
  /-- The value is put behind the present one. -/
  appends : Bool := false
  value : Word
  deriving DecidableEq, Repr

/-- A command without parts that are commands. -/
structure SimpleCommand where
  assignments : List Assignment := []
  words : List Word := []
  redirections : List Redirection := []
  line : Nat := 0
  deriving DecidableEq, Repr, Inhabited

/-- What happens at the end of a branch that was chosen. -/
inductive BranchEnd
  | leave
  /-- The next branch runs too. -/
  | fallThrough
  /-- The next branches are tried too. -/
  | tryNext
  deriving DecidableEq, Repr

/-- A condition of the extended form between double brackets. -/
inductive Test
  | word (w : Word)
  | unary (op : List Char) (w : Word)
  | binary (a : Word) (op : List Char) (b : Word)
  | negation (t : Test)
  | conjunction (a b : Test)
  | disjunction (a b : Test)
  deriving Repr, Inhabited

inductive Command
  | simple (c : SimpleCommand)
  | group (body : Command) (redirections : List Redirection) (line : Nat)
  | subshell (body : Command) (redirections : List Redirection) (line : Nat)
  | sequence (first second : Command)
  | conjunction (first second : Command)
  | disjunction (first second : Command)
  | negation (c : Command)
  | background (c : Command)
  /-- The output of the first, and its errors with `errorsToo`, is the input of the rest. -/
  | pipe (first : Command) (errorsToo : Bool) (rest : Command)
  | conditional (condition yes no : Command)
  /-- Runs its body as long as the condition succeeds, or, with `stopOnSuccess`, until it does. -/
  | loop (stopOnSuccess : Bool) (condition body : Command)
  | forEach (name : List Char) (words : List Word) (body : Command) (line : Nat)
  /-- A loop that is governed by three expressions. -/
  | counted (start condition step : List Char) (body : Command) (line : Nat)
  | choose (subject : Word) (branches : Command) (line : Nat)
  | branch (patterns : List Word) (body : Command) (ending : BranchEnd) (next : Command)
  | define (name : List Char) (body : Command) (line : Nat)
  | arithmetic (text : List Char) (line : Nat)
  | condition (t : Test) (line : Nat)
  | nothing
  deriving Inhabited

namespace Command

/-! ### Words with a meaning of their own -/

/-- The text of a word without quotes and parameters. -/
def bareText? : Word → Option (List Char)
  | [] => some []
  | .char c false :: rest => (bareText? rest).map (c :: ·)
  | _ :: _ => none

def reservedWords (d : Dialect) : List (List Char) :=
  ["if".toList, "then".toList, "else".toList, "elif".toList, "fi".toList, "while".toList, "until".toList,
   "do".toList, "done".toList, "for".toList, ['{'], ['}'], ['!'], "case".toList, "esac".toList, "in".toList] ++
  if d = .extended then ["[[".toList, "]]".toList, "function".toList, "time".toList] else []

/-- The reserved word that a token is. -/
def reserved? (d : Dialect) : Token → Option (List Char)
  | .word w _ => (bareText? w).filter (reservedWords d).contains
  | _ => none

/-- The words that end a list of commands. -/
def closers : List (List Char) :=
  ["then".toList, "else".toList, "elif".toList, "fi".toList, "do".toList, "done".toList, ['}'], "esac".toList]

/-- Whether a token ends a list of commands. -/
def closes (t : Token) : Bool :=
  match t with
  | .operator .closeParen _ | .operator .doubleSemicolon _ | .operator .fallThrough _ | .operator .tryNext _ => true
  | .word w _ => (bareText? w).any closers.contains
  | _ => false

def isNewline (t : Token) : Bool :=
  match t with
  | .operator .newline _ => true
  | _ => false

def skipNewlines (ts : List Token) : List Token := ts.dropWhile isNewline

/-- Commands of the plain form that its grammar depends on. Their faults end the shell, assignments in front of
them stay, and no function has such a name. -/
def special : List (List Char) :=
  [['.'], [':'], "break".toList, "continue".toList, "eval".toList, "exec".toList, "exit".toList, "export".toList,
   "local".toList, "readonly".toList, "return".toList, "set".toList, "shift".toList, "times".toList, "trap".toList,
   "unset".toList]

/-- Whether a text is a name. -/
def isName (cs : List Char) : Bool := cs.head?.any Token.isNameStart && cs.all Token.isName

/-- The word up to an unquoted bracket that closes, and what follows it. -/
def splitSubscript : Word → Option (Word × Word)
  | [] => none
  | .char ']' false :: rest => some ([], rest)
  | p :: rest => (splitSubscript rest).map fun (inside, after) => (p :: inside, after)

/-- The assignment that a word is. -/
def assignment? (d : Dialect) (w : Word) : Option Assignment :=
  let name := w.takeWhile fun p => match p with
    | .char c false => Token.isName c
    | _ => false
  match bareText? name with
  | some (c :: cs) =>
    if !Token.isNameStart c then none
    else
      let plain (subscript : Option Word) (rest : Word) : Option Assignment :=
        match rest with
        | .char '=' false :: value => some { name := c :: cs, subscript, value }
        | .char '+' false :: .char '=' false :: value =>
          if d = .extended then some { name := c :: cs, subscript, appends := true, value } else none
        | _ => none
      match w.drop name.length with
      | .char '[' false :: rest =>
        if d = .extended then (splitSubscript rest).bind fun (inside, rest) => plain (some inside) rest else none
      | rest => plain none rest
  | _ => none

/-- The text of a token in complaints. -/
def tokenText : Token → String
  | .word .. => "word"
  | .descriptor _ | .document _ => "redirection"
  | .arithmetic .. => "\"((\""
  | .broken reason _ => reason
  | .unclosed .. => "end of file"
  | .operator o _ =>
    if Token.isRedirection o then "redirection"
    else
      match (Token.moreOperators ++ Token.operators).find? (·.2 = o) with
      | some (text, _) => if o = .newline then "newline" else "\"" ++ String.ofList text ++ "\""
      | none => "redirection"

end Command

end OrderlyExit.Shell
