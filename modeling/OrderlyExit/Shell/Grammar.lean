import OrderlyExit.Shell.Command

/-!
Reading commands from tokens.

A script is read line by line: a line is read only when the lines before it have run. A compound command
may extend over several lines. What stands in the substitutions of a line has to be readable too, or the
line is not.
-/

namespace OrderlyExit.Shell.Grammar

open Command

/-- Why something cannot be read, and in which line. -/
structure Fault where
  message : String
  line : Nat
  /-- Commands without an end, and their first line; what is wrong inside of them counts more. -/
  inside : Option (List Char × Nat) := none
  deriving DecidableEq, Repr

/-- The line of the first of these tokens that knows its line. -/
def lineOf : List Token → Nat
  | [] => 0
  | .word _ line :: _ | .operator _ line :: _ | .arithmetic _ line :: _ | .broken _ line :: _
  | .unclosed _ _ line :: _ => line
  | _ :: rest => lineOf rest

/-- How a token is called in a complaint. -/
def unexpectedName (d : Dialect) (t : Token) : String :=
  match reserved? d t with
  | some r => "\"" ++ String.ofList r ++ "\""
  | none => tokenText t

/-- The complaint about the first of the tokens. -/
def unexpected (d : Dialect) (ts : List Token) (expecting : String) : Fault :=
  let ending := if expecting = "" then "" else " (expecting " ++ expecting ++ ")"
  match ts with
  | [] => { message := "end of file unexpected" ++ ending, line := 0 }
  | .broken reason line :: _ => { message := reason, line }
  | .unclosed text began line :: _ =>
    { message := "end of file unexpected (expecting \")\")", line, inside := some (text, began) }
  | t :: _ => { message := unexpectedName d t ++ " unexpected" ++ ending, line := lineOf ts }

/-- The rest after the given reserved word. -/
def expect (d : Dialect) (word : String) (ts : List Token) : Except Fault (List Token) :=
  match ts with
  | t :: rest => if reserved? d t = some word.toList then .ok rest else .error (unexpected d ts ("\"" ++ word ++ "\""))
  | [] => .error (unexpected d [] ("\"" ++ word ++ "\""))

/-- Whether the first token is the given reserved word. -/
def starts (d : Dialect) (word : String) (ts : List Token) : Bool :=
  match ts with
  | t :: _ => reserved? d t == some word.toList
  | [] => false

/-! ### Simple commands -/

/-- What the next word of a simple command is. -/
inductive Awaited
  | word
  /-- A redirection of this descriptor must follow. -/
  | redirection (descriptor : Nat)
  | target (descriptor : Nat) (kind : RedirectionKind)

/-- The descriptor that a redirection is for unless it says so, and its kind. -/
def redirection? : Operator → Option (Nat × RedirectionKind)
  | .less => some (0, .read)
  | .great => some (1, .write)
  | .doubleGreat => some (1, .append)
  | .lessAnd => some (0, .duplicateInput)
  | .greatAnd => some (1, .duplicateOutput)
  | .lessGreat => some (0, .readWrite)
  | .clobber => some (1, .clobber)
  | .hereDocument _ => some (0, .document)
  | .hereText => some (0, .text)
  | .bothGreat => some (1, .both)
  | .bothDoubleGreat => some (1, .bothAppend)
  | _ => none

/-- A simple command with one more word. -/
def addWord (d : Dialect) (c : SimpleCommand) (w : Word) (line : Nat) : SimpleCommand :=
  let c := { c with line := if c.line = 0 then line else c.line }
  match c.words, assignment? d w with
  | [], some a => { c with assignments := c.assignments ++ [a] }
  | _, _ => { c with words := c.words ++ [w] }

/-- Reads words and redirections, or redirections only, as far as they go. -/
def readSimple (d : Dialect) (withWords : Bool) (awaited : Awaited) (c : SimpleCommand) :
    List Token → Except Fault (SimpleCommand × List Token)
  | [] =>
    match awaited with
    | .word => .ok (c, [])
    | _ => .error (unexpected d [] "")
  | t :: rest =>
    match awaited, t with
    | .word, .word w line =>
      if withWords then readSimple d true .word (addWord d c w line) rest else .ok (c, t :: rest)
    | .word, .descriptor n => readSimple d withWords (.redirection n) c rest
    | .word, .operator o _ =>
      match redirection? o with
      | some (n, kind) => readSimple d withWords (.target n kind) c rest
      | none => .ok (c, t :: rest)
    | .redirection n, .operator o _ =>
      match redirection? o with
      | some (_, kind) => readSimple d withWords (.target n kind) c rest
      | none => .error (unexpected d (t :: rest) "")
    | .target n kind, .word w line =>
      let c := { c with line := if c.line = 0 then line else c.line }
      readSimple d withWords .word { c with redirections := c.redirections ++ [⟨n, kind, w⟩] } rest
    | .word, _ => .ok (c, t :: rest)
    | _, _ => .error (unexpected d (t :: rest) "")

/-- The redirections after a compound command. -/
def readRedirections (d : Dialect) (ts : List Token) : Except Fault (List Redirection × List Token) :=
  (readSimple d false .word {} ts).map fun (c, rest) => (c.redirections, rest)

/-- The words up to the end of a list of values. -/
def readValues : List Token → List Word × List Token
  | .word w _ :: rest => let (ws, after) := readValues rest; (w :: ws, after)
  | ts => ([], ts)

/-- What follows one separator and any line ends. -/
def skipSeparator (ts : List Token) : List Token :=
  match ts with
  | .operator .semicolon _ :: rest => skipNewlines rest
  | ts => skipNewlines ts

/-- The patterns of a branch, up to the parenthesis behind them. -/
def readPatterns (d : Dialect) : List Token → Except Fault (List Word × List Token)
  | .word w _ :: .operator .pipe _ :: rest => (readPatterns d rest).map fun (ws, rest) => (w :: ws, rest)
  | .word w _ :: .operator .closeParen _ :: rest => .ok ([w], rest)
  | .word _ _ :: rest => .error (unexpected d rest "\")\"")
  | ts => .error (unexpected d ts "word")

/-- How a branch ends. -/
def branchEnd? : List Token → Option (BranchEnd × List Token)
  | .operator .doubleSemicolon _ :: rest => some (.leave, rest)
  | .operator .fallThrough _ :: rest => some (.fallThrough, rest)
  | .operator .tryNext _ :: rest => some (.tryNext, rest)
  | _ => none

/-! ### Conditions between double brackets -/

def isUnary (op : List Char) : Bool :=
  match op with
  | ['-', c] => "abcdefghknoprstuvwxzGLNOSR".toList.contains c
  | _ => false

/-- The operator between two words that a token is. -/
def binary? : Token → Option (List Char)
  | .operator .less _ => some ['<']
  | .operator .great _ => some ['>']
  | .word w _ => (bareText? w).filter fun op =>
      ["=".toList, "==".toList, "!=".toList, "=~".toList, "-eq".toList, "-ne".toList, "-lt".toList, "-le".toList,
       "-gt".toList, "-ge".toList, "-nt".toList, "-ot".toList, "-ef".toList].contains op
  | _ => none

mutual

def readTest (fuel : Nat) (ts : List Token) : Except Fault (Test × List Token) :=
  match fuel with
  | 0 => .error { message := "condition too deep", line := 0 }
  | fuel + 1 => do
    let (first, rest) ← readTestTerm fuel ts
    match skipNewlines rest with
    | .operator .orIf _ :: rest => do
      let (second, rest) ← readTest fuel rest
      .ok (.disjunction first second, rest)
    | _ => .ok (first, rest)

def readTestTerm (fuel : Nat) (ts : List Token) : Except Fault (Test × List Token) :=
  match fuel with
  | 0 => .error { message := "condition too deep", line := 0 }
  | fuel + 1 => do
    let (first, rest) ← readTestFactor fuel ts
    match skipNewlines rest with
    | .operator .andIf _ :: rest => do
      let (second, rest) ← readTestTerm fuel rest
      .ok (.conjunction first second, rest)
    | _ => .ok (first, rest)

def readTestFactor (fuel : Nat) (ts : List Token) : Except Fault (Test × List Token) :=
  match fuel with
  | 0 => .error { message := "condition too deep", line := 0 }
  | fuel + 1 =>
    match skipNewlines ts with
    | .operator .openParen _ :: rest => do
      let (t, rest) ← readTest fuel rest
      match skipNewlines rest with
      | .operator .closeParen _ :: rest => .ok (t, rest)
      | rest => .error (unexpected .extended rest "\")\"")
    | .word a line :: rest =>
      match bareText? a, rest with
      | some ['!'], _ => (readTestFactor fuel rest).map fun (t, rest) => (.negation t, rest)
      | op, t :: .word b line' :: more =>
        match binary? t with
        | some o => .ok (.binary a o b, more)
        | none =>
          match op, t with
          | some op, .word w _ => if isUnary op then .ok (.unary op w, .word b line' :: more) else .error (unexpected .extended rest "")
          | _, _ => .ok (.word a, rest)
      | op, .word w _ :: more =>
        if op.any isUnary then .ok (.unary (op.getD []) w, more) else .ok (.word a, rest)
      | some ['(' ], _ => .error { message := "condition", line := line }
      | _, _ => .ok (.word a, rest)
    | rest => .error (unexpected .extended rest "")

end

/-! ### Documents -/

/-- Moves each document to the word that asked for it; what is returned first are documents that were
asked for further in front. -/
def attach : List Token → List Word × List Token
  | [] => ([], [])
  | .document text :: rest =>
    let (texts, rest) := attach rest
    (text :: texts, rest)
  | .operator (.hereDocument stripsTabs) line' :: .word w line :: rest =>
    let (texts, rest) := attach rest
    (texts.dropLast, .operator (.hereDocument stripsTabs) line' :: .word (texts.getLast?.getD w) line :: rest)
  | t :: rest =>
    let (texts, rest) := attach rest
    (texts, t :: rest)

/-- The tokens of a script with its documents in their places. -/
def tokens (d : Dialect) (line : Nat) (s : List Char) : List Token := (attach (Token.ofScript d line s)).2

/-! ### All commands -/

/-- The expressions that govern a counted loop. -/
def splitExpressions (text : List Char) : Option (List Char × List Char × List Char) :=
  match text.splitOn ';' with
  | [a, b, c] => some (a, b, c)
  | _ => none

/-- Commands in a word, whose output it takes. -/
structure Substitution where
  text : List Char
  line : Nat
  /-- A parenthesis stands at their end. -/
  closed : Bool
  deriving DecidableEq, Repr

/-- The commands in the substitutions of a word. -/
def substitutions (w : Word) : List Substitution := w.filterMap fun p => match p with
  | .command text form _ line => some { text, line, closed := form = .parentheses }
  | .channel text _ line => some { text, line, closed := true }
  | _ => none

/-- How many lines a text has begun. -/
def lineCount (text : List Char) : Nat := (text.filter (· = '\n')).length

def Substitution.lastLine (x : Substitution) : Nat := x.line + lineCount x.text

/-- The tokens of commands, with the parenthesis behind them in the plain form. -/
def Substitution.tokens (d : Dialect) (x : Substitution) : List Token :=
  Grammar.tokens d x.line x.text ++ if x.closed && d = .plain then [.operator .closeParen x.lastLine] else []

mutual

/-- Commands with separators between them. They extend over line ends if `lines` says so. Each call has
less fuel than its caller. -/
def readList (d : Dialect) (fuel : Nat) (lines : Bool) (ts : List Token) : Except Fault (Command × List Token) :=
  match fuel with
  | 0 => .error { message := "too deep", line := lineOf ts }
  | fuel + 1 => do
    let ts := if lines then skipNewlines ts else ts
    if ts.isEmpty then return (nothing, [])
    let (first, rest) ← readAndOr d fuel ts
    let (first, rest, separated) := match rest with
      | .operator .semicolon _ :: rest => (first, rest, true)
      | .operator .ampersand _ :: rest => (background first, rest, true)
      | .operator .newline line :: rest => (first, .operator .newline line :: rest, lines)
      | rest => (first, rest, false)
    let rest := if lines then skipNewlines rest else rest
    match separated, rest with
    | false, _ | true, [] => .ok (first, rest)
    | true, t :: more =>
      if closes t || isNewline t then .ok (first, t :: more)
      else do
        let (second, rest) ← readList d fuel lines (t :: more)
        .ok (sequence first second, rest)

/-- Commands joined by `&&` and `||`. -/
def readAndOr (d : Dialect) (fuel : Nat) (ts : List Token) : Except Fault (Command × List Token) :=
  match fuel with
  | 0 => .error { message := "too deep", line := lineOf ts }
  | fuel + 1 => do
    let (first, rest) ← readPipeline d fuel ts
    readMoreAndOr d fuel first rest

/-- What joins a command that has been read. -/
def readMoreAndOr (d : Dialect) (fuel : Nat) (first : Command) (ts : List Token) : Except Fault (Command × List Token) :=
  match fuel with
  | 0 => .error { message := "too deep", line := lineOf ts }
  | fuel + 1 =>
    match ts with
    | .operator .andIf _ :: rest => do
      let (second, rest) ← readPipeline d fuel (skipNewlines rest)
      readMoreAndOr d fuel (conjunction first second) rest
    | .operator .orIf _ :: rest => do
      let (second, rest) ← readPipeline d fuel (skipNewlines rest)
      readMoreAndOr d fuel (disjunction first second) rest
    | ts => .ok (first, ts)

/-- Commands joined by pipes, perhaps negated. -/
def readPipeline (d : Dialect) (fuel : Nat) (ts : List Token) : Except Fault (Command × List Token) :=
  match fuel with
  | 0 => .error { message := "too deep", line := lineOf ts }
  | fuel + 1 =>
    if starts d "!" ts then (readPipeline d fuel (ts.drop 1)).map fun (c, rest) => (negation c, rest)
    else if starts d "time" ts then readPipeline d fuel (ts.drop 1)
    else readPipes d fuel ts

def readPipes (d : Dialect) (fuel : Nat) (ts : List Token) : Except Fault (Command × List Token) :=
  match fuel with
  | 0 => .error { message := "too deep", line := lineOf ts }
  | fuel + 1 => do
    let (first, rest) ← readCommand d fuel ts
    match rest with
    | .operator .pipe _ :: rest => do
      let (second, rest) ← readPipes d fuel (skipNewlines rest)
      .ok (pipe first false second, rest)
    | .operator .pipeAll _ :: rest => do
      let (second, rest) ← readPipes d fuel (skipNewlines rest)
      .ok (pipe first true second, rest)
    | rest => .ok (first, rest)

def readCommand (d : Dialect) (fuel : Nat) (ts : List Token) : Except Fault (Command × List Token) :=
  match fuel with
  | 0 => .error { message := "too deep", line := lineOf ts }
  | fuel + 1 =>
    match ts with
    | [] => .error (unexpected d [] "")
    | .operator .openParen line :: rest => do
      let (body, rest) ← readList d fuel true rest
      match rest with
      | .operator .closeParen _ :: rest => do
        let (redirections, rest) ← readRedirections d rest
        .ok (subshell body redirections line, rest)
      | rest => .error (unexpected d rest "\")\"")
    | .arithmetic text line :: rest => do
      let (redirections, rest) ← readRedirections d rest
      .ok (group (arithmetic text line) redirections line, rest)
    | t :: rest =>
      match reserved? d t with
      | none => do
        let (c, after) ← readSimple d true .word {} (t :: rest)
        match c.words, after with
        | [w], .operator .openParen line :: after =>
          if c.assignments ≠ [] ∨ c.redirections ≠ [] then .error (unexpected d (.operator .openParen line :: after) "")
          else
            match after with
            | .operator .closeParen line :: after =>
              match bareText? w with
              | some name =>
                if d = .plain && (!isName name || special.contains name) then .error { message := "Bad function name", line := line }
                else do
                  let (body, rest) ← readCommand d fuel (skipNewlines after)
                  .ok (define name body c.line, rest)
              | none => .error { message := "Bad function name", line := line }
            | after => .error (unexpected d after "\")\"")
        | _, .operator .openParen line :: after => .error (unexpected d (.operator .openParen line :: after) "")
        | _, after =>
          if c.words = [] ∧ c.assignments = [] ∧ c.redirections = [] then .error (unexpected d (t :: rest) "")
          else do
            checkWords d fuel ((c.words ++ c.assignments.map (·.value) ++ c.redirections.map (·.target)).flatMap substitutions)
            .ok (simple c, after)
      | some r =>
        if r = "in".toList then do
          let (c, after) ← readSimple d true .word {} (t :: rest)
          .ok (simple c, after)
        else do
          let (c, rest) ←
            if r = ['{'] then do
              let (body, rest) ← readList d fuel true rest
              let rest ← expect d "\x7d" rest
              .ok (body, rest)
            else if r = "if".toList then readConditional d fuel rest
            else if r = "while".toList then readLoop d fuel false rest
            else if r = "until".toList then readLoop d fuel true rest
            else if r = "for".toList then readForEach d fuel rest
            else if r = "case".toList then readCases d fuel rest
            else if r = "function".toList then readFunction d fuel rest
            else if r = "[[".toList then do
              let (test, rest) ← readTest (4 * rest.length + 4) rest
              let rest ← expect d "]]" (skipNewlines rest)
              .ok (condition test (lineOf [t]), rest)
            else .error (unexpected d (t :: rest) "")
          let (redirections, rest) ← readRedirections d rest
          .ok (group c redirections (lineOf [t]), rest)

/-- Whether commands can be read whose output is taken. -/
def checkWords (d : Dialect) (fuel : Nat) (all : List Substitution) : Except Fault Unit :=
  match fuel, all with
  | 0, _ | _, [] => .ok ()
  | fuel + 1, x :: rest => do
    (checkScript d fuel (x.closed && d = .plain) (x.tokens d)).mapError fun f =>
      { f with line := if f.line = 0 then x.lastLine else f.line }
    checkWords d fuel rest

/-- Whether all lines of a script can be read, which ends at a parenthesis if it is `closed`. -/
def checkScript (d : Dialect) (fuel : Nat) (closed : Bool) (ts : List Token) : Except Fault Unit :=
  match fuel with
  | 0 => .ok ()
  | fuel + 1 =>
    match skipNewlines ts, closed with
    | [], _ | [.operator .closeParen _], true => .ok ()
    | ts, _ => do
      let (_, rest) ← readList d fuel true ts
      if rest.length < ts.length then
        match rest, closed with
        | [], _ | [.operator .closeParen _], true => .ok ()
        | t :: _, _ => if isNewline t then checkScript d fuel closed rest else .error (unexpected d rest "\")\"")
      else .error (unexpected d rest "")

/-- A function after the word that announces it. -/
def readFunction (d : Dialect) (fuel : Nat) (ts : List Token) : Except Fault (Command × List Token) :=
  match fuel with
  | 0 => .error { message := "too deep", line := lineOf ts }
  | fuel + 1 =>
    match ts with
    | .word w line :: rest => do
      let rest := match rest with
        | .operator .openParen _ :: .operator .closeParen _ :: rest => rest
        | rest => rest
      let (body, rest) ← readCommand d fuel (skipNewlines rest)
      .ok (define (Token.bareText w) body line, rest)
    | ts => .error (unexpected d ts "word")

/-- A conditional after its first word. -/
def readConditional (d : Dialect) (fuel : Nat) (ts : List Token) : Except Fault (Command × List Token) :=
  match fuel with
  | 0 => .error { message := "too deep", line := lineOf ts }
  | fuel + 1 => do
    let (test, rest) ← readList d fuel true ts
    let rest ← expect d "then" rest
    let (yes, rest) ← readList d fuel true rest
    if starts d "elif" rest then do
      let (no, rest) ← readConditional d fuel (rest.drop 1)
      .ok (conditional test yes no, rest)
    else if starts d "else" rest then do
      let (no, rest) ← readList d fuel true (rest.drop 1)
      let rest ← expect d "fi" rest
      .ok (conditional test yes no, rest)
    else do
      let rest ← expect d "fi" rest
      .ok (conditional test yes nothing, rest)

/-- The body of a loop, between its two words; the extended form allows braces in their place. -/
def readBody (d : Dialect) (fuel : Nat) (ts : List Token) : Except Fault (Command × List Token) :=
  match fuel with
  | 0 => .error { message := "too deep", line := lineOf ts }
  | fuel + 1 =>
    if d = .extended && starts d "\x7b" ts then do
      let (body, rest) ← readList d fuel true (ts.drop 1)
      let rest ← expect d "\x7d" rest
      .ok (body, rest)
    else do
      let rest ← expect d "do" ts
      let (body, rest) ← readList d fuel true rest
      let rest ← expect d "done" rest
      .ok (body, rest)

/-- A loop after its first word. -/
def readLoop (d : Dialect) (fuel : Nat) (stopOnSuccess : Bool) (ts : List Token) : Except Fault (Command × List Token) :=
  match fuel with
  | 0 => .error { message := "too deep", line := lineOf ts }
  | fuel + 1 => do
    let (test, rest) ← readList d fuel true ts
    let (body, rest) ← readBody d fuel rest
    .ok (loop stopOnSuccess test body, rest)

/-- A loop over values, or one with three expressions, after its first word. -/
def readForEach (d : Dialect) (fuel : Nat) (ts : List Token) : Except Fault (Command × List Token) :=
  match fuel with
  | 0 => .error { message := "too deep", line := lineOf ts }
  | fuel + 1 =>
    match ts with
    | .arithmetic text line :: rest =>
      match splitExpressions text with
      | none => .error { message := "arithmetic expression required", line := line }
      | some (start, test, step) => do
        let (body, rest) ← readBody d fuel (skipSeparator rest)
        .ok (counted start test step body line, rest)
    | .word w line :: rest =>
      match (bareText? w).filter isName with
      | none => .error { message := "Bad for loop variable", line := line }
      | some name => do
        let (values, rest) := match skipNewlines rest with
          | .word i line :: more =>
            if bareText? i = some "in".toList then readValues more
            else ([[Piece.parameter ['@'] true]], .word i line :: more)
          | more => ([[Piece.parameter ['@'] true]], more)
        checkWords d fuel (values.flatMap substitutions)
        let (body, rest) ← readBody d fuel (skipSeparator rest)
        .ok (forEach name values body line, rest)
    | ts => .error { message := "Bad for loop variable", line := lineOf ts }

/-- A choice after its first word. -/
def readCases (d : Dialect) (fuel : Nat) (ts : List Token) : Except Fault (Command × List Token) :=
  match fuel with
  | 0 => .error { message := "too deep", line := lineOf ts }
  | fuel + 1 =>
    match ts with
    | .word w line :: rest => do
      checkWords d fuel (substitutions w)
      let rest ← expect d "in" (skipNewlines rest)
      let (branches, rest) ← readBranches d fuel (skipNewlines rest)
      .ok (choose w branches line, rest)
    | ts => .error (unexpected d ts "word")

/-- The branches of a choice, up to its last word. -/
def readBranches (d : Dialect) (fuel : Nat) (ts : List Token) : Except Fault (Command × List Token) :=
  match fuel with
  | 0 => .error { message := "too deep", line := lineOf ts }
  | fuel + 1 =>
    if starts d "esac" ts then .ok (nothing, ts.drop 1)
    else do
      let ts := match ts with
        | .operator .openParen _ :: rest => rest
        | ts => ts
      let (patterns, rest) ← readPatterns d ts
      let rest := skipNewlines rest
      let (body, rest) ← match branchEnd? rest with
        | some _ => .ok (nothing, rest)
        | none => if starts d "esac" rest then .ok (nothing, rest) else readList d fuel true rest
      match branchEnd? rest with
      | some (ending, rest) => do
        let (next, rest) ← readBranches d fuel (skipNewlines rest)
        .ok (branch patterns body ending next, rest)
      | none => do
        let rest ← (expect d "esac" rest).mapError fun _ => unexpected d rest "\";;\""
        .ok (branch patterns body .leave nothing, rest)

end

/-! ### Lines -/

/-- How much text there is in a token. -/
def weight : Token → Nat
  | .word w _ => w.foldl (fun n p => n + 1 + match p with
    | .command text .. | .channel text .. => text.length
    | _ => 0) 1
  | _ => 1

/-- Enough fuel to read tokens. -/
def fuelFor (ts : List Token) : Nat := ts.foldl (fun n t => n + 8 * weight t) 16

/-- What reading the next line of a script comes to. -/
inductive Line
  /-- The script is at its end. -/
  | none
  /-- A command, what follows it, and the line that has been reached with it unless that is the last one. -/
  | command (c : Command) (rest : List Token) (reached : Option Nat)
  /-- The line is no command. -/
  | broken (f : Fault)

/-- The fault that counts: the one inside of commands without an end, if there is one. Each call is about a shorter
text. -/
def innermost (d : Dialect) (fuel : Nat) (f : Fault) : Fault :=
  match fuel, f.inside with
  | 0, _ | _, none => f
  | fuel + 1, some (text, began) =>
    let ts := tokens d began text
    match checkScript d (fuelFor ts) false ts with
    | .ok () => f
    | .error inner => if inner.line = 0 then { f with inside := none } else innermost d fuel inner

/-- Reads the next line of a script. -/
def readLine (d : Dialect) (ts : List Token) : Line :=
  match skipNewlines ts with
  | [] => .none
  | ts =>
    match readList d (fuelFor ts) false ts with
    | .ok (c, []) => .command c [] none
    | .ok (c, .operator .newline line :: rest) => .command c rest (some line)
    | .ok (_, rest) => broken (unexpected d rest "")
    | .error f => broken f
where
  broken (f : Fault) : Line := .broken (innermost d ((f.inside.map (·.1.length)).getD 0 + 1) f)

end OrderlyExit.Shell.Grammar
