import OrderlyExit.Shell.Escape

/-!
The tokens of a shell script: words, operators, the numbers in front of redirections, and the documents
that stand behind the line that asks for them.

A word is a list of pieces. Quoting is resolved here: each character of a word is marked as quoted or
not, and a pair of quotes leaves a piece of its own, so that an empty quoted word is still a word. What
stands in substitutions is kept as text and read when it is needed.

The reader goes over a text once, character by character. While it is inside a substitution it keeps a
stack of what is still open there, to find the end.
-/

namespace OrderlyExit.Shell

/-- The two forms of the language: the plain one, and one with more in it. -/
inductive Dialect
  | plain
  | extended
  deriving DecidableEq, Repr, Inhabited

/-- What stands around commands whose output a word takes. -/
inductive CommandForm
  | parentheses
  | backquotes
  deriving DecidableEq, Repr

/-- A part of a word. -/
inductive Piece
  | char (c : Char) (quoted : Bool)
  /-- Quotes begin here. -/
  | quotes
  | parameter (name : List Char) (quoted : Bool)
  /-- A parameter in braces, perhaps with something to be done to its value, from a line on. -/
  | braced (text : List Char) (quoted : Bool) (line : Nat)
  /-- The output of commands, whose lines are numbered from the given one on. -/
  | command (text : List Char) (form : CommandForm) (quoted : Bool) (line : Nat)
  | arithmetic (text : List Char) (quoted : Bool) (line : Nat)
  /-- A list of words in parentheses. -/
  | list (text : List Char)
  /-- The name of a pipe from commands, or to them. -/
  | channel (text : List Char) (reads : Bool) (line : Nat)
  deriving DecidableEq, Repr

abbrev Word := List Piece

inductive Operator
  | newline
  | semicolon
  | doubleSemicolon
  /-- The end of a case after which the next case runs too. -/
  | fallThrough
  /-- The end of a case after which the next cases are tried too. -/
  | tryNext
  | ampersand
  | andIf
  | orIf
  | pipe
  /-- A pipe that takes errors too. -/
  | pipeAll
  | openParen
  | closeParen
  | less
  | great
  | doubleGreat
  | lessAnd
  | greatAnd
  | lessGreat
  /-- Writes even where files are protected. -/
  | clobber
  | hereDocument (stripsTabs : Bool)
  | hereText
  /-- Redirects output and errors. -/
  | bothGreat
  | bothDoubleGreat
  deriving DecidableEq, Repr

inductive Token
  /-- A word and the line that it ends in. -/
  | word (w : Word) (line : Nat)
  /-- An operator and the line after it. -/
  | operator (o : Operator) (line : Nat)
  /-- Digits in front of a redirection. -/
  | descriptor (n : Nat)
  /-- The document that a redirection asked for. -/
  | document (text : Word)
  /-- A condition in double parentheses. -/
  | arithmetic (text : List Char) (line : Nat)
  /-- Something that cannot be read, and why. -/
  | broken (reason : String) (line : Nat)
  /-- Commands in parentheses from a line on that have no end, and the last line. -/
  | unclosed (text : List Char) (began line : Nat)
  deriving DecidableEq, Repr

namespace Token

/-! ### Characters -/

def isBlank (c : Char) : Bool := c == ' ' || c == '\t'

def isNameStart (c : Char) : Bool := c.isAlpha || c == '_'

def isName (c : Char) : Bool := isNameStart c || c.isDigit

/-- A parameter with a name of one character that is no letter. -/
def isSpecial (c : Char) : Bool :=
  c.isDigit || c == '?' || c == '$' || c == '!' || c == '#' || c == '@' || c == '*' || c == '-'

/-- The operators of both forms of the language, longer ones before their beginnings. -/
def operators : List (List Char × Operator) :=
  [("<<-".toList, .hereDocument true), ("<<".toList, .hereDocument false), ("<&".toList, .lessAnd),
   ("<>".toList, .lessGreat), ("<".toList, .less), (">>".toList, .doubleGreat), (">&".toList, .greatAnd),
   (">|".toList, .clobber), (">".toList, .great), (";;".toList, .doubleSemicolon), (";".toList, .semicolon),
   ("&&".toList, .andIf), ("&".toList, .ampersand), ("||".toList, .orIf), ("|".toList, .pipe),
   ("(".toList, .openParen), (")".toList, .closeParen), ("\n".toList, .newline)]

/-- The operators of the extended form alone. -/
def moreOperators : List (List Char × Operator) :=
  [("<<<".toList, .hereText), ("&>>".toList, .bothDoubleGreat), ("&>".toList, .bothGreat), (";;&".toList, .tryNext),
   (";&".toList, .fallThrough), ("|&".toList, .pipeAll)]

/-- The operator at the front of a text, and how many more characters it has after the first. -/
def operator? (d : Dialect) (s : List Char) : Option (Operator × Nat) :=
  let table := if d = .extended then moreOperators ++ operators else operators
  (table.find? fun (text, _) => text.isPrefixOf s).map fun (text, o) => (o, text.length - 1)

def isRedirection : Operator → Bool
  | .less | .great | .doubleGreat | .lessAnd | .greatAnd | .lessGreat | .clobber | .hereDocument _ | .hereText => true
  | _ => false

/-! ### Inside substitutions -/

/-- A document that has been asked for. -/
structure Request where
  delimiter : List Char
  stripsTabs : Bool
  /-- Nothing in it is special. -/
  literal : Bool
  deriving DecidableEq, Repr

/-- What the reader knows about the commands in parentheses: whether the next word is the name of a
command, the word so far, how many cases are open, in which a parenthesis ends a pattern, and the documents that
stand behind the line. -/
structure Outline where
  atCommand : Bool := true
  word : List Char := []
  cases : Nat := 0
  requests : List Request := []
  deriving DecidableEq, Repr

/-- Words after which a command begins. -/
def introducers : List (List Char) :=
  ["then".toList, "do".toList, "else".toList, "elif".toList, "if".toList, "while".toList, "until".toList, ['{'], ['!']]

/-- The outline after a word has ended. -/
def Outline.finishWord (o : Outline) : Outline :=
  if o.word = [] then o
  else if o.atCommand then
    let word := o.word.reverse
    { o with
      word := []
      atCommand := introducers.contains word
      cases := if word = "case".toList then o.cases + 1 else if word = "esac".toList then o.cases - 1 else o.cases }
  else { o with word := [] }

/-- What is open inside a substitution. -/
inductive Frame
  | paren (o : Outline)
  /-- Inside parentheses of an expression, in which quotes quote. -/
  | round
  /-- Inside an expression of the plain form, in which quotes are ordinary, and inside so many parentheses. -/
  | expression (depth : Nat)
  /-- Before the second of the parentheses that open an expression of the plain form. -/
  | opening
  /-- Before the last of the parentheses that close one. -/
  | closing
  /-- Inside braces, where single quotes quote or not. -/
  | brace (quotes : Bool)
  | single
  | double
  | backquote
  | escape
  | comment
  /-- After a dollar sign, before what it opens. -/
  | dollar (quotes : Bool)
  /-- Between quotes in which escapes are resolved. -/
  | ansi
  /-- In documents, with the line so far, the last character first. -/
  | document (requests : List Request) (line : List Char)
  deriving DecidableEq, Repr

/-- Whether single quotes quote inside braces whose text is `rest`: they do outside of double quotes, and where a
pattern stands. -/
def quotesInside (d : Dialect) (quoted : Bool) (rest : List Char) : Bool :=
  let behind := if rest.head?.any isName then rest.dropWhile isName else rest.drop 1
  let behind := match d, behind with
    | .extended, '[' :: more => (more.dropWhile (· ≠ ']')).drop 1
    | _, behind => behind
  !quoted || behind.head?.any fun c => c = '#' || c = '%' || (d = .extended && (c = '/' || c = '^' || c = ','))

/-- Whether a dollar sign in front of this opens something that has an end. -/
def opensFrame (d : Dialect) (single : Bool) (rest : List Char) : Bool :=
  rest.head? = some '(' || rest.head? = some '{' || (d = .extended && single && rest.head? = some '\'')

/-- What is open after a character that is not special where it stands. -/
def openQuote (d : Dialect) (c : Char) (rest : List Char) (single : Bool) (stack : List Frame) : List Frame :=
  if c = '\\' then .escape :: stack
  else if c = '"' then .double :: stack
  else if c = '\'' && single then .single :: stack
  else if c = '\x60' then .backquote :: stack
  else if c = '$' && opensFrame d single rest then .dollar single :: stack
  else stack

/-- The text of a word up to its end, without its quotes, and whether it has some. -/
def delimiterAt (sofar : List Char) (quoted : Bool) : List Char → List Char × Bool
  | [] => (sofar.reverse, quoted)
  | '\\' :: c :: rest => delimiterAt (c :: sofar) true rest
  | c :: rest =>
    if c = '\'' || c = '"' then delimiterAt sofar true rest
    else if isBlank c || c = '\n' || "|&;()<>".toList.contains c then (sofar.reverse, quoted)
    else delimiterAt (c :: sofar) quoted rest

/-- The document that a text asks for behind two signs. -/
def requestAt (text : List Char) : Request :=
  let stripsTabs := text.head? = some '-'
  let (delimiter, literal) := delimiterAt [] false ((if stripsTabs then text.drop 1 else text).dropWhile isBlank)
  { delimiter, stripsTabs, literal }

/-- A line of a document, perhaps without the tabs in front of it. -/
def stripped (q : Request) (line : List Char) : List Char :=
  if q.stripsTabs then line.dropWhile (· = '\t') else line

/-- Documents that were asked for in parentheses stand behind the line all the same. -/
def passRequests (requests : List Request) : List Frame → List Frame
  | .paren o :: below => .paren { o with requests := o.requests ++ requests } :: below
  | stack => stack

/-- What is open in commands after a character that is no quote and opens nothing. -/
def advanceCommands (c : Char) (o : Outline) (below : List Frame) : List Frame :=
  if c = '\n' then
    let o := { o.finishWord with atCommand := true }
    if o.requests = [] then .paren o :: below
    else .document o.requests [] :: .paren { o with requests := [] } :: below
  else if c = ';' || c = '|' || c = '&' then .paren { o.finishWord with atCommand := true } :: below
  else .paren o.finishWord :: below

/-- What is open after the next character of a substitution. -/
def advance (d : Dialect) (c : Char) (rest : List Char) : List Frame → List Frame
  | [] => []
  | .single :: below => if c = '\'' then below else .single :: below
  | .escape :: below => below
  | .ansi :: below => if c = '\'' then below else if c = '\\' then .escape :: .ansi :: below else .ansi :: below
  | .backquote :: below =>
    if c = '\x60' then below else if c = '\\' then .escape :: .backquote :: below else .backquote :: below
  | .comment :: below => if c = '\n' then advanceCommandsIn c below else .comment :: below
  | .dollar quotes :: below =>
    if c = '\'' then .ansi :: below
    else if c = '{' then .brace (quotesInside d (!quotes) rest) :: below
    else if rest.head? = some '(' then
      if d = .plain then .opening :: below else .round :: below
    else .paren {} :: below
  | .opening :: below => .expression 0 :: below
  | .closing :: below => below
  | .expression depth :: below =>
    if c = '(' then .expression (depth + 1) :: below
    else if c = ')' then
      if depth ≠ 0 then .expression (depth - 1) :: below
      else if rest.head? = some ')' then .closing :: below
      else .expression 0 :: below
    else if c = '"' then .expression depth :: below
    else openQuote d c rest false (.expression depth :: below)
  | .round :: below =>
    if c = '(' then .round :: .round :: below
    else if c = ')' then below
    else openQuote d c rest true (.round :: below)
  | .double :: below =>
    if c = '"' then below
    else openQuote d c rest false (.double :: below)
  | .brace quotes :: below =>
    if c = '}' then below else openQuote d c rest quotes (.brace quotes :: below)
  | .document requests line :: below =>
    if c ≠ '\n' then .document requests (c :: line) :: below
    else
      match requests with
      | [] => below
      | q :: qs =>
        if stripped q line.reverse = q.delimiter then (if qs = [] then below else .document qs [] :: below)
        else .document (q :: qs) [] :: below
  | .paren o :: below =>
    if c = '(' then .paren {} :: .paren { o.finishWord with atCommand := true } :: below
    else if c = ')' then
      let o := o.finishWord
      if o.cases = 0 then passRequests o.requests below else .paren { o with atCommand := true } :: below
    else if c = '#' && o.word = [] then .comment :: .paren o :: below
    else if isBlank c || c = '\n' || c = ';' || c = '|' || c = '&' then advanceCommands c o below
    else
      let asks := c = '<' && rest.head? = some '<' && o.word.head? ≠ some '<' && (rest.drop 1).head? ≠ some '<'
      let requests := if asks then o.requests ++ [requestAt (rest.drop 1)] else o.requests
      openQuote d c rest true (.paren { o with word := c :: o.word, requests } :: below)
where
  /-- The end of a comment ends the line of the commands around it. -/
  advanceCommandsIn (c : Char) : List Frame → List Frame
    | .paren o :: below => advanceCommands c o below
    | stack => stack

/-! ### The reader -/

/-- What a substitution is that the reader is inside of. -/
inductive Purpose
  | braced (quoted : Bool)
  | command (quoted : Bool)
  /-- After two parentheses; if they do not close together, it is commands after all. -/
  | arithmetic (quoted : Bool)
  | condition
  | list
  | channel (reads : Bool)
  /-- A pattern with alternatives, whose text belongs to the word. -/
  | pattern
  deriving DecidableEq, Repr

/-- Where a text stands. -/
inductive Style
  /-- It is a script. -/
  | script
  /-- It is one word, in which nothing separates. -/
  | word
  /-- It stands in double quotes, in which more of these change nothing. -/
  | quoted
  /-- It is a document, in which only a dollar sign, a backquote and a backslash are special. -/
  | document
  deriving DecidableEq, Repr

/-- Where in a text the reader is. -/
inductive Mode
  | plain
  | comment
  | single
  | double
  /-- After a backslash. -/
  | escape
  | doubleEscape
  /-- Before the one character of a special parameter. -/
  | special (quoted : Bool)
  /-- In the name of a parameter. -/
  | name (sofar : List Char) (quoted : Bool)
  /-- Before the characters that open a substitution, so many of them. -/
  | opening (count : Nat) (purpose : Purpose)
  /-- Inside a substitution, with its text so far, the last character first. -/
  | inside (stack : List Frame) (sofar : List Char) (purpose : Purpose) (line : Nat)
  /-- Between backquotes, with the text so far, the last character first. -/
  | backquote (sofar : List Char) (quoted escaped : Bool)
  /-- Before the quote that opens a text with escapes. -/
  | ansiStart
  | ansi (sofar : List Char) (escaped : Bool)
  /-- Before the remaining characters of an operator. -/
  | skip (count : Nat)
  /-- In a document that begins in a line, with the present line and the text so far, the last character first. -/
  | document (began : Nat) (line text : List Char)
  deriving DecidableEq, Repr

/-- The state of the reader besides its place. -/
structure Reader where
  dialect : Dialect
  style : Style
  line : Nat := 1
  /-- The word that has begun. -/
  word : Option Word := none
  /-- The next word ends a document; the flag says whether its lines lose their tabs in front. -/
  delimits : Option Bool := none
  /-- The next word is a pattern in which parentheses and bars are ordinary. -/
  regular : Bool := false
  requests : List Request := []
  deriving Repr

namespace Reader

/-- The reader with one more piece in its word. -/
def extend (r : Reader) (p : Piece) : Reader := { r with word := some (r.word.getD [] ++ [p]) }

def extendAll (r : Reader) (ps : List Piece) : Reader := { r with word := some (r.word.getD [] ++ ps) }

/-- The mode after something in a word. -/
def after (r : Reader) (quoted : Bool) : Mode := if quoted && r.style ≠ .document then .double else .plain

end Reader

/-- The text of a word without its quotes. -/
def bareText (w : Word) : List Char := w.filterMap fun p => match p with
  | .char c _ => some c
  | _ => none

def isQuoted (w : Word) : Bool := w.any fun p => match p with
  | .char _ quoted => quoted
  | .quotes => true
  | _ => false

/-- The token of a word that ends in a line, if one has begun, and the reader after it. -/
def flush (line : Nat) (r : Reader) : List Token × Reader :=
  match r.word with
  | none => ([], r)
  | some w =>
    let next := { r with
      word := none
      delimits := none
      regular := r.dialect = .extended && w == "=~".toList.map (Piece.char · false) }
    match r.delimits with
    | some stripsTabs =>
      ([.word w line], { next with requests := r.requests ++ [⟨bareText w, stripsTabs, isQuoted w⟩] })
    | none => ([.word w line], next)

/-- The number that a word of unquoted digits denotes. -/
def number? (d : Dialect) (w : Word) : Option Nat :=
  if w ≠ [] && (d = .extended || w.length == 1) && w.all (fun p => match p with
    | .char c false => c.isDigit
    | _ => false) then some (Escape.value 10 (bareText w)) else none

/-- The token of a word in front of an operator. -/
def flushBefore (line : Nat) (o : Operator) (r : Reader) : List Token × Reader :=
  match r.word.bind (number? r.dialect) with
  | some n => if isRedirection o then ([.descriptor n], { r with word := none }) else flush line r
  | none => flush line r

/-- Whether parentheses behind a word hold a list of values for it. -/
def awaitsList (w : Word) : Bool :=
  w.getLast? == some (.char '=' false) && w.head?.any fun p => match p with
    | .char c false => isNameStart c
    | _ => false

/-- How a dollar sign goes on, and what the reader skips. -/
def dollar? (r : Reader) (quoted : Bool) (rest : List Char) : Option Mode :=
  match rest with
  | [] => none
  | c :: more =>
    if c = '(' then
      if more.head? = some '(' then some (.opening 2 (.arithmetic quoted)) else some (.opening 1 (.command quoted))
    else if c = '{' then some (.opening 1 (.braced quoted))
    else if isSpecial c then some (.special quoted)
    else if isNameStart c then some (.name [] quoted)
    else if r.dialect = .extended && !quoted && c = '\'' then some .ansiStart
    else none

/-- Whether parentheses close together: the text between the outer ones is balanced without its last
character, which closes the inner ones. -/
def closesTogether (text : List Char) : Bool :=
  text.getLast? == some ')' && (text.dropLast.foldl (fun depth c =>
    match depth with
    | none => none
    | some (n : Nat) => if c = '(' then some (n + 1) else if c = ')' then (if n = 0 then none else some (n - 1)) else some n)
    (some 0)) == some 0

/-- What is open at the beginning of a substitution whose text is `rest`. -/
def initialFrames (d : Dialect) (purpose : Purpose) (rest : List Char) : List Frame :=
  match purpose with
  | .braced quoted => [.brace (quotesInside d quoted rest)]
  | .arithmetic _ => if d = .plain then [.expression 0] else [.round, .round]
  | .condition => [.round, .round]
  | .command _ | .list | .channel _ | .pattern => [.paren {}]

/-- The reader after the whole text of a substitution that begins in a line, unless it cannot be what it is meant
to be. -/
def finishInside (r : Reader) (purpose : Purpose) (text : List Char) (line : Nat) : Reader :=
  match purpose with
  | .braced quoted => r.extend (.braced text quoted line)
  | .command quoted => r.extend (.command text .parentheses quoted line)
  | .arithmetic quoted =>
    if r.dialect = .plain || closesTogether text then r.extend (.arithmetic text.dropLast quoted line)
    else r.extend (.command ('(' :: text) .parentheses quoted line)
  | .condition => r
  | .list => r.extend (.list text)
  | .channel reads => r.extend (.channel text reads line)
  | .pattern => r.extendAll (('(' :: text ++ [')']).map (Piece.char · false))

/-- The mode after a substitution. -/
def afterInside (r : Reader) (purpose : Purpose) : Mode :=
  match purpose with
  | .braced quoted | .command quoted | .arithmetic quoted => r.after quoted
  | _ => .plain

/-- The reasons why a text is broken that ends inside of something. -/
def unterminated : Mode → Option String
  | .single | .double | .doubleEscape | .ansiStart | .ansi .. => some "Unterminated quoted string"
  | .inside _ _ (.braced _) _ | .opening _ (.braced _) => some "Missing '\x7d'"
  | .inside _ _ (.arithmetic _) _ | .opening _ (.arithmetic _) => some "Missing '))'"
  | .inside .. | .opening .. => some "end of file unexpected (expecting \")\")"
  | .backquote .. => some "EOF in backquote substitution"
  | _ => none

/-- A text with a character that single quotes, as they are, mark as quoted. -/
def quotedPieces (cs : List Char) : List Piece := cs.map (Piece.char · true)

/-- The pieces of a document's text. Outside of substitutions nothing separates it. -/
def documentPieces (readText : Nat → List Char → Word) (q : Request) (began : Nat) (text : List Char) : Word :=
  if q.literal then quotedPieces text else readText began text

/-- The tokens of a text. -/
def lex (readText : Nat → List Char → Word) (mode : Mode) (r : Reader) : List Char → List Token
  | [] =>
    match mode, r.requests with
    | .document began line text, q :: qs =>
      let line' := stripped q line.reverse
      let whole := if line' = q.delimiter then text.reverse else text.reverse ++ line'
      .document (documentPieces readText q began whole) :: qs.map fun q => .document (documentPieces readText q began [])
    | mode, _ =>
      match if r.style = .script then unterminated mode else none with
      | some reason =>
        match mode with
        | .inside _ sofar (.command _) began => [.unclosed sofar.reverse began r.line]
        | _ => [.broken reason r.line]
      | none =>
        let (tokens, r) := flush r.line (if mode = .escape then r.extend (.char '\\' false) else r)
        tokens ++ r.requests.map fun q => .document (documentPieces readText q r.line [])
  | c :: rest =>
    let before := r.line
    let r := if c = '\n' then { r with line := r.line + 1 } else r
    match mode with
    | .plain =>
      if c = '\\' then
        if r.style = .document then lex readText .doubleEscape r rest
        else if rest.head? = some '\n' then lex readText .escape r rest
        else lex readText .escape { r with word := some (r.word.getD []) } rest
      else if c = '\x60' then lex readText (.backquote [] (r.style = .document) false) { r with word := some (r.word.getD []) } rest
      else if c = '$' then
        match dollar? r (r.style = .document) rest with
        | some next => lex readText next { r with word := some (r.word.getD []) } rest
        | none =>
          if r.dialect = .extended && r.style ≠ .document && rest.head? = some '"' then lex readText .plain r rest
          else lex readText .plain (r.extend (.char c (r.style = .document))) rest
      else if r.style = .document then lex readText .plain (r.extend (.char c true)) rest
      else if c = '\'' then lex readText .single (r.extend .quotes) rest
      else if c = '"' then lex readText .double (r.extend .quotes) rest
      else if r.style = .word then lex readText .plain (r.extend (.char c false)) rest
      else if isBlank c then
        let (tokens, r) := flush before r
        tokens ++ lex readText .plain r rest
      else if c = '#' && r.word.isNone then lex readText .comment r rest
      else if r.dialect = .extended && rest.head? = some '(' && (c = '<' || c = '>') && r.word.isNone then
        lex readText (.opening 1 (.channel (c = '<'))) r rest
      else if r.dialect = .extended && rest.head? = some '(' && ['?', '*', '+', '@', '!'].contains c then
        lex readText (.opening 1 .pattern) (r.extend (.char c false)) rest
      else if r.dialect = .extended && c = '(' && r.word.any awaitsList then
        lex readText (.inside (initialFrames r.dialect .list rest) [] .list r.line) r rest
      else if r.dialect = .extended && c = '(' && r.word.isNone && rest.head? = some '(' then
        lex readText (.opening 1 .condition) r rest
      else if r.regular && ['(', ')', '|', '<', '>', ';', '&'].contains c then
        lex readText .plain (r.extend (.char c false)) rest
      else
        match operator? r.dialect (c :: rest) with
        | none => lex readText .plain (r.extend (.char c false)) rest
        | some (o, more) =>
          let (tokens, r) := flushBefore before o r
          let r := match o with
            | .hereDocument stripsTabs => { r with delimits := some stripsTabs }
            | _ => r
          if o = .newline && r.requests ≠ [] then tokens ++ lex readText (.document r.line [] []) r rest
          else tokens ++ .operator o r.line :: lex readText (if more = 0 then .plain else .skip more) r rest
    | .comment =>
      if c = '\n' then
        if r.requests ≠ [] then lex readText (.document r.line [] []) r rest
        else .operator .newline r.line :: lex readText .plain r rest
      else lex readText .comment r rest
    | .single =>
      if c = '\'' then lex readText .plain r rest else lex readText .single (r.extend (.char c true)) rest
    | .double =>
      if c = '"' then
        if r.style = .quoted then lex readText .double (r.extend .quotes) rest else lex readText .plain r rest
      else if c = '\\' then lex readText .doubleEscape r rest
      else if c = '\x60' then lex readText (.backquote [] true false) r rest
      else if c = '$' then
        match dollar? r true rest with
        | some next => lex readText next r rest
        | none => lex readText .double (r.extend (.char c true)) rest
      else lex readText .double (r.extend (.char c true)) rest
    | .escape => lex readText .plain (if c = '\n' then r else r.extend (.char c true)) rest
    | .doubleEscape =>
      if c = '\n' then lex readText (r.after true) r rest
      else if c = '$' ∨ c = '\x60' ∨ c = '\\' ∨ (c = '"' ∧ r.style ≠ .document) ∨ (c = '}' ∧ r.style = .quoted) then
        lex readText (r.after true) (r.extend (.char c true)) rest
      else lex readText (r.after true) ((r.extend (.char '\\' true)).extend (.char c true)) rest
    | .special quoted => lex readText (r.after quoted) (r.extend (.parameter [c] quoted)) rest
    | .name sofar quoted =>
      if rest.head?.any isName then lex readText (.name (sofar ++ [c]) quoted) r rest
      else lex readText (r.after quoted) (r.extend (.parameter (sofar ++ [c]) quoted)) rest
    | .opening (n + 2) purpose => lex readText (.opening (n + 1) purpose) r rest
    | .opening _ purpose => lex readText (.inside (initialFrames r.dialect purpose rest) [] purpose r.line) r rest
    | .inside stack sofar purpose line =>
      match advance r.dialect c rest stack with
      | [] =>
        let text := sofar.reverse
        match purpose with
        | .condition =>
          (if closesTogether text then .arithmetic text.dropLast r.line
            else .broken "bad condition" r.line) :: lex readText .plain r rest
        | purpose => lex readText (afterInside r purpose) (finishInside r purpose text line) rest
      | stack => lex readText (.inside stack (c :: sofar) purpose line) r rest
    | .backquote sofar quoted escaped =>
      if escaped then
        if c = '$' ∨ c = '\x60' ∨ c = '\\' ∨ (c = '"' ∧ quoted ∧ r.style ≠ .document) then
          lex readText (.backquote (c :: sofar) quoted false) r rest
        else lex readText (.backquote (c :: '\\' :: sofar) quoted false) r rest
      else if c = '\\' then lex readText (.backquote sofar quoted true) r rest
      else if c = '\x60' then
        lex readText (r.after quoted) (r.extend (.command sofar.reverse .backquotes quoted 1)) rest
      else lex readText (.backquote (c :: sofar) quoted false) r rest
    | .ansiStart => lex readText (.ansi [] false) (r.extend .quotes) rest
    | .ansi sofar escaped =>
      if escaped then lex readText (.ansi (c :: sofar) false) r rest
      else if c = '\\' then lex readText (.ansi (c :: sofar) true) r rest
      else if c = '\'' then
        lex readText .plain (r.extendAll (quotedPieces (Escape.resolve Escape.quotedRules sofar.reverse).1)) rest
      else lex readText (.ansi (c :: sofar) false) r rest
    | .skip n => lex readText (if n ≤ 1 then .plain else .skip (n - 1)) r rest
    | .document began line text =>
      if c ≠ '\n' then lex readText (.document began (c :: line) text) r rest
      else
        match r.requests with
        | [] => lex readText .plain r rest
        | q :: qs =>
          let line' := stripped q line.reverse
          if line' = q.delimiter then
            let document := documentPieces readText q began text.reverse
            let r := { r with requests := qs }
            if qs = [] then .document document :: .operator .newline r.line :: lex readText .plain r rest
            else .document document :: lex readText (.document r.line [] []) r rest
          else lex readText (.document began [] ('\n' :: line'.reverse ++ text)) r rest

/-- The one word of a text in which nothing separates. -/
def wordOf (tokens : List Token) : Word := tokens.flatMap fun t => match t with
  | .word w _ => w
  | _ => []

/-- The pieces of a document's text that begins in a line. -/
def ofDocument (d : Dialect) (line : Nat) (s : List Char) : Word :=
  wordOf (lex (fun _ _ => []) .plain { dialect := d, style := .document, line } s)

/-- The pieces of a text that is one word, in double quotes or not. -/
def ofText (d : Dialect) (quoted : Bool) (line : Nat) (s : List Char) : Word :=
  if quoted then wordOf (lex (fun _ _ => []) .double { dialect := d, style := .quoted, line } s)
  else wordOf (lex (fun _ _ => []) .plain { dialect := d, style := .word, line } s)

/-- The tokens of a script whose first line has a number. -/
def ofScript (d : Dialect) (line : Nat) (s : List Char) : List Token :=
  lex (ofDocument d) .plain { dialect := d, style := .script, line } s

end Token

end OrderlyExit.Shell
