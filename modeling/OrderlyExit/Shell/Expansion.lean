import OrderlyExit.Shell.Arithmetic
import OrderlyExit.Shell.Braces
import OrderlyExit.Shell.Pattern
import OrderlyExit.Shell.State

/-!
Expanding words: parameters, substitutions and arithmetic take their values, fields end where a value has a
separator, patterns become the paths that match them, and quotes go away.

Between these steps a word is a row of glyphs, which remember what was quoted, what came from a value, and
where one positional parameter ends and the next begins.
-/

namespace OrderlyExit.Shell.Expansion

open Host (Routine)

/-- A part of a word whose values are in place. -/
inductive Glyph
  | letter (l : Letter)
  /-- Quotes stand here, so there is a field even without a letter. -/
  | quotes
  /-- One value ends and the next begins. -/
  | gap
  /-- A list without values stands here, so quotes alone are no field. -/
  | nothing
  deriving DecidableEq, Repr

/-- What a parameter stands for. -/
inductive Held
  | one (text : Option ByteText)
  /-- Several values, which are joined to one in quotes with `joins`. -/
  | several (texts : List ByteText) (joins : Bool)
  deriving Repr

/-- How a word is used. -/
structure Usage where
  /-- It yields one text: fields do not end in it. -/
  whole : Bool := false
  deriving Repr

/-- What expansion needs of the shell around it. -/
structure Surroundings where
  /-- The output of commands that begin in a line, without the line ends at its end. -/
  substitute : List Char → Nat → Run ByteText
  /-- The path of a pipe from commands that begin in a line, or to them. -/
  channel : List Char → Bool → Nat → Run ByteText

/-! ### Values -/

/-- The letters of option `-` in their order. -/
def optionLetters (s : State) : ByteText :=
  let order := if s.isExtended then "aefhknuvxBCET".toList else "ubaCEVvxsnmiIfe".toList
  let own := if s.isExtended then ['h', 'B'] else []
  order.filter (fun c => s.hasOption c || own.contains c) ++ if s.isExtended && s.fromText then ['c'] else []

/-- The elements of a list value. -/
def elements : Value → List ByteText
  | .text t => [t]
  | .list items => items.map (·.2)
  | .table items => items.map (·.2)

/-- The names of the elements of a list value. -/
def keys : Value → List ByteText
  | .text _ => [['0']]
  | .list items => items.map fun (n, _) => Decimal.digits n
  | .table items => items.map (·.1)

/-- A parameter of the extended form that has its value from the shell itself. -/
def dynamic? (s : State) (name : ByteText) : Option ByteText :=
  match String.ofList name with
  | "LINENO" => if s.isExtended then some (Decimal.digits s.line) else none
  | "RANDOM" => if s.isExtended then some (Decimal.digits ((s.draws * 12345 + 6789) % 32768)) else none
  | "SECONDS" => if s.isExtended then some ['0'] else none
  | "BASHPID" => if s.isExtended then some (Decimal.digits s.shownPid) else none
  | "FUNCNAME" => if s.isExtended then some (s.running.head?.getD []) else none
  | _ => none

/-- What a parameter stands for. -/
def held (s : State) (name : ByteText) : Held :=
  match name with
  | ['?'] => .one (some (Decimal.digits s.status))
  | ['$'] => .one (some (Decimal.digits s.shownPid))
  | ['!'] => .one (s.background.map Decimal.digits)
  | ['#'] => .one (some (Decimal.digits s.args.length))
  | ['-'] => .one (some (optionLetters s))
  | ['0'] => .one (some s.name)
  | ['@'] => .several s.args false
  | ['*'] => .several s.args true
  | name =>
    match Decimal.value? name with
    | some n => .one (if n = 0 then some s.name else s.args[n - 1]?)
    | none =>
      if name = "PIPESTATUS".toList && s.isExtended then .one (s.pipeline.head?.map Decimal.digits)
      else .one ((dynamic? s name).or (s.text? name))

/-- What joins several values to one: the first separator. -/
def joint (s : State) : List Char :=
  match s.text? "IFS".toList with
  | none => [' ']
  | some separators => separators.take 1

def joinWith (separator : List Char) (texts : List ByteText) : ByteText := separator.intercalate texts

def letters (quoted : Bool) (text : ByteText) : List Glyph :=
  text.map fun c => .letter { char := c, quoted, splits := !quoted }

/-- What stands between several values if they are joined to one. -/
def joint? (s : State) (u : Usage) (quoted joins : Bool) : Option (List Char) :=
  if u.whole || (quoted && joins) then some (if u.whole && s.isExtended && !joins then [' '] else joint s) else none

/-- The glyphs of what a parameter stands for. -/
def glyphsOf (s : State) (u : Usage) (quoted : Bool) : Held → List Glyph
  | .one text => letters quoted (text.getD [])
  | .several texts joins =>
    match joint? s u quoted joins with
    | some joint => letters quoted (joinWith joint texts)
    | none =>
      if !quoted then ([Glyph.gap] : List Glyph).intercalate (texts.map (letters false))
      else if texts = [] then [.nothing]
      else ([Glyph.gap] : List Glyph).intercalate (texts.map fun t => .quotes :: letters true t)

/-- The text of glyphs, all of one. -/
def plainText (glyphs : List Glyph) : ByteText := glyphs.filterMap fun g => match g with
  | .letter l => some l.char
  | .gap => some ' '
  | .quotes | .nothing => none

/-- The letters of glyphs, as a pattern has them. -/
def patternOf (glyphs : List Glyph) : List Letter := glyphs.filterMap fun g => match g with
  | .letter l => some l
  | .gap => some { char := ' ', quoted := false }
  | .quotes | .nothing => none

/-- A text as patterns see it: the extended form sees the characters of UTF-8. -/
def seen (s : State) (text : ByteText) : List Char := if s.isExtended then text.characters else text

/-- The text that is seen so. -/
def unseen (s : State) (cs : List Char) : ByteText := if s.isExtended then ByteText.ofCharacters cs else cs

/-- The letters of a pattern as they are seen. -/
def seenLetters (s : State) (ls : List Letter) : List Letter :=
  if s.isExtended && ls.any (0x80 ≤ ·.char.toNat) then
    (go (ls.length + 1) ls).flatten
  else ls
where
  /-- Characters of several bytes are letters like the first of these. -/
  go (fuel : Nat) (ls : List Letter) : List (List Letter) :=
    match fuel, ls with
    | 0, _ | _, [] => []
    | fuel + 1, l :: rest =>
      let front := l :: rest.takeWhile (0x80 ≤ ·.char.toNat)
      if l.char.toNat < 0x80 then [l] :: go fuel rest
      else (ByteText.characters (front.map (·.char))).map (fun c => { l with char := c }) :: go fuel (ls.drop front.length)

/-- Glyphs from a word inside a value: what is not quoted in it may end fields. -/
def asValue (quoted : Bool) (glyphs : List Glyph) : List Glyph := glyphs.map fun g => match g with
  | .letter l => .letter { l with splits := !quoted && !l.quoted, quoted := l.quoted || quoted }
  | g => g

/-! ### Parameters in braces -/

/-- A parameter in braces. -/
structure Braced where
  name : ByteText
  subscript : Option (List Char) := none
  /-- The value names the parameter that is meant. -/
  indirect : Bool := false
  length : Bool := false
  /-- What is done to the value. -/
  op : List Char := []
  word : List Char := []
  deriving DecidableEq, Repr

/-- The name of a parameter at the front of a text. -/
def nameAt (text : List Char) : Option (List Char × List Char) :=
  match text with
  | [] => none
  | c :: rest =>
    if Token.isNameStart c then
      let name := text.takeWhile Token.isName
      some (name, text.drop name.length)
    else if c.isDigit then
      let name := text.takeWhile Char.isDigit
      some (name, text.drop name.length)
    else if Token.isSpecial c then some ([c], rest)
    else none

/-- The operators on a parameter's value, longer ones before their beginnings. -/
def bracedOperators (d : Dialect) : List (List Char) :=
  [":-".toList, ":=".toList, ":?".toList, ":+".toList, ['-'], ['='], ['?'], ['+'], "##".toList, ['#'], "%%".toList,
   ['%']] ++
  if d = .extended then ["//".toList, "/#".toList, "/%".toList, ['/'], "^^".toList, ['^'], ",,".toList, [','], "~~".toList, ['~'],
    ['@'], [':']]
  else []

/-- The subscript behind a name. -/
def subscriptAt (d : Dialect) (text : List Char) : Option (List Char) × List Char :=
  match d, text with
  | .extended, '[' :: rest =>
    match Arithmetic.subscript? 0 [] rest with
    | some (inside, rest) => (some inside, rest)
    | none => (none, text)
  | _, text => (none, text)

/-- Reads a parameter with what is done to it. -/
def Braced.plain? (d : Dialect) (text : List Char) : Option Braced := do
  let (name, rest) ← nameAt text
  let (subscript, rest) := subscriptAt d rest
  if rest = [] then some { name, subscript }
  else
    let op ← (bracedOperators d).find? (·.isPrefixOf rest)
    some { name, subscript, op, word := rest.drop op.length }

/-- Reads the text between braces. -/
def Braced.read? (d : Dialect) (text : List Char) : Option Braced :=
  let lengthOf : Option Braced :=
    match text with
    | '#' :: c :: rest =>
      match Braced.plain? d (c :: rest) with
      | some b => if b.op = [] then some { b with length := true } else none
      | none => none
    | _ => none
  match lengthOf with
  | some b => some b
  | none =>
    match d, text with
    | .extended, '!' :: c :: rest =>
      if Token.isNameStart c then (Braced.plain? d (c :: rest)).map fun b => { b with indirect := true }
      else Braced.plain? d text
    | d, text => Braced.plain? d text

/-- How many characters a text has. -/
def lengthOf (s : State) (text : ByteText) : Nat := (seen s text).length

/-- So many of `items` from a place on; negative numbers count from the end. -/
def slice {α : Type} (items : List α) (start : Int) (count : Option Int) : List α :=
  let size : Int := items.length
  let start := if start < 0 then start + size else start
  if start < 0 then []
  else
    let stop := match count with
      | none => size
      | some n => if n < 0 then size + n else start + n
    (items.drop start.toNat).take (stop - start).toNat

/-- A text with the case of its letters changed, or only of the first one: of those that match a pattern, if
there is one. -/
def recase (s : State) (op : List Char) (pattern : List Letter) (text : ByteText) : ByteText :=
  let change (c : Char) : Char :=
    if pattern = [] || Pattern.isMatch s.dialect pattern [c] then
      match op.head? with
      | some '^' => LetterCase.capital c
      | some ',' => LetterCase.small c
      | _ => LetterCase.other c
    else c
  match seen s text with
  | [] => []
  | c :: rest => unseen s (change c :: if op.length = 1 then rest else rest.map change)

/-- A text in single quotes, so that it reads back. -/
def quoteText (text : ByteText) : ByteText :=
  '\'' :: (text.flatMap fun c => if c = '\'' then "'\\''".toList else [c]) ++ ['\'']

/-- Applies a function to each value. -/
def Held.map (f : ByteText → ByteText) : Held → Held
  | .one text => .one (text.map f)
  | .several texts joins => .several (texts.map f) joins

/-- Whether there is a value, and with `orEmpty` one that is not empty. Several values are not empty if something
stands between them; in the plain form there is a value even if there are none of them. -/
def Held.isSet (s : State) (u : Usage) (quoted : Bool) (h : Held) (orEmpty : Bool) : Bool :=
  match h with
  | .one none => false
  | .one (some text) => !(orEmpty && text = [])
  | .several texts joins =>
    (texts ≠ [] || !s.isExtended) &&
      !(orEmpty && texts.all (· = []) && (texts.length < 2 || joint? s u quoted joins = some []))

/-- The mark that keeps several values apart while they are treated as one text. -/
def apart : Char := '\x00'

/-- A cut of a text from the front or the back, as the plain form cuts several values: they are one text, but a
pattern sees no further than the end of a value. -/
def cutJoined (front longest : Bool) (pattern : List Letter) (text : List Char) : List Char :=
  let size := text.length
  let places := List.range (size + 1)
  let fits (n : Nat) : Bool :=
    let piece := if front then (text.take n).takeWhile (· ≠ apart) else (text.drop n).takeWhile (· ≠ apart)
    Pattern.isMatch .plain pattern piece
  -- Going forward ends at the end of the first value.
  let forward := places.takeWhile (· ≤ (text.takeWhile (· ≠ apart)).length)
  let order := if front != longest then forward else places.reverse
  match order.find? fits with
  | some n => if front then text.drop n else text.take n
  | none => text

/-- Several values cut as one. -/
def Held.cut (s : State) (u : Usage) (quoted front longest : Bool) (pattern : List Letter) : Held → Held
  | .one text => .one (text.map fun t =>
      unseen s ((if front then Pattern.trimFront else Pattern.trimBack) s.dialect longest pattern (seen s t)))
  | .several texts joins =>
    if s.isExtended then
      .several (texts.map fun t =>
        unseen s ((if front then Pattern.trimFront else Pattern.trimBack) s.dialect longest pattern (seen s t))) joins
    else
      let joint := (joint? s u quoted joins).getD [apart]
      .several ((cutJoined front longest pattern (joint.intercalate texts)).splitOn apart) joins

def Held.text (s : State) : Held → ByteText
  | .one text => text.getD []
  | .several texts _ => joinWith (joint s) texts

/-! ### Arithmetic -/

/-- What arithmetic sees of the parameters. -/
def arithmeticParameters (s : State) : Arithmetic.Parameters where
  value p :=
    match p.subscript, (s.binding? p.name).bind (·.value) with
    | none, _ => (held s p.name |> fun h => match h with
      | .one text => text
      | .several .. => none)
    | some key, some (.list items) => (Decimal.value? key).bind fun n => items.lookup n
    | some key, some (.table items) => items.lookup key
    | some key, some (.text t) => if key = ['0'] then some t else none
    | some _, none => none
  strict := s.isExtended && s.hasOption 'u'

/-- The number of an element, counted from the end if it is negative. -/
def elementNumber (items : List (Nat × ByteText)) (n : Int) : Nat :=
  if n < 0 then (((items.getLast?.map (·.1 + 1)).getD 0 : Nat) + n).toNat else n.toNat

/-- A list with an element. -/
def insertElement (items : List (Nat × ByteText)) (n : Nat) (text : ByteText) : List (Nat × ByteText) :=
  items.filter (·.1 < n) ++ (n, text) :: items.filter (n < ·.1)

/-- Gives an element of a parameter a text. -/
def assignElement (name key text : ByteText) : Run Unit := do
  match ((← get).binding? name).bind (·.value) with
  | some (.table items) =>
    Run.assignValue name (.table (withElement items key text))
  | value =>
    let items := match value with
      | some (.list items) => items
      | some (.text t) => [(0, t)]
      | _ => []
    let n := (Braces.integer? key).getD 0
    if n < 0 ∧ ((items.getLast?.map (·.1 + 1)).getD 0 : Nat) + n < 0 then
      Run.fail (name ++ '[' :: key ++ "]: bad array subscript".toList) 1
    Run.assignValue name (.list (insertElement items (elementNumber items n) text))

/-- What is wrong with an expression, in words. -/
def faultText (s : State) (text : List Char) (f : Arithmetic.Fault) : List Char :=
  match f with
  | .badNumber n => "Illegal number: ".toList ++ n
  | .unset name => name ++ (if s.isExtended then ": unbound variable" else ": parameter not set").toList
  | f =>
    if s.isExtended then
      let reason := match f with
        | .divisionByZero => "division by 0 (error token is \"".toList ++ (text.reverse.takeWhile (· ≠ '/')).reverse ++ "\")".toList
        | f => "syntax error: ".toList ++ f.message.toList
      text ++ ": ".toList ++ reason
    else "arithmetic expression: ".toList ++ f.message.toList ++ ": \"".toList ++ text ++ "\"".toList

/-- The value of an expression. -/
def evaluate (text : List Char) : Run Int := do
  let s ← get
  match Arithmetic.evalText s.dialect Arithmetic.maxDepth text (arithmeticParameters s) with
  | .ok (n, ps) =>
    for (p, value) in ps.assigned.reverse do
      let text := (Decimal.signedText value).toList
      match p.subscript with
      | none => Run.assign p.name text
      | some key => assignElement p.name key text
    return n
  | .error f => Run.fail (faultText s text f) (← Run.faultStatus)

/-! ### Words -/

/-- Replaces a tilde in front by the home of a user. -/
def expandTilde (s : State) (inAssignment : Bool) (w : Word) : Word :=
  match w with
  | .char '~' false :: rest =>
    let name := rest.takeWhile fun p => match p with
      | .char c false => c ≠ '/' && !(inAssignment && c = ':')
      | _ => false
    let after := rest.drop name.length
    let ends := match after with
      | [] => true
      | .char c false :: _ => c = '/' || c = ':'
      | _ => false
    let home := match String.ofList (Token.bareText name) with
      | "" => s.text? "HOME".toList
      | "root" => some "/root".toList
      | _ => none
    match home with
    | some home => if ends then home.map (Piece.char · true) ++ after else w
    | none => w
  | w => w

/-- Replaces the tildes in the value of an assignment, each at the front of a part between colons. -/
def expandTildes (s : State) (fuel : Nat) (w : Word) : Word :=
  match fuel with
  | 0 => w
  | fuel + 1 =>
    let w := expandTilde s true w
    let front := w.takeWhile (· ≠ .char ':' false)
    match w.drop front.length with
    | colon :: rest => front ++ colon :: expandTildes s fuel rest
    | [] => w

/-- Complains about a parameter without a value, and ends. -/
def unsetFault (name : ByteText) (message : ByteText) : Run α := do
  let s ← get
  Run.warn (name ++ ": ".toList ++ message)
  Run.jump (if s.isExtended then .quit (if s.fromText then 127 else 1) else .fail 2)

/-- The elements of a parameter that a subscript means. -/
def heldAt (x : List Char → Run ByteText) (name : ByteText) (subscript : List Char) : Run Held := do
  let s ← get
  let value := if name = "PIPESTATUS".toList then
      some (Value.list ((List.range s.pipeline.length).zip (s.pipeline.map Decimal.digits)))
    else if name = "FUNCNAME".toList then some (.list ((List.range s.running.length).zip s.running))
    else (s.binding? name).bind (·.value)
  if subscript = ['@'] || subscript = ['*'] then
    return .several ((value.map elements).getD []) (subscript = ['*'])
  match value with
  | some (.table items) => return .one (items.lookup (← x subscript))
  | some (.list items) =>
    let n ← evaluate (← x subscript)
    return .one (items.lookup (elementNumber items n))
  | some (.text t) => return .one (if (← evaluate (← x subscript)) = 0 then some t else none)
  | none => return .one none

/-- The glyphs of a parameter in braces; `inner` expands a text inside. -/
def braced (inner : Usage → Bool → List Char → Run (List Glyph)) (u : Usage) (quoted : Bool) (text : List Char) :
    Run (List Glyph) := do
  let s ← get
  let innerText (text : List Char) : Run ByteText := return plainText (← inner { whole := true } true text)
  match Braced.read? s.dialect text with
  | none =>
    if s.isExtended then Run.fail ("$\x7b".toList ++ text ++ "\x7d: bad substitution".toList) 1
    else Run.fail "Bad substitution".toList 2
  | some b =>
    let pattern (text : List Char) : Run (List Letter) :=
      return seenLetters s (patternOf (← inner { whole := true } false text))
    let cut (f : List Char → List Char) (text : ByteText) : ByteText := unseen s (f (seen s text))
    -- The names of parameters, or of elements.
    if b.indirect && (b.op = ['@'] || b.word = ['*']) && b.subscript.isNone then
      let names := (s.bindings.map (·.1)).filter (b.name.isPrefixOf ·)
      return glyphsOf s u quoted (.several (names.mergeSort fun a c => !(c < a)) (b.word = ['*']))
    if b.indirect && (b.subscript = some ['@'] || b.subscript = some ['*']) then
      let value := (s.binding? b.name).bind (·.value)
      return glyphsOf s u quoted (.several ((value.map keys).getD []) (b.subscript = some ['*']))
    if b.indirect && b.op = [] && b.subscript.isNone && (s.ownBinding? b.name).any (·.refers) then
      return letters quoted (s.resolve b.name)
    let first ← match b.subscript with
      | some subscript => heldAt innerText b.name subscript
      | none => pure (held s b.name)
    let name := if b.indirect then first.text s else b.name
    let value := if b.indirect then held s name else first
    let show_ (h : Held) : List Glyph := glyphsOf s u quoted h
    let isSet (orEmpty : Bool) : Bool := value.isSet s u quoted orEmpty
    if b.length then
      let several := match value with
        | .several texts _ => some (if s.isExtended then texts.length else (joinWith (joint s) texts).length)
        | .one _ => none
      if !isSet false && s.hasOption 'u' && several.isNone then
        unsetFault name (if s.isExtended then "unbound variable" else "parameter not set").toList
      let n := several.getD (lengthOf s (value.text s))
      return letters quoted (Decimal.digits n)
    let orEmpty := b.op.head? = some ':'
    match String.ofList b.op with
    | "" =>
      if !isSet false && s.hasOption 'u' && name ≠ ['@'] && name ≠ ['*'] then
        unsetFault name (if s.isExtended then "unbound variable" else "parameter not set").toList
      return show_ value
    | ":-" | "-" =>
      if isSet orEmpty then return show_ value else return asValue quoted (← inner u quoted b.word)
    | ":+" | "+" =>
      if isSet orEmpty then return asValue quoted (← inner u quoted b.word) else return []
    | ":=" | "=" =>
      if isSet orEmpty then return show_ value
      let text := plainText (← inner { whole := true } quoted b.word)
      if !Command.isName name then
        Run.fail (if s.isExtended then "$".toList ++ name ++ ": cannot assign in this way".toList
          else name ++ ": bad variable name".toList) (← Run.faultStatus)
      match b.subscript with
      | some key => assignElement name (← innerText key) text
      | none => Run.assign name text
      return letters quoted text
    | ":?" | "?" =>
      if isSet orEmpty then return show_ value
      let message := plainText (← inner { whole := true } quoted b.word)
      let standard := if s.isExtended then (if orEmpty then "parameter null or not set" else "parameter not set")
        else (if orEmpty then "parameter not set or null" else "parameter not set")
      unsetFault name (if b.word = [] then standard.toList else message)
    | "#" | "##" =>
      let p ← pattern b.word
      return show_ (value.cut s u quoted true (b.op.length = 2) p)
    | "%" | "%%" =>
      let p ← pattern b.word
      return show_ (value.cut s u quoted false (b.op.length = 2) p)
    | "^" | "^^" | "," | ",," | "~" | "~~" =>
      let p ← pattern b.word
      return show_ (value.map (recase s b.op p))
    | "@" =>
      match b.word with
      | ['Q'] => return show_ (value.map quoteText)
      | ['U'] => return show_ (value.map (recase s "^^".toList []))
      | ['L'] => return show_ (value.map (recase s ",,".toList []))
      | ['u'] => return show_ (value.map (recase s ['^'] []))
      | ['E'] => return show_ (value.map fun t => (Escape.resolve Escape.quotedRules t).1)
      | _ => return show_ value
    | ":" =>
      let start := b.word.takeWhile (· ≠ ':')
      let count := b.word.drop (start.length + 1)
      let from_ ← evaluate (← innerText start)
      let most ← if start.length < b.word.length then some <$> evaluate (← innerText count) else pure none
      match value with
      | .one text => return show_ (.one (some (unseen s (slice (seen s (text.getD [])) from_ most))))
      | .several texts joins =>
        let all := if b.subscript.isNone then s.name :: texts else texts
        return show_ (.several (slice all from_ most) joins)
    | _ =>
      -- A piece of the value is replaced by another text.
      let whole := Token.ofText s.dialect false 1 b.word
      let pieces := whole.takeWhile (· ≠ .char '/' false)
      let source := b.word.take (patternLength b.word)
      let target ← if pieces.length < whole.length then innerText (b.word.drop (source.length + 1)) else pure []
      let target := seen s target
      let p ← pattern source
      let change (text : List Char) : List Char :=
        if b.op = "/#".toList then
          match Pattern.longestFront s.dialect p text with
          | some n => target ++ text.drop n
          | none => text
        else if b.op = "/%".toList then
          match (List.range (text.length + 1)).find? fun n => Pattern.isMatch s.dialect p (text.drop n) with
          | some n => text.take n ++ target
          | none => text
        else Pattern.replaceWith (text.length + 1) s.dialect (b.op = "//".toList) p target text
      return show_ (value.map (cut change))
where
  /-- The length of a pattern in front of a slash that no backslash stands before. -/
  patternLength : List Char → Nat
    | [] => 0
    | '\\' :: _ :: rest => patternLength rest + 2
    | c :: rest => if c = '/' then 0 else patternLength rest + 1

/-- How a text stands inside of a word. -/
inductive InnerStyle
  | bare
  | quoted
  /-- It is an expression. -/
  | expression
  deriving DecidableEq, Repr

/-- The glyphs of a piece; `inner` expands a text inside, in a style, from a line on. -/
def piece (x : Surroundings) (inner : Nat → Usage → InnerStyle → List Char → Run (List Glyph)) (u : Usage) (p : Piece) :
    Run (List Glyph) := do
  match p with
  | .char c quoted => return [.letter { char := c, quoted }]
  | .quotes => return [.quotes]
  | .parameter name quoted =>
    let s ← get
    let value := held s name
    if !value.isSet s u quoted false && s.hasOption 'u' && name ≠ ['@'] && name ≠ ['*'] then
      unsetFault name (if s.isExtended then "unbound variable" else "parameter not set").toList
    if name = "RANDOM".toList then modify fun s => { s with draws := s.draws + 1 }
    return glyphsOf s u quoted value
  | .braced text quoted line =>
    braced (fun u quoted => inner line u (if quoted then .quoted else .bare)) u quoted text
  | .command text _ quoted line => return letters quoted (← x.substitute text line)
  | .arithmetic text quoted line =>
    let n ← evaluate (plainText (← inner line { whole := true } .expression text))
    return letters quoted (Decimal.signedText n).toList
  | .list text => return ('(' :: text ++ [')']).map fun c => .letter { char := c, quoted := true }
  | .channel text reads line => return letters true (← x.channel text reads line)

/-- The glyphs of a word. Texts inside have less fuel than the word. -/
def glyphsWith (x : Surroundings) (fuel : Nat) (u : Usage) (w : Word) : Run (List Glyph) :=
  match fuel with
  | 0 => pure []
  | fuel + 1 => do
    let inner (line : Nat) (u : Usage) (style : InnerStyle) (text : List Char) : Run (List Glyph) := do
      let s ← get
      match style with
      | .bare => glyphsWith x fuel u (expandTilde s false (Token.ofText s.dialect false line text))
      | .quoted => glyphsWith x fuel u (Token.ofText s.dialect true line text)
      | .expression =>
        glyphsWith x fuel u
          (if s.isExtended then Token.ofText s.dialect true line text else Token.ofDocument s.dialect line text)
    let all ← w.mapM (piece x inner u)
    return all.flatten

/-- How deep texts may stand inside each other in a word: each is shorter than the one around it. -/
def nesting (w : Word) : Nat :=
  w.foldl (fun n p => match p with
    | .braced text .. | .arithmetic text .. => max n text.length
    | _ => n) 0 + 2

def glyphs (x : Surroundings) (u : Usage) (w : Word) : Run (List Glyph) := glyphsWith x (nesting w) u w

/-! ### Fields -/

/-- The fields so far: those that are complete, and the one that has begun. -/
structure Fields where
  done : List (List Letter) := []
  current : List Letter := []
  /-- A field has begun. -/
  begun : Bool := false
  /-- It has begun with quotes, so many more than lists without values. -/
  quotes : Nat := 0
  /-- The last field ended at white space. -/
  blank : Bool := false

def Fields.finish (f : Fields) : Fields :=
  if f.begun && (f.current ≠ [] || f.quotes ≠ 0) then { done := f.current :: f.done } else { f with current := [], begun := false, quotes := 0 }

def isBlankSeparator (c : Char) : Bool := c == ' ' || c == '\t' || c == '\n'

/-- Takes the next glyph in. -/
def Fields.add (separators : List Char) (f : Fields) (g : Glyph) : Fields :=
  match g with
  | .gap => f.finish
  | .quotes => { f with begun := true, quotes := f.quotes + 1, blank := false }
  | .nothing => { f with begun := true, quotes := f.quotes - 1 }
  | .letter l =>
    if l.splits && separators.contains l.char then
      let begun := f.begun && (f.current ≠ [] || f.quotes ≠ 0)
      if isBlankSeparator l.char then if begun then { f.finish with blank := true } else f
      else if begun then f.finish
      else if f.blank then { f with blank := false }
      else { f with done := [] :: f.done }
    else { f with current := l :: f.current, begun := true, blank := false }

/-- The fields of glyphs. -/
def fieldsOf (separators : List Char) (glyphs : List Glyph) : List (List Letter) :=
  (glyphs.foldl (Fields.add separators) {}).finish.done.reverse.map List.reverse

/-! ### Paths -/

/-- Cuts letters at slashes. -/
def components : List Letter → List (List Letter)
  | [] => [[]]
  | l :: rest =>
    match components rest with
    | [] => [[l]]
    | first :: others => if l.char = '/' then [] :: first :: others else (l :: first) :: others

def sortTexts (texts : List ByteText) : List ByteText := texts.mergeSort fun a b => !(b < a)

/-- The paths that begin with `sofar` and go on as the components say. -/
def paths (d : Dialect) (sofar : ByteText) : List (List Letter) → Routine (List ByteText)
  | [] => pure [sofar]
  | component :: rest => do
    let next (name : ByteText) : ByteText := sofar ++ name ++ if rest = [] then [] else ['/']
    if !Pattern.isPattern d component then
      let path := next (let cs := component.map (·.char); if d = .extended then ByteText.ofCharacters cs else cs)
      if rest = [] && component ≠ [] then
        match ← Routine.facts path with
        | .ok _ => pure [path]
        | .error _ => pure []
      else paths d path rest
    else
      match ← Routine.list (if sofar = [] then ['.'] else sofar) with
      | .error _ => pure []
      | .ok names =>
        let hidden := component.head?.any (·.char = '.')
        let found := (sortTexts names.eraseDups).filter fun name =>
          (hidden || name.head? ≠ some '.') &&
            Pattern.isMatch d component (if d = .extended then ByteText.characters name else name)
        let all ← found.mapM fun name => do
          if rest = [] then pure [next name]
          else
            match ← Routine.facts (sofar ++ name) with
            | .ok facts => if facts.kind = .directory then paths d (next name) rest else pure []
            | .error _ => pure []
        pure all.flatten

/-- The texts that a field stands for: the paths that it matches if it is a pattern, or itself. -/
def resolve (field : List Letter) : Run (List ByteText) := do
  let s ← get
  let text := field.map (·.char)
  if s.hasOption 'f' || !Pattern.isPattern .plain field then return [text]
  match ← Run.routine (paths s.dialect [] (components (seenLetters s (Pattern.unescaped field)))) with
  | [] => return if s.hasLongOption "nullglob" then [] else [text]
  | found => return sortTexts found

/-! ### Whole expansions -/

/-- The fields that a word stands for. -/
def fields (x : Surroundings) (w : Word) : Run (List ByteText) := do
  let s ← get
  let words := if s.isExtended then Braces.expand w else [w]
  let all ← words.mapM fun w => do
    let found ← glyphs x {} (expandTilde s false w)
    let resolved ← (fieldsOf (← get).separators found).mapM resolve
    return resolved.flatten
  return all.flatten

def allFields (x : Surroundings) (ws : List Word) : Run (List ByteText) := return (← ws.mapM (fields x)).flatten

/-- A word as one text. -/
def text (x : Surroundings) (w : Word) : Run ByteText := do
  let s ← get
  return plainText (← glyphs x { whole := true } (expandTilde s false w))

/-- The value of an assignment. -/
def value (x : Surroundings) (w : Word) : Run ByteText := do
  let s ← get
  return plainText (← glyphs x { whole := true } (expandTildes s (w.length + 1) w))

/-- A word as a pattern. -/
def pattern (x : Surroundings) (w : Word) : Run (List Letter) := do
  let s ← get
  return seenLetters s (patternOf (← glyphs x { whole := true } (expandTilde s false w)))

/-- A document as one text. -/
def document (x : Surroundings) (w : Word) : Run ByteText := return plainText (← glyphs x { whole := true } w)

end OrderlyExit.Shell.Expansion
