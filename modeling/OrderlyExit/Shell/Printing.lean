import OrderlyExit.Shell.Arithmetic
import OrderlyExit.Text.Floating
import OrderlyExit.Text.Quoted

/-!
What the commands `echo` and `printf` write. There are three makes of them, with their own escapes, number
formats and complaints: that of the plain shell, that of the extended shell, and the programs. Texts are
bytes, each one as the character of its number.
-/

namespace OrderlyExit.Shell.Printing

inductive Make
  | plain
  | extended
  | program
  deriving DecidableEq, Repr

/-! ### Lines -/

/-- The escapes in lines. -/
def lineRules : Make → Escape.Rules
  | .plain => { stops := true }
  | .extended => { octal := .afterZero, hex := true, unicode := true, stops := true, capital := true }
  | .program => { hex := true, stops := true }

/-- The letters of an argument that holds options of `echo`. -/
def echoOptions? (arg : List Char) : Option (List Char) :=
  match arg with
  | '-' :: c :: cs => if (c :: cs).all fun c => c = 'n' || c = 'e' || c = 'E' then some (c :: cs) else none
  | _ => none

/-- Takes the options off the arguments of `echo`: whether a line end is written, and whether escapes are
resolved. -/
def takeEchoOptions (newline escapes : Bool) : List (List Char) → Bool × Bool × List (List Char)
  | [] => (newline, escapes, [])
  | arg :: rest =>
    match echoOptions? arg with
    | none => (newline, escapes, arg :: rest)
    | some letters =>
      let escapes := match (letters.filter (· ≠ 'n')).getLast? with
        | some letter => letter == 'e'
        | none => escapes
      takeEchoOptions (newline && !letters.contains 'n') escapes rest

/-- What `echo` writes. -/
def echo (make : Make) (args : List (List Char)) : List Char :=
  let (newline, escapes, args) :=
    if make = .plain then
      match args with
      | ['-', 'n'] :: rest => (false, true, rest)
      | args => (true, true, args)
    else takeEchoOptions true false args
  let line := ([' '] : List Char).intercalate args
  let (text, stop) := if escapes then Escape.resolve (lineRules make) line else (line, false)
  if stop || !newline then text else text ++ ['\n']

/-! ### Formats -/

/-- Flags, width and precision of a conversion. -/
structure Layout where
  left : Bool := false
  zeros : Bool := false
  plus : Bool := false
  blank : Bool := false
  marked : Bool := false
  width : Nat := 0
  precision : Option Nat := none

/-- Pads a text to the width. -/
def Layout.pad (l : Layout) (cs : List Char) : List Char :=
  let blanks := List.replicate (l.width - cs.length) ' '
  if l.left then cs ++ blanks else blanks ++ cs

/-- The sign in front of a number. -/
def Layout.sign (l : Layout) (negative : Bool) : List Char :=
  if negative then ['-'] else if l.plus then ['+'] else if l.blank then [' '] else []

/-- Digits with what stands in front of them, padded. -/
def Layout.number (l : Layout) (front digits : List Char) : List Char :=
  let digits := if l.precision = some 0 && digits = ['0'] then [] else digits
  let least := match l.precision with
    | some p => p
    | none => if l.zeros && !l.left then l.width - front.length else 0
  l.pad (front ++ List.replicate (least - digits.length) '0' ++ digits)

/-- Octal digits, of which the first is a zero if they are to be marked. -/
def Layout.octal (l : Layout) (digits : List Char) : List Char :=
  if !l.marked then l.number [] digits
  else
    let own := l.number [] digits |>.filter (· ≠ ' ')
    if own.head? = some '0' then l.number [] digits else l.pad ('0' :: own)

/-- The flags at the front of a conversion. All but the plain shell know one that groups digits, which it does
not do here. -/
def readFlags (make : Make) (l : Layout) : List Char → Layout × List Char
  | [] => (l, [])
  | c :: rest =>
    if c = '-' then readFlags make { l with left := true } rest
    else if c = '0' then readFlags make { l with zeros := true } rest
    else if c = '+' then readFlags make { l with plus := true } rest
    else if c = ' ' then readFlags make { l with blank := true } rest
    else if c = '#' then readFlags make { l with marked := true } rest
    else if c = '\'' && make ≠ .plain then readFlags make l rest
    else (l, c :: rest)

/-! ### Numbers in arguments -/

/-- What a number in an argument comes to, and what is wrong with it. -/
inductive NumberFault
  | none
  | notNumeric
  | trailing
  | tooLarge
  deriving DecidableEq, Repr

/-- The code of the character behind a quote. -/
def quotedCode? (make : Make) (arg : List Char) : Option Int :=
  match arg with
  | c :: rest =>
    if c = '\'' ∨ c = '"' then
      let code : Nat := match make, Utf8.decodeLossy (ByteText.toBytes rest) with
        | .plain, _ => (rest.head?.map Char.toNat).getD 0
        | _, d :: _ => d.toNat
        | _, [] => 0
      some code
    else none
  | [] => none

/-- What is wrong with a number that is too large or has something behind it. The programs look at its size
first, the shells at what follows it. -/
def numberFault (make : Make) (large trails : Bool) : NumberFault :=
  if trails && !(large && make = .program) then .trailing else if large then .tooLarge else .none

/-- The precision of numbers with a fraction. -/
def precision (make : Make) : Floating.Precision := if make = .plain then .double else .extended

/-- A whole number in an argument, brought into the range of numbers with or without a sign. -/
def readInteger (make : Make) (signed : Bool) (arg : List Char) : Int × NumberFault :=
  match quotedCode? make arg with
  | some n => (n, .none)
  | none =>
    let body := arg.dropWhile Arithmetic.isSpace
    let negative := body.head? = some '-'
    let digits := if negative || body.head? = some '+' then body.drop 1 else body
    if arg = [] then (0, .none)
    else if !(digits.head?.any Char.isDigit) then (0, .notNumeric)
    else
      let (n, rest) := Arithmetic.number digits
      let value : Int := if negative then -(n : Int) else n
      let half : Int := (UInt64.size / 2 : Nat)
      let (value, large) :=
        if signed then
          if value < -half then (-half, true) else if half ≤ value then (half - 1, true) else (value, false)
        else if UInt64.size ≤ n then ((UInt64.size - 1 : Nat), true) else ((Arithmetic.word value : Int), false)
      (value, numberFault make large (rest ≠ []))

/-- A number with a fraction in an argument. -/
def readFloating (make : Make) (arg : List Char) : Floating × NumberFault :=
  match quotedCode? make arg with
  | some n => ({ magnitude := .finite n.toNat 1 }, .none)
  | none =>
    if arg = [] then (Floating.zero, .none)
    else
      match Floating.numeral? (arg.dropWhile Arithmetic.isSpace) with
      | some (f, rest) => (f.rounded (precision make), numberFault make (f.exceeds (precision make)) (rest ≠ []))
      | none => (Floating.zero, .notNumeric)

/-- What is said about a faulty number. -/
def faultMessage (make : Make) (arg : List Char) : NumberFault → List Char
  | .none => []
  | .notNumeric =>
    match make with
    | .plain => arg ++ ": expected numeric value".toList
    | .extended => invalid arg
    | .program => quoteMark arg ++ ": expected a numeric value".toList
  | .trailing =>
    match make with
    | .plain => arg ++ ": not completely converted".toList
    | .extended => invalid arg
    | .program => quoteMark arg ++ ": value not completely converted".toList
  | .tooLarge =>
    match make with
    | .plain => arg ++ ": Numerical result out of range".toList
    | .extended => "warning: ".toList ++ arg ++ ": Numerical result out of range".toList
    | .program => quoteMark arg ++ ": Numerical result out of range".toList
where
  /-- The complaint of the extended shell, which goes by the first two characters. -/
  invalid (arg : List Char) : List Char :=
    let kind := match arg with
      | '0' :: c :: _ => if c.isDigit then ": invalid octal number" else if c = 'x' then ": invalid hex number" else ": invalid number"
      | _ => ": invalid number"
    arg ++ kind.toList
  /-- A text between quotation marks. -/
  quoteMark (cs : List Char) : List Char :=
    ByteText.ofBytes (Utf8.encode ['‘']) ++ cs ++ ByteText.ofBytes (Utf8.encode ['’'])

/-! ### Conversions -/

/-- The numeral of `n` in base eight. -/
def octalDigits (n : Nat) : List Char :=
  if n < 8 then [Char.ofNat (48 + n)] else octalDigits (n / 8) ++ [Char.ofNat (48 + n % 8)]
termination_by n
decreasing_by omega

/-- A text with quotes where it needs them: not at all, with backslashes, or between quotes. -/
def shellQuoted (make : Make) (text : List Char) : List Char :=
  let safe (c : Char) : Bool := c.isAlphanum || "_-./:=@%+,^".toList.contains c || c.toNat > 127
  if text = [] then "''".toList
  else if text.all safe then text
  else if make = .extended then
    if text.any (fun c => c < ' ' || c = '\x7f') then
      "$'".toList ++ (text.flatMap fun c =>
        if c = '\n' then "\\n".toList else if c = '\t' then "\\t".toList else if c = '\'' then "\\'".toList
        else if c = '\\' then "\\\\".toList else [c]) ++ ['\'']
    else text.flatMap fun c => if safe c then [c] else ['\\', c]
  else if text.contains '\'' && !text.any (fun c => "$`\\\"!".toList.contains c) then '"' :: text ++ ['"']
  else '\'' :: (text.flatMap fun c => if c = '\'' then "'\\''".toList else [c]) ++ ['\'']

/-- A part of what a command writes. -/
inductive Chunk
  | output (text : List Char)
  | complaint (text : List Char)
  deriving Repr

/-- The output so far. -/
structure Progress where
  /-- The last part first. -/
  chunks : List Chunk := []
  args : List (List Char)
  status : Nat := 0
  /-- Nothing follows. -/
  stopped : Bool := false

namespace Progress

def put (p : Progress) (text : List Char) : Progress := { p with chunks := .output text :: p.chunks }

def complain (p : Progress) (text : List Char) : Progress := { p with chunks := .complaint text :: p.chunks }

/-- Takes the next argument. -/
def next (p : Progress) : List Char × Progress := (p.args.head?.getD [], { p with args := p.args.drop 1 })

/-- Notes a faulty number. -/
def note (make : Make) (arg : List Char) (fault : NumberFault) (p : Progress) : Progress :=
  match fault with
  | .none => p
  | fault =>
    let p := p.complain (faultMessage make arg fault)
    if make = .extended && fault = .tooLarge then p else { p with status := 1 }

end Progress

/-- The escapes in formats and in arguments that have escapes resolved. -/
def formatRules : Make → Escape.Rules
  | .plain => { octal := .short, marks := ['"', '\''] }
  | .extended => { octal := .short, hex := true, unicode := true, marks := ['"', '\'', '?'] }
  | .program => { octal := .short, hex := true, unicode := true, stops := true, marks := ['"'] }

def argumentRules : Make → Escape.Rules
  | .plain => { stops := true }
  | .extended => { hex := true, unicode := true, stops := true, capital := true }
  | .program => { hex := true, unicode := true, stops := true, marks := ['"'] }

/-- The width or precision of a conversion: digits, or a star for the next argument. -/
def readAmount (make : Make) (s : List Char) (p : Progress) : Int × List Char × Progress :=
  match s with
  | '*' :: rest =>
    let (arg, p) := p.next
    let (n, fault) := readInteger make true arg
    (n, rest, p.note make arg fault)
  | s => (Decimal.value (s.takeWhile Char.isDigit), s.dropWhile Char.isDigit, p)

/-- Flags, width and precision of a conversion, and what follows them. -/
def readLayout (make : Make) (s : List Char) (p : Progress) : Layout × List Char × Progress :=
  let (l, s) := readFlags make {} s
  let (width, s, p) := readAmount make s p
  let l := { l with width := width.natAbs, left := l.left || width < 0 }
  match s with
  | '.' :: rest =>
    let (precision, s, p) := readAmount make rest p
    ({ l with precision := if precision < 0 then none else some precision.toNat }, s, p)
  | s => (l, s, p)

/-- Writes one argument as a conversion says. -/
def convert (make : Make) (l : Layout) (kind : Char) (p : Progress) : Option Progress :=
  let cut (cs : List Char) : List Char := match l.precision with
    | some n => cs.take n
    | none => cs
  let (arg, next) := p.next
  let integer (signed : Bool) (digits : Int → List Char × List Char) : Option Progress :=
    let (n, fault) := readInteger make signed arg
    let (front, digits) := digits n
    some ((next.note make arg fault).put (l.number front digits))
  if kind = 's' then some (next.put (l.pad (cut arg)))
  else if kind = 'b' then
    if make = .program && (l.width ≠ 0 || l.precision.isSome) then none
    else
      let (cs, stop) := Escape.resolve (argumentRules make) arg
      some { next.put (l.pad (cut cs)) with stopped := stop }
  else if kind = 'q' && make ≠ .plain then some (next.put (l.pad (shellQuoted make arg)))
  else if kind = 'c' then some (next.put (l.pad (if arg = [] && make ≠ .program then ['\x00'] else arg.take 1)))
  else if kind = 'd' ∨ kind = 'i' then integer true fun n => (l.sign (n < 0), Decimal.digits n.natAbs)
  else if kind = 'u' then integer false fun n => ([], Decimal.digits n.toNat)
  else if kind = 'o' then
    let (n, fault) := readInteger make false arg
    some ((next.note make arg fault).put (l.octal (octalDigits n.toNat)))
  else if kind = 'x' then integer false fun n => (if l.marked && n ≠ 0 then "0x".toList else [], Quoted.hex n.toNat)
  else if kind = 'X' then
    integer false fun n => (if l.marked && n ≠ 0 then "0X".toList else [], (Quoted.hex n.toNat).map Char.toUpper)
  else if "eEfFgGaA".toList.contains kind then
    let (f, fault) := readFloating make arg
    let (mark, body, finite) : List Char × List Char × Bool := match f.magnitude, kind.toLower with
      | .finite num den, 'a' =>
        ("0x".toList, Floating.hexadecimal (if make = .plain then .double else .extended) l.precision l.marked num den, true)
      | .finite .., _ => ([], Floating.text { places := l.precision.getD 6, point := l.marked } kind f.magnitude, true)
      | m, _ => ([], Floating.text {} kind m, false)
    let (mark, body) := if kind = 'A' then (mark.map Char.toUpper, body.map Char.toUpper) else (mark, body)
    let front := l.sign f.negative ++ mark
    let zeros := if l.zeros && !l.left && finite then List.replicate (l.width - front.length - body.length) '0' else []
    some ((next.note make arg fault).put (l.pad (front ++ zeros ++ body)))
  else none

/-- Complains about a conversion that does not exist; nothing follows. -/
def refuse (make : Make) (directive : List Char) (p : Progress) : Progress :=
  let message := match make with
    | .plain => directive ++ ": invalid directive".toList
    | .extended => '\x60' :: (directive.getLast?.toList) ++ "': invalid format character".toList
    | .program => directive ++ ": invalid conversion specification".toList
  { p.complain message with status := if make = .plain then 2 else 1, stopped := true }

/-- Complains about a format that ends inside of a conversion. -/
def breakOff (make : Make) (directive : List Char) (p : Progress) : Progress :=
  match make with
  | .plain => { p.complain "missing format character".toList with status := 2, stopped := true }
  | .extended =>
    { p.complain ('\x60' :: directive ++ "': missing format character".toList) with status := 1, stopped := true }
  | .program => refuse make directive p

/-- Goes over a format once and takes the arguments it asks for. -/
def pass (make : Make) (fuel : Nat) (format : List Char) (p : Progress) : Progress :=
  match fuel, format with
  | 0, _ | _, [] => p
  | fuel + 1, c :: rest =>
    if p.stopped then p
    else if c = '\\' then
      match Escape.read (formatRules make) rest with
      | .text cs rest => pass make fuel rest (p.put cs)
      | .stop => { p with stopped := true }
    else if c = '%' then
      match rest with
      | '%' :: rest => pass make fuel rest (p.put ['%'])
      | rest =>
        let (l, after, p) := readLayout make rest p
        let after := if make = .plain then after else after.dropWhile fun c => "hlLjtz".toList.contains c
        match after with
        | [] => breakOff make ('%' :: rest) p
        | kind :: more =>
          match convert make l kind p with
          | some p => pass make fuel more p
          | none => refuse make ('%' :: rest.take (rest.length - more.length)) p
    else
      let run := rest.takeWhile fun c => c ≠ '\\' && c ≠ '%'
      pass make fuel (rest.drop run.length) (p.put (c :: run))

/-- Goes over a format as often as arguments remain. -/
def passes (make : Make) (rounds : Nat) (format : List Char) (p : Progress) : Progress :=
  let next := pass make (format.length + 1) format p
  match rounds with
  | 0 => next
  | rounds + 1 =>
    if next.stopped || next.args.isEmpty || next.args.length == p.args.length then next
    else passes make rounds format next

/-- What `printf` does with a format and arguments. -/
def printf (make : Make) (format : List Char) (args : List (List Char)) : Progress :=
  let p := passes make args.length format { args := args }
  { p with chunks := p.chunks.reverse }

/-- All the output of chunks. -/
def outputOf (chunks : List Chunk) : List Char := chunks.flatMap fun c => match c with
  | .output text => text
  | .complaint _ => []

def complaintsOf (chunks : List Chunk) : List (List Char) := chunks.filterMap fun c => match c with
  | .output _ => none
  | .complaint text => some text

end OrderlyExit.Shell.Printing
