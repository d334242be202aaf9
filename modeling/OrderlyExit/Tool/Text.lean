import OrderlyExit.Tool.Basic
import OrderlyExit.Shell.Escape
import OrderlyExit.Shell.Pattern

/-!
Programs that read text and write some of it, or something about it.
-/

namespace OrderlyExit.Tool

open Host (Routine)

/-- Says that a number in an argument is none. -/
def wrongCount (name what value : ByteText) : Routine Nat := do
  complain name ("invalid number of ".toList ++ what ++ ": ".toList ++ quoted value)
  return 1

/-! ### Whole files -/

/-- Copies a descriptor to the output while something arrives. -/
def copyAll (name path : ByteText) (descriptor fuel : Nat) : Routine Nat :=
  match fuel with
  | 0 => pure 0
  | fuel + 1 => do
    match ← Routine.read descriptor Routine.blockSize with
    | .error e =>
      complainOf name path e
      return 1
    | .ok [] => return 0
    | .ok text =>
      let code ← emit name text
      if code = 0 then copyAll name path descriptor fuel else return code

/-- A byte as it is shown when everything is shown. -/
def visible (tabs : Bool) (c : Char) : ByteText :=
  let low (c : Char) : ByteText :=
    if c < ' ' then ['^', Char.ofNat (c.toNat + 64)] else if c = '\x7f' then "^?".toList else [c]
  if c = '\n' ∨ (c = '\t' ∧ !tabs) then [c]
  else if c.toNat < 128 then low c
  else "M-".toList ++ low (Char.ofNat (c.toNat - 128))

/-- What `cat` does with one line. -/
def decorate (a : Arguments) (state : Nat × Bool) (line : ByteText) : Step (Nat × Bool) :=
  let (number, wasBlank) := state
  let blank := line = ['\n']
  if a.has 's' && blank && wasBlank then { state := (number, true) }
  else
    let counts := if a.has 'b' then !blank else a.has 'n'
    let front := if counts then Decimal.blankPadded 6 (number + 1) ++ ['\t'] else []
    let shows := a.has 'v' || a.has 'e' || a.has 't' || a.has 'A'
    let tabs := a.has 'T' || a.has 't' || a.has 'A'
    let body := if shows then line.flatMap (visible tabs)
      else if tabs then line.flatMap fun c => if c = '\t' then "^I".toList else [c] else line
    let ends := a.has 'E' || a.has 'e' || a.has 'A'
    let body := if ends && body.getLast? = some '\n' then body.dropLast ++ "$\n".toList else body
    { state := (if counts then number + 1 else number, blank), output := front ++ body }

def cat : Tool := withOptions (flags "nbsEATvetu") false 1 fun name a _ => do
  if a.given.all (·.1 = 'u') then
    let codes ← (orInput a.operands).mapM fun path => do
      match ← openOperand path with
      | .error e =>
        complainOf name path e
        return 1
      | .ok n =>
        let code ← copyAll name path n Routine.manyRounds
        closeOperand path n
        return code
    return codes.foldl max 0
  else return (← filter name a.operands (0, false) (decorate a) fun _ => []).2

/-- Writes to the output and to files what arrives. -/
def copyTo (name : ByteText) (files : List Nat) (fuel : Nat) : Routine Nat :=
  match fuel with
  | 0 => pure 0
  | fuel + 1 => do
    match ← Routine.read 0 Routine.blockSize with
    | .error _ => return 1
    | .ok [] => return 0
    | .ok text =>
      let code ← emit name text
      for n in files do discard <| Routine.writeAll n text
      if code = 0 then copyTo name files fuel else return code

def tee : Tool := withOptions (flags "aip") false 1 fun name a _ => do
  let opened ← a.operands.mapM fun path => do
    let appends := a.has 'a'
    match ← Routine.openFile path { writes := true, creates := true, appends, truncates := !appends } with
    | .ok n => return some n
    | .error e =>
      complainOf name path e
      return none
  let code ← copyTo name (opened.filterMap fun n => n) Routine.manyRounds
  return if opened.all Option.isSome then code else 1

/-! ### Beginnings and ends -/

/-- A count in an argument, perhaps with a sign and a unit. -/
def count? (text : ByteText) : Option (Option Char × Nat) :=
  let (sign, rest) := match text with
    | '-' :: rest => (some '-', rest)
    | '+' :: rest => (some '+', rest)
    | rest => (none, rest)
  let digits := rest.takeWhile Char.isDigit
  let unit? : Option Nat := match String.ofList (rest.drop digits.length) with
    | "" => some 1
    | "b" => some 512
    | "K" | "k" | "KiB" => some 1024
    | "kB" | "KB" => some 1000
    | "M" => some 1048576
    | _ => none
  match unit? with
  | some unit => if digits = [] then none else some (sign, Decimal.value digits * unit)
  | none => none

/-- An argument that is a count behind a dash, as the option that it stands for. -/
def countOption (args : List ByteText) : List ByteText :=
  match args with
  | name :: ('-' :: d :: ds) :: rest =>
    if (d :: ds).all Char.isDigit then name :: "-n".toList :: (d :: ds) :: rest else args
  | args => args

/-- What is wanted of a file. -/
structure Portion where
  bytes : Bool
  sign : Option Char
  size : Nat

/-- Reads which portion is wanted, or the value that makes no sense. -/
def readPortion (a : Arguments) : Except ByteText Portion :=
  match (a.given.filter fun (c, _) => c = 'n' || c = 'c').getLast? with
  | none => .ok ⟨false, none, 10⟩
  | some (c, v) =>
    match count? v with
    | some (sign, size) => .ok ⟨c = 'c', sign, size⟩
    | none => .error v

/-- Writes the first bytes or lines that arrive. -/
def copyFirst (name : ByteText) (p : Portion) (descriptor fuel left : Nat) : Routine Nat :=
  match fuel with
  | 0 => pure 0
  | fuel + 1 => do
    if left = 0 then return 0
    match ← Routine.read descriptor (if p.bytes then min left Routine.blockSize else Routine.blockSize) with
    | .error _ | .ok [] => return 0
    | .ok text =>
      let taken := if p.bytes then [text] else (cutLines text).take left
      let code ← emit name taken.flatten
      let used := if p.bytes then text.length else (taken.filter fun l => l.getLast? = some '\n').length
      if code = 0 then copyFirst name p descriptor fuel (left - used) else return code

/-- The title of a file among several. -/
def title (first : Bool) (path : ByteText) : ByteText :=
  (if first then [] else ['\n']) ++ "==> ".toList ++ (if path = ['-'] then "standard input".toList else path) ++
    " <==\n".toList

/-- Writes a portion of each operand, under titles if there are several. -/
def eachPortion (name : ByteText) (titled : Bool) (write : ByteText → Nat → Routine Nat) (first : Bool) :
    List ByteText → Routine Nat
  | [] => pure 0
  | path :: rest => do
    match ← openOperand path with
    | .error e =>
      complain name ("cannot open ".toList ++ quoted path ++ " for reading: ".toList ++ e.description.toList)
      discard <| eachPortion name titled write first rest
      return 1
    | .ok n =>
      if titled then discard <| Routine.writeAll 1 (title first path)
      let code ← write path n
      closeOperand path n
      let more ← eachPortion name titled write false rest
      return max code more

def portionRules : List Rule :=
  [{ letter := 'n', long := "lines", takesValue := true }, { letter := 'c', long := "bytes", takesValue := true },
   { letter := 'q', long := "quiet" }, { letter := 'v', long := "verbose" }, { letter := 'f', long := "follow" },
   { letter := 's', long := "sleep-interval", takesValue := true }]

/-- Whether the files have titles. -/
def isTitled (a : Arguments) : Bool := (a.operands.length > 1 || a.has 'v') && !a.has 'q'

def head : Tool := fun args environment =>
  withOptions portionRules false 1 (fun name a _ => do
    match readPortion a with
    | .error v =>
      wrongCount name (if a.has 'c' then "bytes" else "lines").toList v
    | .ok p =>
      let write (_ : ByteText) (n : Nat) : Routine Nat := do
        if p.sign = some '-' then
          let text := ((← Routine.readAll n).toOption).getD []
          let ls := cutLines text
          emit name (if p.bytes then text.take (text.length - p.size) else (ls.take (ls.length - p.size)).flatten)
        else copyFirst name p n Routine.manyRounds p.size
      eachPortion name (isTitled a) write true (orInput a.operands)) (countOption args) environment

/-- Writes what is added to a file, again and again. -/
def follow (name : ByteText) (descriptor fuel : Nat) : Routine Nat :=
  match fuel with
  | 0 => pure 0
  | fuel + 1 => do
    match ← Routine.read descriptor Routine.blockSize with
    | .error _ => return 1
    | .ok [] =>
      let now ← Routine.now
      discard <| Routine.pause (some (now + 100000000))
      follow name descriptor fuel
    | .ok text =>
      discard <| emit name text
      follow name descriptor fuel

def tail : Tool := fun args environment =>
  withOptions portionRules false 1 (fun name a _ => do
    match readPortion a with
    | .error v =>
      wrongCount name (if a.has 'c' then "bytes" else "lines").toList v
    | .ok p =>
      let write (path : ByteText) (n : Nat) : Routine Nat := do
        match ← Routine.readAll n with
        | .error e =>
          complain name ("error reading ".toList ++ quoted path ++ ": ".toList ++ e.description.toList)
          return 1
        | .ok text =>
          let ls := cutLines text
          let code ← emit name (match p.sign, p.bytes with
            | some '+', true => text.drop (p.size - 1)
            | some '+', false => (ls.drop (p.size - 1)).flatten
            | _, true => text.drop (text.length - p.size)
            | _, false => (ls.drop (ls.length - p.size)).flatten)
          if a.has 'f' && path ≠ ['-'] then follow name n Routine.manyRounds else return code
      eachPortion name (isTitled a) write true (orInput a.operands)) (countOption args) environment

/-! ### Counting -/

/-- The counts of a text: lines, words, characters, bytes, and the length of the longest line. -/
structure Counts where
  lines : Nat
  words : Nat
  chars : Nat
  bytes : Nat
  longest : Nat

def Counts.of (text : ByteText) : Counts where
  lines := (text.filter (· = '\n')).length
  words := ((text.splitBy fun a b => isGap a == isGap b).filter fun w => !w.head?.any isGap).length
  chars := (Utf8.decodeLossy (ByteText.toBytes text)).length
  bytes := text.length
  longest := (Tool.lines text).foldl (fun n l => max n l.length) 0
where
  /-- Whether a character separates words. -/
  isGap (c : Char) : Bool := c == ' ' || ('\t' ≤ c && c ≤ '\r')

def Counts.add (a b : Counts) : Counts :=
  ⟨a.lines + b.lines, a.words + b.words, a.chars + b.chars, a.bytes + b.bytes, max a.longest b.longest⟩

/-- The counts that are wanted, in their order. -/
def Counts.shown (a : Arguments) (c : Counts) : List Nat :=
  let standard := a.given = []
  (if standard || a.has 'l' then [c.lines] else []) ++ (if standard || a.has 'w' then [c.words] else []) ++
    (if a.has 'm' then [c.chars] else []) ++ (if standard || a.has 'c' then [c.bytes] else []) ++
    if a.has 'L' then [c.longest] else []

def wc : Tool := withOptions
    (flags "lwcmL" ++ [{ letter := 'l', long := "lines" }, { letter := 'w', long := "words" },
      { letter := 'c', long := "bytes" }, { letter := 'm', long := "chars" }]) false 1 fun name a _ => do
  let (texts, code) ← contents name (orInput a.operands)
  let counts := texts.map fun (path, text) => (path, Counts.of text)
  let total := counts.foldl (fun t (_, c) => t.add c) (Counts.of [])
  let columns := (total.shown a).length
  let width := if a.operands = [] ∨ a.operands.contains ['-'] then (if columns = 1 then 1 else 7)
    else if columns = 1 ∧ a.operands.length = 1 then 1 else (Decimal.digits total.bytes).length
  let row (path : ByteText) (c : Counts) : ByteText :=
    ([' '] : List Char).intercalate ((c.shown a).map (Decimal.blankPadded width)) ++
      if a.operands = [] then [] else ' ' :: path
  let rows := counts.map fun (path, c) => row path c
  let written ← emit name (joined (if a.operands.length > 1 then rows ++ [row "total".toList total] else rows))
  return max code written

/-! ### Order -/

/-- A number at the front of a text, for ordering: in units of the sixth place. -/
def leadingNumber (text : ByteText) : Int :=
  let body := text.dropWhile fun c => c = ' ' || c = '\t'
  let negative := body.head? = some '-'
  let digits := if negative then body.drop 1 else body
  let whole := digits.takeWhile Char.isDigit
  let places := match digits.drop whole.length with
    | '.' :: rest => (rest.takeWhile Char.isDigit).take 6
    | _ => []
  let n : Int := Decimal.value (whole ++ places ++ List.replicate (6 - places.length) '0')
  if negative then -n else n

/-- The fields of a line: between separators, or each with the blanks in front of it. -/
def fieldsOf (separator : Option Char) (line : ByteText) : List ByteText :=
  match separator with
  | some c => line.splitOn c
  | none =>
    let isBlank (c : Char) : Bool := c = ' ' || c = '\t'
    line.splitBy fun a b => !(!isBlank a && isBlank b)

/-- A key for ordering: the first field and the last one. -/
structure Key where
  first : Nat
  last : Option Nat
  letters : List Char

/-- Reads a key. -/
def Key.read (text : ByteText) : Key :=
  let first := text.takeWhile Char.isDigit
  let rest := text.drop first.length
  let rest := match rest with
    | '.' :: more => more.dropWhile Char.isDigit
    | rest => rest
  let letters := rest.takeWhile Char.isAlpha
  match rest.drop letters.length with
  | ',' :: more =>
    let last := more.takeWhile Char.isDigit
    ⟨Decimal.value first, some (Decimal.value last), letters ++ (more.drop last.length).filter Char.isAlpha⟩
  | _ => ⟨Decimal.value first, none, letters⟩

/-- The part of a line that a key selects. -/
def Key.part (k : Key) (separator : Option Char) (line : ByteText) : ByteText :=
  let fields := (fieldsOf separator line).drop (k.first - 1)
  let chosen := match k.last with
    | some last => fields.take (last + 1 - k.first)
    | none => fields
  match separator with
  | some c => [c].intercalate chosen
  | none => chosen.flatten

/-- How two texts compare under some options. -/
def compareWith (letters : List Char) (a b : ByteText) : Ordering :=
  let skip (t : ByteText) : ByteText := if letters.contains 'b' then t.dropWhile fun c => c = ' ' || c = '\t' else t
  let fold (t : ByteText) : ByteText := if letters.contains 'f' then t.map Char.toUpper else t
  let order := if letters.contains 'n' || letters.contains 'g' || letters.contains 'h' then
      compare (leadingNumber a) (leadingNumber b)
    else
      let (x, y) := (fold (skip a), fold (skip b))
      if x < y then .lt else if y < x then .gt else .eq
  if letters.contains 'r' then order.swap else order

def sort : Tool := withOptions
    (flags "nrufbgshcmzVdi" ++ valued "ktoST" ++ [{ letter := 'n', long := "numeric-sort" },
      { letter := 'r', long := "reverse" }, { letter := 'u', long := "unique" }]) false 2 fun name a _ => do
  let (texts, code) ← contents name (orInput a.operands)
  let all := texts.flatMap fun (_, text) => lines text
  let global := (a.given.map (·.1)).filter fun c => "nrfbgh".toList.contains c
  let separator := (a.value? 't').bind List.head?
  let keys := (a.values 'k').map Key.read
  let byKeys (x y : ByteText) : Ordering :=
    if keys = [] then compareWith global x y
    else keys.foldl (fun order k =>
      order.then (compareWith (if k.letters = [] then global else k.letters) (k.part separator x) (k.part separator y))) .eq
  let whole (x y : ByteText) : Ordering :=
    if a.has 'u' || a.has 's' then byKeys x y
    else (byKeys x y).then (compareWith (if global.contains 'r' then ['r'] else []) x y)
  let ordered := all.mergeSort fun x y => whole x y ≠ .gt
  if a.has 'c' then return if ordered = all then 0 else 1
  let kept := if a.has 'u' then dropEqual byKeys ordered else ordered
  match a.value? 'o' with
  | none =>
    let written ← emit name (joined kept)
    return max code (if written = 0 then 0 else 2)
  | some path =>
    match ← Routine.openFile path { writes := true, creates := true, truncates := true } with
    | .ok n =>
      discard <| Routine.writeAll n (joined kept)
      return code
    | .error e =>
      complainOf name path e
      return 2
where
  /-- Leaves the first of lines that compare equal. -/
  dropEqual (order : ByteText → ByteText → Ordering) : List ByteText → List ByteText
    | x :: y :: rest => if order x y = .eq then dropEqual order (x :: rest) else x :: dropEqual order (y :: rest)
    | ls => ls
  termination_by ls => ls.length

/-- Lines in runs of equal ones, each with its length. -/
def runs (same : ByteText → ByteText → Bool) (ls : List ByteText) : List (Nat × ByteText) :=
  (ls.splitBy same).filterMap fun run => run.head?.map fun l => (run.length, l)

def uniq : Tool := withOptions (flags "cdui" ++ valued "fsw") false 1 fun name a _ => do
  let (texts, code) ← contents name (orInput (a.operands.take 1))
  let fold (l : ByteText) : ByteText := if a.has 'i' then l.map Char.toLower else l
  let all := texts.flatMap fun (_, text) => lines text
  let kept := (runs (fun x y => fold x == fold y) all).filter fun (n, _) =>
    if a.has 'd' then n > 1 else if a.has 'u' then n = 1 else true
  let written ← emit name (joined (kept.map fun (n, l) =>
    if a.has 'c' then Decimal.blankPadded 7 n ++ ' ' :: l else l))
  return max code written

/-! ### Parts of lines -/

/-- Ranges of numbers. -/
def readRanges (text : ByteText) : Option (List (Nat × Option Nat)) :=
  (text.splitOn ',').mapM fun part =>
    let low := part.takeWhile Char.isDigit
    match part.drop low.length with
    | [] => if low = [] then none else some (Decimal.value low, some (Decimal.value low))
    | '-' :: high =>
      if !high.all Char.isDigit || (low = [] && high = []) then none
      else some (if low = [] then 1 else Decimal.value low, if high = [] then none else some (Decimal.value high))
    | _ => none

def inRanges (ranges : List (Nat × Option Nat)) (n : Nat) : Bool :=
  ranges.any fun (low, high) => low ≤ n && high.all (n ≤ ·)

/-- The items at the places in some ranges, counted from one. -/
def selected {α : Type} (ranges : List (Nat × Option Nat)) (items : List α) : List α :=
  ((items.zip (List.range items.length)).filter fun (_, i) => inRanges ranges (i + 1)).map (·.1)

def cut : Tool := withOptions
    (flags "sn" ++ valued "dfcb" ++ [{ letter := 'o', long := "output-delimiter", takesValue := true },
      { letter := 'd', long := "delimiter", takesValue := true }, { letter := 'f', long := "fields", takesValue := true }])
    false 1 fun name a _ => do
  let list := ((a.value? 'f').or (a.value? 'c')).or (a.value? 'b')
  match list with
  | none => misuse name "you must specify a list of bytes, characters, or fields".toList 1
  | some text =>
    match readRanges text with
    | none => misuse name "invalid field range".toList 1
    | some ranges =>
      let delimiter := ((a.value? 'd').bind List.head?).getD '\t'
      let between := (a.value? 'o').getD [delimiter]
      let step (_ : Unit) (line : ByteText) : Step Unit :=
        let body := if line.getLast? = some '\n' then line.dropLast else line
        if (a.value? 'f').isSome then
          if !body.contains delimiter then { state := (), output := if a.has 's' then [] else body ++ ['\n'] }
          else { state := (), output := between.intercalate (selected ranges (body.splitOn delimiter)) ++ ['\n'] }
        else { state := (), output := selected ranges body ++ ['\n'] }
      return (← filter name a.operands () step fun _ => []).2

def rev : Tool := withOptions [] false 1 fun name a _ => do
  let turn (line : ByteText) : ByteText :=
    ByteText.ofBytes (Utf8.encode (Utf8.decodeLossy (ByteText.toBytes line)).reverse)
  let step (_ : Unit) (line : ByteText) : Step Unit :=
    if line.getLast? = some '\n' then { state := (), output := turn line.dropLast ++ ['\n'] }
    else { state := (), output := turn line }
  return (← filter name a.operands () step fun _ => []).2

def tac : Tool := withOptions [] false 1 fun name a _ => do
  let (texts, code) ← contents name (orInput a.operands)
  let written ← emit name (texts.flatMap fun (_, text) => (cutLines text).reverse.flatten)
  return max code written

def nl : Tool := withOptions (valued "bnwsvi") false 1 fun name a _ => do
  let width := ((a.value? 'w').bind Decimal.value?).getD 6
  let separator := (a.value? 's').getD ['\t']
  let all := a.value? 'b' = some ['a']
  let step (n : Nat) (line : ByteText) : Step Nat :=
    if line = ['\n'] && !all then { state := n, output := List.replicate (width + separator.length) ' ' ++ line }
    else { state := n + 1, output := Decimal.blankPadded width (n + 1) ++ separator ++ line }
  return (← filter name a.operands 0 step fun _ => []).2

/-! ### Characters -/

/-- The characters of a set, with ranges, classes and escapes. Each call has less fuel than its caller. -/
def readSet (fuel : Nat) (text : ByteText) : ByteText :=
  match fuel, text with
  | 0, _ | _, [] => []
  | fuel + 1, '[' :: ':' :: rest =>
    let name := rest.takeWhile (· ≠ ':')
    match rest.drop name.length with
    | ':' :: ']' :: rest =>
      ((List.range 256).map Char.ofNat).filter (Shell.Pattern.isOfClass name) ++ readSet fuel rest
    | _ => '[' :: readSet fuel (':' :: rest)
  | fuel + 1, '\\' :: rest =>
    match Shell.Escape.read { octal := .short, marks := [] } rest with
    | .text [c] rest => range fuel c rest
    | .text cs rest => cs ++ readSet fuel rest
    | .stop => readSet fuel rest
  | fuel + 1, c :: rest => range fuel c rest
where
  /-- A character with the range that it begins. -/
  range (fuel : Nat) (c : Char) (rest : ByteText) : ByteText :=
    match rest with
    | '-' :: d :: rest =>
      if c ≤ d then (List.range (d.toNat + 1 - c.toNat)).map (fun i => Char.ofNat (c.toNat + i)) ++ readSet fuel rest
      else c :: readSet fuel ('-' :: d :: rest)
    | rest => c :: readSet fuel rest

/-- Drops each character of a set that repeats the one before. -/
def squeeze (set : Char → Bool) (last : Option Char) : ByteText → ByteText
  | [] => []
  | c :: rest => if last = some c && set c then squeeze set last rest else c :: squeeze set (some c) rest

/-- Translates what arrives. -/
def translateAll (name : ByteText) (change : Option Char → ByteText → ByteText) (fuel : Nat) (last : Option Char)
    (output : List ByteText) : Routine Nat :=
  match fuel with
  | 0 => pure 0
  | fuel + 1 => do
    match ← Routine.read 0 Routine.blockSize with
    | .error e =>
      complain name ("read error: ".toList ++ e.description.toList)
      return 1
    | .ok [] => emit name output.reverse.flatten
    | .ok text =>
      let changed := change last text
      let last := changed.getLast?.or last
      let (failure, output) ← release false (changed :: output)
      match failure with
      | some e =>
        complain name ("write error: ".toList ++ e.description.toList)
        return 1
      | none => translateAll name change fuel last output

def tr : Tool := withOptions
    (flags "cCdst" ++ [{ letter := 'd', long := "delete" }, { letter := 's', long := "squeeze-repeats" },
      { letter := 'c', long := "complement" }]) true 1 fun name a _ => do
  match a.operands with
  | [] => misuse name "missing operand".toList 1
  | first :: rest =>
    let complement := a.has 'c' || a.has 'C'
    let listed := readSet (first.length + 1) first
    let source := if complement then ((List.range 256).map Char.ofNat).filter fun c => !listed.contains c else listed
    let target := readSet ((rest.headD []).length + 1) (rest.headD [])
    let squeezed := if rest = [] then source else target
    let translate (c : Char) : Char :=
      match (source.zip (List.range source.length)).reverse.lookup c with
      | some i => (target[i]?.or target.getLast?).getD c
      | none => c
    let table := (List.range 256).map fun i => translate (Char.ofNat i)
    let lookUp (c : Char) : Char := (table[c.toNat]?).getD c
    if rest = [] && !a.has 'd' && !a.has 's' then
      misuse name ("missing operand after ".toList ++ quoted first) 1
    else
      let change (last : Option Char) (text : ByteText) : ByteText :=
        let text := if a.has 'd' then text.filter fun c => !source.contains c
          else if rest = [] then text else text.map lookUp
        if a.has 's' then squeeze squeezed.contains last text else text
      translateAll name change Routine.manyRounds none []

end OrderlyExit.Tool
