import OrderlyExit.Shell.Arithmetic
import OrderlyExit.Shell.Builtin.Basic
import OrderlyExit.Shell.Expansion

/-!
The commands that deal with parameters: exporting and freezing them, making them local, taking them away,
listing them, and the parameters of the shell itself with its options.
-/

namespace OrderlyExit.Shell.Builtin

/-- An argument that is a name, perhaps with a value, which may be put behind the present one. -/
structure Setting where
  name : ByteText
  value : Option ByteText
  appends : Bool := false

/-- Cuts an argument at its first equals sign. -/
def Setting.ofText (s : State) (text : ByteText) : Setting :=
  let name := text.takeWhile (· ≠ '=')
  if name.length = text.length then ⟨name, none, false⟩
  else if s.isExtended && name.getLast? = some '+' then ⟨name.dropLast, some (text.drop (name.length + 1)), true⟩
  else ⟨name, some (text.drop (name.length + 1)), false⟩

/-- Complains about an argument that is no name. -/
def refuseName (text name : ByteText) : Run Nat := do
  let s ← get
  if s.isExtended then
    Run.warn ('\x60' :: text ++ "': not a valid identifier".toList)
    return 1
  else Run.fail (name ++ ": bad variable name".toList) 2

/-- What a parameter is to be, besides its value; where nothing is said it stays what it is. -/
structure Traits where
  exported : Option Bool := none
  frozen : Bool := false
  numeric : Option Bool := none
  lettering : Option (Option Lettering) := none
  refers : Option Bool := none

/-- Changes what a parameter is, and gives it a value if there is one. -/
def apply (t : Traits) (x : Setting) : Run Unit := do
  let s ← get
  let name := s.resolve x.name
  let b := (s.ownBinding? name).getD {}
  set (s.bind name { b with numeric := t.numeric.getD b.numeric, lettering := t.lettering.getD b.lettering })
  match x.value with
  | some text =>
    let old := ((← get).text? name).getD []
    let text := if x.appends then old ++ text else text
    let text ← if t.numeric.getD b.numeric then
        pure (Decimal.signedText (← Expansion.evaluate text)).toList
      else pure text
    Run.assign name text
  | none => pure ()
  let s ← get
  let b := (s.ownBinding? name).getD {}
  set (s.bind name { b with exported := t.exported.getD b.exported, frozen := b.frozen || t.frozen })

/-- Lets a name stand for the parameter that its value names, or ends that. -/
def refer (t : Traits) (x : Setting) (refers : Bool) : Run Nat := do
  let s ← get
  let b := (s.ownBinding? x.name).getD {}
  if refers && x.value = some x.name then
    return ← refuseWith x.name ": nameref variable self references not allowed" 1
  match if refers then x.value.filter (!Command.isName ·) else none with
  | some wrong =>
    refuseWith ('\x60' :: wrong) "': invalid variable name for name reference" 1
  | none =>
    set (s.bind x.name { b with
      value := (x.value.map Value.text).or b.value
      refers
      frozen := b.frozen || t.frozen })
    return 0

/-- Applies traits to each argument; the status tells of arguments that are no names. -/
def applyAll (t : Traits) (args : List ByteText) : Run Nat := do
  let statuses ← args.mapM fun arg => do
    let x := Setting.ofText (← get) arg
    if Command.isName x.name then
      match t.refers with
      | some refers => refer t x refers
      | none =>
        apply t x
        pure 0
    else refuseName arg x.name
  return statuses.foldl max 0

/-! ### Listing -/

/-- The value of a parameter as it is listed. -/
def shownValue : Value → ByteText
  | .text t => quotedDouble t
  | .list items =>
    '(' :: ([' '] : List Char).intercalate (items.map fun (n, t) =>
      '[' :: Decimal.digits n ++ "]=".toList ++ quotedDouble t) ++ [')']
  | .table items =>
    '(' :: (items.flatMap fun (k, t) => '[' :: k ++ "]=".toList ++ quotedDouble t ++ [' ']) ++ [')']

/-- A parameter as the extended form declares it. -/
def declaration (name : ByteText) (b : Binding) : ByteText :=
  let letters := (match b.value with
    | some (.list _) => ['a']
    | some (.table _) => ['A']
    | _ => []) ++ (if b.numeric then ['i'] else []) ++ (if b.refers then ['n'] else []) ++
      (if b.frozen then ['r'] else []) ++ (if b.exported then ['x'] else []) ++
      match b.lettering with
      | some .small => ['l']
      | some .capital => ['u']
      | none => []
  "declare -".toList ++ (if letters = [] then ['-'] else letters) ++ ' ' :: name ++
    match b.value with
    | some v => '=' :: shownValue v
    | none => []

/-- Lists the parameters of a kind. -/
def listBindings (word : String) (of : Binding → Bool) : Run Nat := do
  let s ← get
  emitLines (((sortedBindings s).filter (of ·.2)).map fun (name, b) =>
    if s.isExtended then declaration name b
    else word.toList ++ ' ' :: name ++ match b.value.bind State.textOf with
      | some t => '=' :: quotedPlain t
      | none => [])

/-- Lists all parameters with their values. -/
def listValues : Run Nat := do
  let s ← get
  emitLines ((sortedBindings s).filterMap fun (name, b) => b.value.map fun v =>
    name ++ '=' :: match v with
      | .text t => if s.isExtended then quotedIfNeeded t else quotedPlain t
      | v => shownValue v)

/-! ### Commands -/

def export_ : Builtin := fun args => do
  let o ← options (if (← get).isExtended then "pnf" else "p") "" args
  if o.rest = [] then listBindings "export" (·.exported)
  else applyAll { exported := some (!o.has 'n') } o.rest

def readonly : Builtin := fun args => do
  let o ← options (if (← get).isExtended then "paAf" else "p") "" args
  if o.rest = [] then listBindings "readonly" (·.frozen) else applyAll { frozen := true } o.rest

/-- Remembers what a parameter is, so that it comes back at the end of the function. -/
def remember (name : ByteText) : Run Unit :=
  modify fun s =>
    match s.saved with
    | [] => s
    | frame :: frames =>
      if (frame.bindings.lookup name).isSome then s
      else { s with saved := { frame with bindings := (name, s.ownBinding? name) :: frame.bindings } :: frames }

/-- Remembers the options, so that they come back at the end of the function. -/
def rememberOptions : Run Unit :=
  modify fun s =>
    match s.saved with
    | [] => s
    | frame :: frames =>
      { s with saved := { frame with options := frame.options.or (some (s.options, s.longOptions)) } :: frames }

/-- Makes parameters local to the function that is running. -/
def localise (args : List ByteText) : Run Unit := do
  for arg in args do
    let s ← get
    let x := Setting.ofText s arg
    if Command.isName x.name then
      remember x.name
      if s.isExtended then
        modify fun t => t.bind x.name { exported := ((s.ownBinding? x.name).map (·.exported)).getD false }

/-- Gives a parameter an empty list or table, unless it has one. -/
def makeCollection (letter : Char) (arg : ByteText) : Run Unit := do
  let s ← get
  let x := Setting.ofText s arg
  let b := (s.binding? x.name).getD {}
  match b.value with
  | some (.list _) | some (.table _) => pure ()
  | _ => if x.value.isNone then
      set (s.bind x.name { b with value := some (if letter = 'A' then .table [] else .list []) })

/-- The letters of declaring, each with whether it is given or taken away, and the arguments behind them. -/
def declaringLetters : List ByteText → List (Bool × Char) × List ByteText
  | [] => ([], [])
  | arg :: rest =>
    match arg with
    | ['-', '-'] => ([], rest)
    | sign :: c :: cs =>
      if sign = '-' ∨ sign = '+' then
        let (letters, args) := declaringLetters rest
        ((c :: cs).map (decide (sign = '-'), ·) ++ letters, args)
      else ([], arg :: rest)
    | _ => ([], arg :: rest)

/-- What the letters of declaring say of parameters. -/
def Traits.ofLetters (letters : List (Bool × Char)) : Traits :=
  letters.foldl (fun t (on, c) => match c with
    | 'x' => { t with exported := some on }
    | 'r' => { t with frozen := on }
    | 'i' => { t with numeric := some on }
    | 'l' => { t with lettering := some (if on then some .small else none) }
    | 'u' => { t with lettering := some (if on then some .capital else none) }
    | 'n' => { t with refers := some on }
    | _ => t) {}

/-- Declares parameters with what the letters say of them. -/
def declareAll (letters : List (Bool × Char)) (local_ : Bool) (args : List ByteText) : Run Nat := do
  if local_ then localise args
  if letters.contains (true, 'a') || letters.contains (true, 'A') then
    for arg in args do makeCollection (if letters.contains (true, 'A') then 'A' else 'a') arg
  applyAll (Traits.ofLetters letters) args

/-- Complains about a letter that does not belong to declaring. -/
def refuseLetter (letters : List (Bool × Char)) (known : String) : Run Unit := do
  match letters.find? fun (_, c) => !known.toList.contains c with
  | some (on, c) => Run.fail ((if on then '-' else '+') :: c :: ": invalid option".toList) 2
  | none => pure ()

def local_ : Builtin := fun args => do
  let s ← get
  if s.saved = [] then
    if s.isExtended then refuse "can only be used in a function" 1 else Run.fail "not in a function".toList 2
  else
    let (letters, names) := declaringLetters args
    refuseLetter letters (if s.isExtended then "aAfFgiIlnprtux" else "")
    if names.contains ['-'] then rememberOptions
    declareAll letters true (names.filter (· ≠ ['-']))

def declare : Builtin := fun args => do
  let s ← get
  let (letters, names) := declaringLetters args
  refuseLetter letters "aAfFgiIlnprtux"
  let has (c : Char) : Bool := letters.contains (true, c)
  if has 'f' || has 'F' then
    if has 'F' then
      discard <| emitLines (if names = [] then (sorted (s.functions.map (·.1))).map ("declare -f ".toList ++ ·)
        else names.filter fun n => (s.functions.lookup n).isSome)
    return if names.all fun n => (s.functions.lookup n).isSome then 0 else 1
  if has 'p' then
    let statuses ← names.mapM fun n => do
      match s.ownBinding? n with
      | some b => emit (declaration n b ++ ['\n'])
      | none => refuseWith n ": not found" 1
    if names = [] then return ← listBindings "declare" fun _ => true
    return statuses.foldl max 0
  if names = [] then
    if letters = [] then return ← listValues
    let t := Traits.ofLetters letters
    return ← listBindings "declare" fun b =>
      (t.exported ≠ some true || b.exported) && (!t.frozen || b.frozen) && (t.numeric ≠ some true || b.numeric) &&
      (t.refers ≠ some true || b.refers) && (t.lettering.isNone || t.lettering = some b.lettering) &&
      (!has 'a' || (match b.value with
        | some (.list _) => true
        | _ => false)) &&
      (!has 'A' || (match b.value with
        | some (.table _) => true
        | _ => false))
  declareAll letters (s.saved ≠ [] && !has 'g') names

/-- Takes a parameter away; one that must not change is a fault. -/
def unsetValue (name : ByteText) : Run Nat := do
  let s ← get
  match s.ownBinding? name with
  | some b =>
    if b.frozen then
      if s.isExtended then refuseWith name ": cannot unset: readonly variable" 1
      else Run.fail (name ++ ": is read only".toList) 2
    else
      set (s.unbind name)
      return 0
  | none => return 0

/-- Takes one element of a list away. -/
def unsetElement (name key : ByteText) : Run Nat := do
  let s ← get
  match (s.binding? name).bind (·.value) with
  | some (.list items) =>
    let n ← Expansion.evaluate key
    Run.assignValue name (.list (items.filter (·.1 ≠ Expansion.elementNumber items n)))
  | some (.table items) => Run.assignValue name (.table (items.filter (·.1 ≠ key)))
  | _ => pure ()
  return 0

def unsetFunction (name : ByteText) : Run Nat := do
  modify fun s => { s with functions := s.functions.filter (·.1 ≠ name) }
  return 0

def unset : Builtin := fun args => do
  let o ← options "fvn" "" args
  let statuses ← o.rest.mapM fun arg => do
    let s ← get
    let name := arg.takeWhile (· ≠ '[')
    if o.has 'f' then unsetFunction arg
    else if o.has 'n' then unsetValue arg
    else if s.isExtended && name.length < arg.length then unsetElement name (arg.drop (name.length + 1)).dropLast
    else if !Command.isName arg then
      if s.isExtended then
        if (s.functions.lookup arg).isSome && !o.has 'v' then unsetFunction arg
        else refuseName arg arg
      else Run.fail (arg ++ ": bad variable name".toList) 2
    else if s.isExtended && !o.has 'v' && (s.binding? arg).isNone then unsetFunction arg
    else unsetValue (s.resolve arg)
  return statuses.foldl max 0

def shift : Builtin := fun args => do
  let s ← get
  let count (n : Nat) : Run Nat :=
    if n ≤ s.args.length then do
      set { s with args := s.args.drop n }
      pure 0
    else if s.isExtended then pure 1
    else Run.fail "can't shift that many".toList 2
  match args with
  | [] => count 1
  | arg :: _ =>
    if s.isExtended then
      match integer? arg with
      | some n => if n < 0 then refuseWith arg ": shift count out of range" 1 else count n.toNat
      | none => refuseWith arg ": numeric argument required" 1
    else count (← number arg)

/-- Evaluates expressions; the status tells whether the last one is zero. -/
def let_ : Builtin := fun args => do
  if args = [] then return ← refuse "expression expected" 1
  let values ← args.mapM Expansion.evaluate
  return if values.getLast? = some 0 then 1 else 0

/-! ### Options of the shell -/

/-- The options of the plain form by name, in the order in which they are listed. -/
def plainOptions : List (String × Char) :=
  [("errexit", 'e'), ("noglob", 'f'), ("ignoreeof", 'I'), ("interactive", 'i'), ("monitor", 'm'), ("noexec", 'n'),
   ("stdin", 's'), ("xtrace", 'x'), ("verbose", 'v'), ("vi", 'V'), ("emacs", 'E'), ("noclobber", 'C'),
   ("allexport", 'a'), ("notify", 'b'), ("nounset", 'u'), ("privileged", 'p'), ("nolog", 'l'), ("debug", 'D')]

/-- The options of the extended form by name; those without a letter have a blank. -/
def extendedOptions : List (String × Char) :=
  [("allexport", 'a'), ("braceexpand", 'B'), ("emacs", ' '), ("errexit", 'e'), ("errtrace", 'E'),
   ("functrace", 'T'), ("hashall", 'h'), ("histexpand", 'H'), ("history", ' '), ("ignoreeof", ' '),
   ("interactive-comments", ' '), ("keyword", 'k'), ("monitor", 'm'), ("noclobber", 'C'), ("noexec", 'n'),
   ("noglob", 'f'), ("nolog", ' '), ("notify", 'b'), ("nounset", 'u'), ("onecmd", 't'), ("physical", 'P'),
   ("pipefail", ' '), ("posix", ' '), ("privileged", 'p'), ("verbose", 'v'), ("vi", ' '), ("xtrace", 'x')]

/-- The options that are always on in the extended form. -/
def alwaysOn : List String := ["braceexpand", "hashall", "interactive-comments"]

/-- Sets an option or clears it. -/
def setLetter (on : Bool) (c : Char) : Run Unit :=
  modify fun s =>
    let others := s.options.filter (· ≠ c)
    { s with options := if on then c :: others else others }

def setLongOption (on : Bool) (name : ByteText) : Run Unit :=
  modify fun s =>
    let others := s.longOptions.filter (· ≠ name)
    { s with longOptions := if on then name :: others else others }

/-- The options by name. -/
def optionTable (s : State) : List (String × Char) := if s.isExtended then extendedOptions else plainOptions

/-- Whether an option is set. -/
def isOptionSet (s : State) (name : String) (c : Char) : Bool :=
  if c = ' ' then s.hasLongOption name || alwaysOn.contains name
  else s.hasOption c || (s.isExtended && alwaysOn.contains name)

/-- Lists the options. -/
def listOptions (asCommands : Bool) : Run Nat := do
  let s ← get
  let width := 16
  let pad (name : String) : ByteText := name.toList ++ List.replicate (width - name.length) ' '
  let lines := (optionTable s).map fun (name, c) =>
    let on := isOptionSet s name c
    if asCommands then (if on then "set -o " else "set +o ").toList ++ name.toList
    else if s.isExtended then
      name.toList ++ List.replicate (15 - name.length) ' ' ++ '\t' :: (if on then "on" else "off").toList
    else pad name ++ (if on then "on" else "off").toList
  emitLines (if asCommands || s.isExtended then lines else "Current option settings".toList :: lines)

/-- Sets an option by its name. -/
def setNamed (on : Bool) (name : ByteText) : Run Nat := do
  let s ← get
  match (optionTable s).find? fun (n, _) => n.toList = name with
  | some (_, c) =>
    if c = ' ' then setLongOption on name else setLetter on c
    return 0
  | none =>
    if s.isExtended then refuseWith name ": invalid option name" 2
    else Run.fail ("Illegal option ".toList ++ (if on then "-o " else "+o ").toList ++ name) 2

/-- The letters that can be set. -/
def settable (s : State) : List Char :=
  if s.isExtended then "abefhkmnptuvxBCEHPT".toList else (plainOptions.map (·.2)).filter (· ≠ 'D')

/-- Sets options from arguments; the answer is what follows them, if the parameters are to change. Each call has
less fuel than its caller. -/
def setOptions (fuel : Nat) (args : List ByteText) : Run (Except Nat (Option (List ByteText))) :=
  match fuel, args with
  | 0, _ | _, [] => pure (.ok none)
  | fuel + 1, arg :: rest => do
    if arg = ['-', '-'] then return .ok (some rest)
    if arg = ['+'] then return ← setOptions fuel rest
    if arg = ['-'] then
      setLetter false 'x'
      setLetter false 'v'
      return .ok (if rest = [] then none else some rest)
    match arg with
    | sign :: c :: cs =>
      if sign ≠ '-' ∧ sign ≠ '+' then return .ok (some (arg :: rest))
      let on := sign = '-'
      if (c :: cs).contains 'o' then
        for c in (c :: cs).filter (· ≠ 'o') do setLetter on c
        match rest with
        | [] => return .error (← listOptions (!on))
        | name :: rest =>
          let status ← setNamed on name
          if status ≠ 0 then return .error status
          setOptions fuel rest
      else
        let s ← get
        match (c :: cs).find? fun c => !(settable s).contains c with
        | some wrong =>
          if s.isExtended then return .error (← refuseWith [sign, wrong] ": invalid option" 2)
          else Run.fail ("Illegal option ".toList ++ [sign, wrong]) 2
        | none =>
          for c in c :: cs do setLetter on c
          setOptions fuel rest
    | _ => return .ok (some (arg :: rest))

def set_ : Builtin := fun args => do
  if args = [] then return ← listValues
  match ← setOptions (args.length + 1) args with
  | .error status => return status
  | .ok none => return 0
  | .ok (some args) =>
    modify fun s => { s with args, optionPlace := 0 }
    return 0

/-- Options of the extended form that have names only. -/
def shopt : Builtin := fun args => do
  let o ← options "supqo" "" args
  let s ← get
  if o.has 's' || o.has 'u' then
    for name in o.rest do setLongOption (o.has 's') name
    return 0
  let off := o.rest.filter fun n => !s.longOptions.contains n
  if !o.has 'q' then
    discard <| emitLines (o.rest.map fun n =>
      n ++ List.replicate (15 - n.length) ' ' ++ '\t' :: (if s.longOptions.contains n then "on" else "off").toList)
  return if off = [] then 0 else 1

end OrderlyExit.Shell.Builtin
