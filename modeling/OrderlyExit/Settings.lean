import OrderlyExit.Text.Quoted
import OrderlyExit.Time

/-!
The settings of a worker, their defaults, and the limits that a sensible configuration keeps.

`problems` lists every limit that settings break, in a fixed order; settings are valid when it lists none.
-/

namespace OrderlyExit

/-- What a worker can be told. -/
structure Settings where
  /-- How long it cleans up, in milliseconds. -/
  cleanupDelay : Nat := 200
  /-- The period of its idle loop, in milliseconds. -/
  tick : Nat := 1000
  /-- How much it reports about itself. -/
  logLevel : String := "warn"
  deriving DecidableEq, Repr, Inhabited

/-- A limit that settings break, with the value that breaks it. -/
inductive SettingsProblem
  | cleanupDelayOutOfRange (value max : Nat)
  | tickOutOfRange (value max : Nat)
  | unknownLogLevel (level : String)
  deriving DecidableEq, Repr

def SettingsProblem.message : SettingsProblem → String
  | .cleanupDelayOutOfRange value max =>
    "shutdown.cleanup_delay_ms must be between 1 and " ++ Decimal.text max ++ ", got " ++ Decimal.text value
  | .tickOutOfRange value max =>
    "idle.tick_ms must be between 1 and " ++ Decimal.text max ++ ", got " ++ Decimal.text value
  | .unknownLogLevel level =>
    "observability.log_level " ++ Quoted.text level ++
      " is not one of trace, debug, info, warn, error, off"

namespace Settings

/-- The longest cleanup, in milliseconds: whoever waits for the worker kills it after ten seconds. -/
def maxCleanupDelay : Nat := 10000

/-- The longest period of the idle loop, in milliseconds. -/
def maxTick : Nat := 60000

def logLevels : List String := ["trace", "debug", "info", "warn", "error", "off"]

/-- A text with its ASCII letters in lower case. -/
def lowerCase (s : String) : String := String.ofList (s.toList.map Char.toLower)

def cleanupDelayProblems (s : Settings) : List SettingsProblem :=
  if 1 ≤ s.cleanupDelay ∧ s.cleanupDelay ≤ maxCleanupDelay then []
  else [.cleanupDelayOutOfRange s.cleanupDelay maxCleanupDelay]

def tickProblems (s : Settings) : List SettingsProblem :=
  if 1 ≤ s.tick ∧ s.tick ≤ maxTick then [] else [.tickOutOfRange s.tick maxTick]

def logLevelProblems (s : Settings) : List SettingsProblem :=
  if lowerCase s.logLevel ∈ logLevels then [] else [.unknownLogLevel s.logLevel]

/-- Every limit that the settings break. -/
def problems (s : Settings) : List SettingsProblem :=
  s.cleanupDelayProblems ++ s.tickProblems ++ s.logLevelProblems

/-- The settings, or what is wrong with them. -/
def validate (s : Settings) : Except (List SettingsProblem) Settings :=
  match s.problems with
  | [] => .ok s
  | ps => .error ps

end Settings

end OrderlyExit
