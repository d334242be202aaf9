import OrderlyExit.Settings.Document
import OrderlyExit.Toml.Written

/-!
Writing settings as a configuration document: each in a section of its own, in any order.
-/

namespace OrderlyExit

/-- One setting with its value. -/
inductive Setting
  | cleanupDelay (milliseconds : Nat)
  | tick (milliseconds : Nat)
  | logLevel (level : String)
  deriving DecidableEq, Repr

namespace Setting

/-- Settings with one of them changed. -/
def apply (s : Settings) : Setting → Settings
  | .cleanupDelay ms => { s with cleanupDelay := ms }
  | .tick ms => { s with tick := ms }
  | .logLevel level => { s with logLevel := level }

/-- Where in a document a setting stands. -/
def place : Setting → Settings.Place
  | .cleanupDelay _ => Settings.cleanupDelayPlace
  | .tick _ => Settings.tickPlace
  | .logLevel _ => Settings.logLevelPlace

/-- The value of a setting as it is written. -/
def value : Setting → List Char
  | .cleanupDelay ms | .tick ms => Decimal.digits ms
  | .logLevel level => Toml.writeString level.toList

/-- The section of a setting. -/
def write (s : Setting) : List Char := Toml.writeTable s.place.table.toList s.place.key.toList s.value

/-- The document of several settings. -/
def document (settings : List Setting) : List Char := settings.flatMap write

end Setting

end OrderlyExit
