import OrderlyExit.IoError
import OrderlyExit.Settings.Document
import OrderlyExit.Text.Utf8
import OrderlyExit.Toml.Document

/-!
Settings from a file: its bytes must be text, the text a document, the document one of settings, and the
settings valid.
-/

namespace OrderlyExit

/-- Why a file gives no settings. -/
inductive ConfigError
  | io (source : IoError)
  | parse
  | validation (problems : List SettingsProblem)
  deriving DecidableEq, Repr

/-- The messages of all problems, with commas between them. -/
def SettingsProblem.joined (problems : List SettingsProblem) : String :=
  ", ".intercalate (problems.map message)

def ConfigError.message : ConfigError → String
  | .io source => "IO error: " ++ source.message
  | .parse => "Parse error"
  | .validation problems => "Validation failed: " ++ SettingsProblem.joined problems

namespace Settings

/-- The settings that a text gives, valid or not. -/
def ofText? (text : List Char) : Option Settings := (Toml.readDocument? text).bind ofTable?

/-- Valid settings from the content of a file, or from the failure to read it. -/
def load (content : Except IoError (List UInt8)) : Except ConfigError Settings :=
  match content with
  | .error e => .error (.io e)
  | .ok bytes =>
    match Utf8.decode? bytes with
    | none => .error (.io .notText)
    | some text =>
      match ofText? text with
      | none => .error .parse
      | some s => s.validate.mapError .validation

end Settings

end OrderlyExit
