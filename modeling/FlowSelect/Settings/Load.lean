import FlowSelect.Settings.Basic
import FlowSelect.Toml.Read
/-! Loading settings from a settings file.

A missing file gives the defaults and a warning that names the path. A file that is not TOML
is refused with the path; a decimal integer too long to read is refused as such. Otherwise the
document is read into settings from the defaults, checked, and the checks' warnings are
returned with it. -/
namespace FlowSelect

namespace Settings

/-- The warning for a settings file that does not exist. -/
def missingText (path : String) : String :=
  "No config file found at " ++ path ++ ". Using defaults."

/-- What a settings file says, as a document. -/
def parse (path text : String) : Except Fault Value :=
  match Toml.read text with
  | .ok doc => .ok doc
  | .error .malformed => .error (.unreadableSettings path "not a TOML document")
  | .error (.tooManyDigits n) => .error (.tooManyDigits n)

/-- The settings a document gives, with the warnings of their checks. -/
def fromDocument (doc : Value) : Except Fault (Settings × List String) := do
  let s ← ofDocument doc
  let warnings ← s.validate
  pure (s, warnings)

/-- The settings of the file at `path`, given its contents when it exists, with the warnings
to show. -/
def load (path : String) : Option String → Except Fault (Settings × List String)
  | none => do
    let warnings ← defaults.validate
    pure (defaults, missingText path :: warnings)
  | some text => do fromDocument (← parse path text)

end Settings

end FlowSelect
