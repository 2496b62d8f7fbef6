/-! Faults: every way an operation of the library can refuse its input.

A fault is a cause, not a text: the message shown to a user is computed from it by
`Fault.message`, in one place. Faults that come from a misuse of the library (an unknown filter
id, a definition that breaks the catalog's rules, a setting out of range) carry what a caller
needs to correct the call. -/
namespace FlowSelect

/-- Why an operation refused its input. -/
inductive Fault where
  /-- No definition of the catalog has this id. -/
  | unknownFilter (id : String)
  /-- A definition (named by `subject`) breaks a rule of catalog construction. -/
  | badDefinition (subject reason : String)
  /-- A setting has a value of the wrong kind or out of range. -/
  | badSetting (key reason : String)
  /-- A settings document could not be read at all. -/
  | unreadableSettings (path detail : String)
  /-- A filter fragment is not in the fragment language; `text` is what was read. -/
  | unreadableFragment (text : String)
  /-- A decimal numeral has more digits than numbers are read with. -/
  | tooManyDigits (count : Nat)
  /-- A number has more digits than numbers are written with. -/
  | tooLargeToWrite
  /-- A settings value of one shape was used where another was needed. -/
  | wrongShape (detail : String)
  deriving DecidableEq, Repr

/-- The most decimal digits a number may have when it is read or written. -/
def digitLimit : Nat := 4300

/-- The message that explains a fault. -/
def Fault.message : Fault → String
  | .unknownFilter id => "Unknown filter: " ++ id
  | .badDefinition subject reason => "Invalid filter definition '" ++ subject ++ "': " ++ reason
  | .badSetting key reason => "Invalid config value for '" ++ key ++ "': " ++ reason
  | .unreadableSettings path detail => "Invalid config at " ++ path ++ ": " ++ detail
  | .unreadableFragment text => "Failed to parse filter query '" ++ text ++ "'"
  | .tooManyDigits count =>
    "Exceeds the limit (" ++ toString digitLimit ++ " digits) for integer string conversion: value has " ++
      toString count ++ " digits; use sys.set_int_max_str_digits() to increase the limit"
  | .tooLargeToWrite =>
    "Exceeds the limit (" ++ toString digitLimit ++
      " digits) for integer string conversion; use sys.set_int_max_str_digits() to increase the limit"
  | .wrongShape detail => detail

end FlowSelect
