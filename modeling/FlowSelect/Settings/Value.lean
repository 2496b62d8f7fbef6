import FlowSelect.Fault
import FlowSelect.Text.Basic
/-! Settings values: what a settings document holds.

A settings document is a table of values: texts, integers, floating-point numbers (kept as
written), booleans, dates and times, arrays and nested tables, with table keys in the order they
were written. A value may also be null when a document comes from elsewhere than a settings
file. Reading a setting from a section looks the key up in a table; a section that is not a
table fails the way a generic container lookup fails on it: a text is searched for the key as a
substring, an array for an equal text element, and either is then refused as indexable only by
number; any other value cannot be searched at all. -/
namespace FlowSelect.Settings

/-- The kinds of date and time a document can hold. -/
inductive Chrono where
  /-- A date with a time of day, with or without an offset. -/
  | dateTime
  /-- A calendar date. -/
  | date
  /-- A time of day. -/
  | time
  deriving DecidableEq, Repr

/-- A value of a settings document. -/
inductive Value where
  | text (s : String)
  | integer (n : Int)
  | decimal (written : String)
  | bool (b : Bool)
  | chrono (kind : Chrono) (written : String)
  | array (items : List Value)
  | table (entries : List (String × Value))
  | null
  deriving Repr, Inhabited

/-- Whether a value is an array or a table. -/
def Value.isContainer : Value → Bool
  | .array _ => true
  | .table _ => true
  | _ => false

/-- The name of a value's kind, as lookup failures report it. -/
def Value.kindName : Value → String
  | .text _ => "str"
  | .integer _ => "int"
  | .decimal _ => "float"
  | .bool _ => "bool"
  | .chrono .dateTime _ => "datetime.datetime"
  | .chrono .date _ => "datetime.date"
  | .chrono .time _ => "datetime.time"
  | .array _ => "list"
  | .table _ => "dict"
  | .null => "NoneType"

/-- Whether a value is the text `s`. -/
def Value.isText (v : Value) (s : String) : Bool :=
  match v with
  | .text t => t == s
  | _ => false

/-- Whether `p` occurs in `s` as a run of consecutive characters. -/
def containsText (s p : String) : Bool :=
  let ps := p.toList
  let rec go : List Char → Bool
    | [] => ps.isEmpty
    | c :: cs => ps.isPrefixOf (c :: cs) || go cs
  go s.toList

/-- The value at a key of a section, or none when the key is absent; fails when the section
cannot be looked up by a text key. -/
def Value.lookup (sec : Value) (key : String) : Except Fault (Option Value) :=
  match sec with
  | .table es => .ok ((es.find? fun e => e.1 == key).map Prod.snd)
  | .array xs =>
    if xs.any (·.isText key) then .error (.wrongShape "list indices must be integers or slices, not str")
    else .ok none
  | .text s =>
    if containsText s key then .error (.wrongShape "string indices must be integers, not 'str'")
    else .ok none
  | v => .error (.wrongShape ("argument of type '" ++ v.kindName ++ "' is not iterable"))

/-- The section of a document under a key: the value there, or an empty table. -/
def Value.child (doc : Value) (key : String) : Except Fault Value := do
  pure ((← doc.lookup key).getD (.table []))

end FlowSelect.Settings
