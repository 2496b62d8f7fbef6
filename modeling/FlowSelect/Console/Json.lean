import FlowSelect.Fragment.Basic
/-! JSON text as commands print it: indented by two spaces per level, a colon and a space after
each key, and every character outside printable ASCII escaped, astral characters as a pair of
surrogate escapes. An empty object or array is written on one line. -/
namespace FlowSelect.Console

/-- A code unit as a JSON escape with four lower-case hex digits. -/
def unitEscape (n : Nat) : String :=
  let ds := Nat.toDigits 16 n
  "\\u" ++ String.ofList (List.replicate (4 - ds.length) '0' ++ ds)

/-- One character inside a JSON string. -/
def jsonChar (c : Char) : String :=
  if c == '"' then "\\\""
  else if c == '\\' then "\\\\"
  else if c == '\n' then "\\n"
  else if c == '\r' then "\\r"
  else if c == '\t' then "\\t"
  else if c.toNat == 8 then "\\b"
  else if c.toNat == 12 then "\\f"
  else if 0x20 ≤ c.toNat && c.toNat < 0x7F then c.toString
  else if c.toNat < 0x10000 then unitEscape c.toNat
  else
    let v := c.toNat - 0x10000
    unitEscape (0xD800 + v / 0x400) ++ unitEscape (0xDC00 + v % 0x400)

/-- A text as a JSON string. -/
def jsonString (s : String) : String := "\"" ++ String.join (s.toList.map jsonChar) ++ "\""

/-- Two spaces per level. -/
def indentOf (level : Nat) : String := String.ofList (List.replicate (2 * level) ' ')

/-- Items written one per line at a level, inside brackets. -/
def block (opening closing : String) (level : Nat) (items : List String) : String :=
  if items.isEmpty then opening ++ closing
  else opening ++ "\n" ++ String.intercalate ",\n" (items.map (indentOf (level + 1) ++ ·)) ++ "\n" ++
    indentOf level ++ closing

/-- An array of texts, at a level. -/
def textArray (level : Nat) (items : List String) : String :=
  block "[" "]" level (items.map jsonString)

/-- An object whose values are written by `value` at the level below. -/
def objectWith {β : Type} (value : Nat → β → String) (level : Nat) (fields : List (String × β)) :
    String :=
  block "\x7b" "\x7d" level (fields.map fun (k, v) => jsonString k ++ ": " ++ value (level + 1) v)

/-- An object of texts. -/
def textObject (fields : List (String × String)) : String :=
  objectWith (fun _ v => jsonString v) 0 fields

/-- Groups of a fragment, as an array of objects from fields to their values. -/
def groupsText (gs : List Group) : String :=
  block "[" "]" 0 (gs.map fun g => objectWith textArray 1 g.entries)

end FlowSelect.Console
