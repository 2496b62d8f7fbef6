/-! Object names as they are typed in a name filter.

A name filter takes either a plain pattern, one or more of the letters A-Z and a-z, digits,
`_`, `.`, `-` and the wildcard `*`, or the same characters (possibly none) between double quotes,
which asks for an exact match. Either form may end with one line feed, which is not part of the
name. The text `""` asks for an empty field. -/
namespace FlowSelect.ObjectName

/-- The text that asks for an exactly empty field. -/
def exactEmpty : String := "\"\""

/-- Whether a character may appear in a name pattern. -/
def isNameChar (c : Char) : Bool :=
  ('A' ≤ c && c ≤ 'Z') || ('a' ≤ c && c ≤ 'z') || ('0' ≤ c && c ≤ '9') ||
    c == '_' || c == '.' || c == '*' || c == '-'

/-- Whether characters form a plain pattern: at least one name character, nothing else. -/
def isPlain (cs : List Char) : Bool := !cs.isEmpty && cs.all isNameChar

/-- Whether characters form a quoted name: name characters between two double quotes. -/
def isQuoted : List Char → Bool
  | '"' :: rest =>
    match rest.reverse with
    | '"' :: inner => inner.all isNameChar
    | _ => false
  | _ => false

/-- The characters of a typed name without the one line feed it may end with. -/
def body (cs : List Char) : List Char :=
  if cs.getLast? = some '\n' then cs.dropLast else cs

/-- Whether a text is a valid name, plain or quoted. -/
def isValid (s : String) : Bool :=
  isPlain (body s.toList) || isQuoted (body s.toList)

end FlowSelect.ObjectName
