import FlowSelect.Text.Printable
/-! Texts written as quoted literals, as messages about a typed value show them.

A literal is delimited by single quotes, or by double quotes when the text holds a single quote
and no double quote. Inside it the delimiter and the backslash are escaped with a backslash,
tab, newline and carriage return are written `\t`, `\n` and `\r`, other characters that are not
printable are written as hex escapes of two, four or eight digits (the shortest that fits), and
every other character stands for itself. -/
namespace FlowSelect.Text

/-- A number in lower-case hex digits, padded with zeros to a width. -/
def hexPadded (width n : Nat) : String :=
  let ds := Nat.toDigits 16 n
  String.ofList (List.replicate (width - ds.length) '0' ++ ds)

/-- One character inside a literal delimited by `delim`. -/
def literalChar (delim : Char) (c : Char) : String :=
  if c == delim || c == '\\' then String.ofList ['\\', c]
  else if c == '\t' then "\\t"
  else if c == '\n' then "\\n"
  else if c == '\r' then "\\r"
  else if isPrintable c then c.toString
  else if c.toNat ≤ 0xFF then "\\x" ++ hexPadded 2 c.toNat
  else if c.toNat ≤ 0xFFFF then "\\u" ++ hexPadded 4 c.toNat
  else "\\U" ++ hexPadded 8 c.toNat

/-- The delimiter of a text's literal. -/
def literalDelimiter (s : String) : Char :=
  if s.contains '\'' && !s.contains '"' then '"' else '\''

/-- A text as a quoted literal. -/
def literal (s : String) : String :=
  let d := literalDelimiter s
  d.toString ++ String.join (s.toList.map (literalChar d)) ++ d.toString

end FlowSelect.Text
