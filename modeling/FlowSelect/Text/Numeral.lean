import FlowSelect.Fault
import FlowSelect.Text.Blank
import FlowSelect.Text.DecimalDigit
/-! Decimal numerals: reading an integer from text and writing it back.

A numeral, as read here, is optional blanks, an optional sign, decimal digits of any script
with single underscores allowed between two digits, and optional blanks. The reader first makes
the text ASCII: a character below U+007F stays as it is, a blank beyond ASCII becomes a space and
a digit of another script the ASCII digit of its value. Only ASCII white space is then skipped,
so the information separators U+001C to U+001F, blank as they are elsewhere, are refused next to
a numeral while a no-break space is not. Reading counts the
digits before it converts them: a numeral with more than `digitLimit` digits is refused with
`Fault.tooManyDigits`, even when text that is not a digit follows them. Writing refuses a number
of more than `digitLimit` digits in the same way. Leading zeros count as digits. -/
namespace FlowSelect.Text.Numeral

/-- Why a text is not read as an integer. -/
inductive Refusal where
  /-- The text is not a numeral. -/
  | malformed
  /-- The text starts as a numeral with this many digits, more than `digitLimit`. -/
  | tooManyDigits (count : Nat)
  deriving DecidableEq, Repr

/-- A character as the numeral reader sees it: a character below U+007F stays as it is, a
blank beyond it is a space, a digit of another script is the ASCII digit of the same value, and
every other character stays as it is. -/
def normalize (c : Char) : Char :=
  if c.toNat < 0x7F then c
  else if isBlank c then ' '
  else match digitValue? c with
    | some d => Char.ofNat ('0'.toNat + d)
    | none => c

/-- The white space skipped around a normalized numeral: the space and the ASCII controls tab,
line feed, vertical tab, form feed and carriage return. -/
def isAsciiSpace (c : Char) : Bool :=
  c == ' ' || ('\t' ≤ c && c ≤ '\r')

/-- The run of digits and underscores at the head of the text, split off. -/
def digitRun (cs : List Char) : List Char × List Char :=
  (cs.takeWhile fun c => isAsciiDigit c || c == '_', cs.dropWhile fun c => isAsciiDigit c || c == '_')

/-- Whether a run of digits and underscores has an underscore only between two digits. -/
def wellSeparated : List Char → Bool
  | [] => true
  | '_' :: _ => false
  | [_] => true
  | _ :: '_' :: '_' :: _ => false
  | _ :: '_' :: [] => false
  | _ :: '_' :: rest => wellSeparated rest
  | _ :: rest => wellSeparated rest

/-- The value of a run of ASCII digits. -/
def digitsValue (ds : List Char) : Nat :=
  ds.foldl (fun n d => 10 * n + (d.toNat - '0'.toNat)) 0

/-- Reads a numeral whose characters are already normalized. -/
def readNormalized (cs : List Char) : Except Refusal Int :=
  let body := cs.dropWhile isAsciiSpace
  let (negative, unsigned) := match body with
    | '-' :: rest => (true, rest)
    | '+' :: rest => (false, rest)
    | rest => (false, rest)
  let (run, after) := digitRun unsigned
  let digits := run.filter isAsciiDigit
  if !wellSeparated run then .error .malformed
  else if digits.length > digitLimit then .error (.tooManyDigits digits.length)
  else if digits.isEmpty || !(after.all isAsciiSpace) then .error .malformed
  else
    let n : Int := digitsValue digits
    .ok (if negative then -n else n)

/-- Reads an integer from a text. -/
def read? (s : String) : Except Refusal Int :=
  readNormalized (s.toList.map normalize)

/-- Whether a text is a non-empty run of the ASCII digits 0 to 9. -/
def isDigits (s : String) : Bool :=
  !s.isEmpty && s.toList.all isAsciiDigit

/-- The decimal text of an integer, with a minus sign when it is negative. -/
def write (n : Int) : Except Fault String :=
  if n.natAbs < Nat.pow 10 digitLimit then .ok (toString n) else .error .tooLargeToWrite

end FlowSelect.Text.Numeral
