import FlowSelect.Settings.Value
import FlowSelect.Text.Numeral
/-! TOML lexemes: blanks, comments, strings, keys, numbers, dates and times.

Every reader here takes the characters that follow its start and gives back what it read and
the characters after it, or a failure. A failure is either malformed text or a decimal integer
with more than `digitLimit` digits, which is not read at all. The readers follow TOML 1.0: a
basic string knows the escapes `\b \t \n \f \r \" \\ \uXXXX \UXXXXXXXX` (the last two only for
Unicode scalar values), a multi-line string drops a newline right after its opening delimiter
and may end with up to two extra quotes, control characters other than tab (and newline in
multi-line strings and comments' ends) are refused, numbers take single underscores between
digits, and a date must exist in the calendar. -/
namespace FlowSelect.Toml

/-- Why a document is not read. -/
inductive Failure where
  /-- The text is not TOML. -/
  | malformed
  /-- A decimal integer has this many digits, more than `digitLimit`. -/
  | tooManyDigits (count : Nat)
  deriving DecidableEq, Repr

/-- A reader of a prefix: what it read and the characters after it. -/
abbrev Reader (α : Type) := List Char → Except Failure (α × List Char)

/-- Whether a character is a TOML blank (space or tab). -/
def isBlank (c : Char) : Bool := c == ' ' || c == '\t'

/-- The characters after leading spaces and tabs. -/
def skipBlanks (cs : List Char) : List Char := cs.dropWhile isBlank

/-- The characters after leading spaces, tabs and newlines. -/
def skipBlankLines (cs : List Char) : List Char := cs.dropWhile fun c => isBlank c || c == '\n'

/-- Whether a character is an ASCII control character. -/
def isControl (c : Char) : Bool := c.toNat < 0x20 || c.toNat == 0x7F

/-- Whether a character is refused in one-line strings and comments: a control character
other than tab. -/
def refusedInLine (c : Char) : Bool := isControl c && c != '\t'

/-- Whether a character is refused in multi-line strings: a control character other than tab
and newline. -/
def refusedInBlock (c : Char) : Bool := isControl c && c != '\t' && c != '\n'

/-- Whether a character may appear in a bare key. -/
def isBareKeyChar (c : Char) : Bool :=
  ('A' ≤ c && c ≤ 'Z') || ('a' ≤ c && c ≤ 'z') || ('0' ≤ c && c ≤ '9') || c == '-' || c == '_'

/-- Skips a comment, if one starts here, up to the end of its line (the newline stays). -/
def skipComment (cs : List Char) : Except Failure (List Char) :=
  match cs with
  | '#' :: rest =>
    if (rest.takeWhile (· != '\n')).any refusedInLine then .error .malformed
    else .ok (rest.dropWhile (· != '\n'))
  | _ => .ok cs

/-- Skips blanks, newlines and comments, as between the elements of an array; `inComment`
says whether a comment is being skipped. -/
def skipArrayGap (inComment : Bool) : List Char → Except Failure (List Char)
  | [] => .ok []
  | c :: rest =>
    if inComment then
      if c == '\n' then skipArrayGap false rest
      else if refusedInLine c then .error .malformed
      else skipArrayGap true rest
    else if isBlank c || c == '\n' then skipArrayGap false rest
    else if c == '#' then skipArrayGap true rest
    else .ok (c :: rest)

/-! ### Strings -/

/-- The value of an ASCII hex digit. -/
def hexValue? (c : Char) : Option Nat :=
  if '0' ≤ c ∧ c ≤ '9' then some (c.toNat - 0x30)
  else if 'a' ≤ c ∧ c ≤ 'f' then some (c.toNat - 0x61 + 10)
  else if 'A' ≤ c ∧ c ≤ 'F' then some (c.toNat - 0x41 + 10)
  else none

/-- The value of a run of hex digits. -/
def hexDigits? (ds : List Char) : Option Nat :=
  ds.foldlM (fun n d => (hexValue? d).map fun v => 16 * n + v) 0

/-- The character an escape `\u` or `\U` names, if its code is a Unicode scalar value. -/
def scalar? (ds : List Char) : Option Char :=
  (hexDigits? ds).bind fun n =>
    if n ≤ 0xD7FF || (0xE000 ≤ n && n ≤ 0x10FFFF) then some (Char.ofNat n) else none

/-- The character a one-character escape stands for. -/
def simpleEscape? : Char → Option Char
  | 'b' => some (Char.ofNat 8)
  | 't' => some '\t'
  | 'n' => some '\n'
  | 'f' => some (Char.ofNat 12)
  | 'r' => some '\r'
  | '"' => some '"'
  | '\\' => some '\\'
  | _ => none

/-- The rest of a basic string after its opening quote: its characters (reversed in `acc`) up
to the closing quote. -/
def basicLine (acc : List Char) : Reader (List Char)
  | [] => .error .malformed
  | '"' :: rest => .ok (acc.reverse, rest)
  | '\\' :: 'u' :: a :: b :: c :: d :: rest =>
    match scalar? [a, b, c, d] with
    | some ch => basicLine (ch :: acc) rest
    | none => .error .malformed
  | '\\' :: 'U' :: a :: b :: c :: d :: e :: f :: g :: h :: rest =>
    match scalar? [a, b, c, d, e, f, g, h] with
    | some ch => basicLine (ch :: acc) rest
    | none => .error .malformed
  | '\\' :: e :: rest =>
    match simpleEscape? e with
    | some ch => basicLine (ch :: acc) rest
    | none => .error .malformed
  | c :: rest => if refusedInLine c then .error .malformed else basicLine (c :: acc) rest

/-- What follows a backslash that ends a line in a multi-line basic string: blanks, one
newline, then any blanks and newlines, all dropped. `none` when something else follows. -/
def lineContinuation (cs : List Char) : Option (List Char) :=
  match skipBlanks cs with
  | [] => some []
  | '\n' :: rest => some (skipBlankLines rest)
  | _ => none

/-- The rest of a multi-line basic string: its characters (reversed in `acc`) up to the
closing three quotes. Bounded by `fuel`, which the length of the text always exceeds. -/
def basicBlock (fuel : Nat) (acc : List Char) : Reader (List Char) := fun cs =>
  match fuel with
  | 0 => .error .malformed
  | fuel + 1 =>
    match cs with
    | [] => .error .malformed
    | '"' :: '"' :: '"' :: rest => .ok (acc.reverse, rest)
    | '\\' :: 'u' :: a :: b :: c :: d :: rest =>
      match scalar? [a, b, c, d] with
      | some ch => basicBlock fuel (ch :: acc) rest
      | none => .error .malformed
    | '\\' :: 'U' :: a :: b :: c :: d :: e :: f :: g :: h :: rest =>
      match scalar? [a, b, c, d, e, f, g, h] with
      | some ch => basicBlock fuel (ch :: acc) rest
      | none => .error .malformed
    | '\\' :: e :: rest =>
      if e == '\n' then basicBlock fuel acc (skipBlankLines rest)
      else if isBlank e then
        match lineContinuation rest with
        | some after => basicBlock fuel acc after
        | none => .error .malformed
      else match simpleEscape? e with
        | some ch => basicBlock fuel (ch :: acc) rest
        | none => .error .malformed
    | c :: rest => if refusedInBlock c then .error .malformed else basicBlock fuel (c :: acc) rest

/-- The rest of a literal string after its opening apostrophe. -/
def literalLine (acc : List Char) : Reader (List Char)
  | [] => .error .malformed
  | '\'' :: rest => .ok (acc.reverse, rest)
  | c :: rest => if refusedInLine c then .error .malformed else literalLine (c :: acc) rest

/-- The rest of a multi-line literal string: its characters up to the closing three
apostrophes. -/
def literalBlock (acc : List Char) : Reader (List Char)
  | [] => .error .malformed
  | '\'' :: '\'' :: '\'' :: rest => .ok (acc.reverse, rest)
  | c :: rest => if refusedInBlock c then .error .malformed else literalBlock (c :: acc) rest

/-- A multi-line string's content with the up to two delimiters that directly follow its end. -/
def extraDelimiters (delim : Char) (content : List Char) (rest : List Char) : List Char × List Char :=
  match rest with
  | a :: b :: more => if a == delim then (if b == delim then (content ++ [a, b], more) else (content ++ [a], b :: more)) else (content, rest)
  | [a] => if a == delim then (content ++ [a], []) else (content, rest)
  | [] => (content, [])

/-- The characters after the newline that directly follows an opening delimiter, if any. -/
def dropFirstNewline : List Char → List Char
  | '\n' :: rest => rest
  | cs => cs

/-- A string value of any of the four kinds, from its first delimiter. -/
def readString (fuel : Nat) : Reader String := fun cs =>
  match cs with
  | '"' :: '"' :: '"' :: rest => do
    let (content, after) ← basicBlock fuel [] (dropFirstNewline rest)
    let (content, after) := extraDelimiters '"' content after
    pure (String.ofList content, after)
  | '"' :: rest => do
    let (content, after) ← basicLine [] rest
    pure (String.ofList content, after)
  | '\'' :: '\'' :: '\'' :: rest => do
    let (content, after) ← literalBlock [] (dropFirstNewline rest)
    let (content, after) := extraDelimiters '\'' content after
    pure (String.ofList content, after)
  | '\'' :: rest => do
    let (content, after) ← literalLine [] rest
    pure (String.ofList content, after)
  | _ => .error .malformed

/-! ### Keys -/

/-- One part of a key: bare, literal or basic. -/
def readKeyPart : Reader String
  | '\'' :: rest => do
    let (content, after) ← literalLine [] rest
    pure (String.ofList content, after)
  | '"' :: rest => do
    let (content, after) ← basicLine [] rest
    pure (String.ofList content, after)
  | c :: rest =>
    if isBareKeyChar c then
      .ok (String.ofList (c :: rest.takeWhile isBareKeyChar), rest.dropWhile isBareKeyChar)
    else .error .malformed
  | [] => .error .malformed

/-- The further parts of a dotted key, after its first part and the blanks after it. Bounded
by `fuel`, which the length of the text always exceeds. -/
def readKeyRest (fuel : Nat) (acc : List String) : Reader (List String) := fun cs =>
  match fuel, cs with
  | fuel + 1, '.' :: rest => do
    let (part, after) ← readKeyPart (skipBlanks rest)
    readKeyRest fuel (part :: acc) (skipBlanks after)
  | 0, '.' :: _ => .error .malformed
  | _, _ => .ok (acc.reverse, cs)

/-- A key, dotted or not, and the blanks after it. -/
def readKey (cs : List Char) : Except Failure (List String × List Char) := do
  let (first, after) ← readKeyPart cs
  readKeyRest (cs.length + 1) [first] (skipBlanks after)

/-! ### Numbers -/

/-- A run of digits of a class, with single underscores between digits, taken greedily. -/
def digitRun (isDigit : Char → Bool) : List Char → List Char × List Char
  | '_' :: d :: rest =>
    if isDigit d then
      let (more, after) := digitRun isDigit rest
      ('_' :: d :: more, after)
    else ([], '_' :: d :: rest)
  | d :: rest =>
    if isDigit d then
      let (more, after) := digitRun isDigit rest
      (d :: more, after)
    else ([], d :: rest)
  | [] => ([], [])

/-- A digit run that must start with a digit. -/
def leadDigitRun (isDigit : Char → Bool) : List Char → Option (List Char × List Char)
  | d :: rest =>
    if isDigit d then
      let (more, after) := digitRun isDigit rest
      some (d :: more, after)
    else none
  | [] => none

/-- Whether a character is an ASCII digit. -/
def isDecimal (c : Char) : Bool := '0' ≤ c && c ≤ '9'

/-- Whether a character is an ASCII hex digit. -/
def isHex (c : Char) : Bool := (hexValue? c).isSome

/-- The value of digits of a base, underscores skipped. -/
def digitsIn (base : Nat) (ds : List Char) : Nat :=
  (ds.filter (· != '_')).foldl (fun n d => base * n + ((hexValue? d).getD 0)) 0

/-- A prefixed integer: hexadecimal, octal or binary. -/
def prefixedInteger : List Char → Option (Int × List Char)
  | '0' :: 'x' :: rest => (leadDigitRun isHex rest).map fun (ds, after) => (digitsIn 16 ds, after)
  | '0' :: 'b' :: rest =>
    (leadDigitRun (fun c => c == '0' || c == '1') rest).map fun (ds, after) => (digitsIn 2 ds, after)
  | '0' :: 'o' :: rest =>
    (leadDigitRun (fun c => '0' ≤ c && c ≤ '7') rest).map fun (ds, after) => (digitsIn 8 ds, after)
  | _ => none

/-- An optional part of a number that starts with one of `marks`, then an optional sign when
`signed`, then a digit run. -/
def numberPart (marks : List Char) (signed : Bool) (cs : List Char) : List Char × List Char :=
  match cs with
  | m :: rest =>
    if marks.contains m then
      let (sign, body) : List Char × List Char := match rest with
        | s :: more => if signed && (s == '+' || s == '-') then ([s], more) else ([], rest)
        | [] => ([], [])
      match leadDigitRun isDecimal body with
      | some (ds, after) => (m :: sign ++ ds, after)
      | none => ([], cs)
    else ([], cs)
  | [] => ([], [])

/-- A number read as TOML writes it: an integer, or a float kept as written. -/
inductive Number where
  | integer (n : Int)
  | decimal (written : String)

/-- A decimal number: sign, integer part, optional fraction and exponent. -/
def decimalNumber (cs : List Char) : Option (Except Failure (Number × List Char)) :=
  let (sign, body) : List Char × List Char := match cs with
    | s :: more => if s == '+' || s == '-' then ([s], more) else ([], cs)
    | [] => ([], [])
  let whole : Option (List Char × List Char) := match body with
    | '0' :: after => some (['0'], after)
    | c :: _ => if '1' ≤ c && c ≤ '9' then leadDigitRun isDecimal body else none
    | [] => none
  whole.map fun (intDigits, after) =>
    let (fraction, after) := numberPart ['.'] false after
    let (exponent, after) := numberPart ['e', 'E'] true after
    if fraction.isEmpty && exponent.isEmpty then
      let digits := intDigits.filter (· != '_')
      if digits.length > digitLimit then .error (.tooManyDigits digits.length)
      else
        let n : Int := digitsIn 10 intDigits
        .ok (.integer (if sign == ['-'] then -n else n), after)
    else .ok (.decimal (String.ofList (sign ++ intDigits ++ fraction ++ exponent)), after)

/-- A number, including the special floats `inf` and `nan` with an optional sign, if one
starts here. -/
def readNumber (cs : List Char) : Option (Except Failure (Number × List Char)) :=
  match prefixedInteger cs with
  | some (n, after) => some (.ok (.integer n, after))
  | none =>
    match decimalNumber cs with
    | some r => some r
    | none =>
      match cs with
      | 'i' :: 'n' :: 'f' :: rest => some (.ok (.decimal "inf", rest))
      | 'n' :: 'a' :: 'n' :: rest => some (.ok (.decimal "nan", rest))
      | s :: 'i' :: 'n' :: 'f' :: rest =>
        if s == '+' || s == '-' then some (.ok (.decimal (String.ofList [s, 'i', 'n', 'f']), rest)) else none
      | s :: 'n' :: 'a' :: 'n' :: rest =>
        if s == '+' || s == '-' then some (.ok (.decimal (String.ofList [s, 'n', 'a', 'n']), rest)) else none
      | _ => none

/-! ### Dates and times -/

/-- Two digits whose value lies between two bounds. -/
def twoDigits (lo hi : Nat) : List Char → Option (Nat × List Char)
  | a :: b :: rest =>
    if isDecimal a && isDecimal b then
      let v := 10 * (a.toNat - 0x30) + (b.toNat - 0x30)
      if lo ≤ v && v ≤ hi then some (v, rest) else none
    else none
  | _ => none

/-- A time of day `HH:MM:SS` with an optional fraction of at least one digit. -/
def timeOfDay (cs : List Char) : Option (List Char × List Char) := do
  let (_, r1) ← twoDigits 0 23 cs
  let r1 ← match r1 with | ':' :: r => some r | _ => none
  let (_, r2) ← twoDigits 0 59 r1
  let r2 ← match r2 with | ':' :: r => some r | _ => none
  let (_, r3) ← twoDigits 0 59 r2
  let after := match r3 with
    | '.' :: d :: more => if isDecimal d then more.dropWhile isDecimal else r3
    | _ => r3
  pure (cs.take (cs.length - after.length), after)

/-- Whether a year is a leap year of the Gregorian calendar. -/
def isLeap (y : Nat) : Bool := (y % 4 == 0 && y % 100 != 0) || y % 400 == 0

/-- The number of days of a month of a year. -/
def monthDays (y m : Nat) : Nat :=
  if m == 2 then (if isLeap y then 29 else 28)
  else if m == 4 || m == 6 || m == 9 || m == 11 then 30 else 31

/-- An offset after a time: `Z`, or a sign with `HH:MM`. -/
def timeOffset (cs : List Char) : List Char :=
  match cs with
  | 'Z' :: rest => rest
  | 'z' :: rest => rest
  | s :: rest =>
    if s == '+' || s == '-' then
      match twoDigits 0 23 rest with
      | some (_, ':' :: more) =>
        match twoDigits 0 59 more with
        | some (_, after) => after
        | none => cs
      | _ => cs
    else cs
  | [] => []

/-- A date, with a time of day and offset after it when present; `none` when no date starts
here, and a failure when the date does not exist. -/
def readDate (cs : List Char) : Option (Except Failure (Settings.Value × List Char)) :=
  match cs with
  | y1 :: y2 :: y3 :: y4 :: '-' :: rest =>
    if !([y1, y2, y3, y4].all isDecimal) then none
    else
      match twoDigits 1 12 rest with
      | some (m, '-' :: rest2) =>
        match twoDigits 1 31 rest2 with
        | some (d, after) =>
          let y := Text.Numeral.digitsValue [y1, y2, y3, y4]
          let dateOk := y ≥ 1 && d ≤ monthDays y m
          let timed : Option (List Char) := match after with
            | t :: more => if t == 'T' || t == 't' || t == ' ' then
                (timeOfDay more).map fun (_, afterTime) => timeOffset afterTime
              else none
            | [] => none
          let (kind, rest3) := match timed with
            | some r => (Settings.Chrono.dateTime, r)
            | none => (Settings.Chrono.date, after)
          if dateOk then
            some (.ok (.chrono kind (String.ofList (cs.take (cs.length - rest3.length))), rest3))
          else some (.error .malformed)
        | none => none
      | _ => none
  | _ => none

/-- A time of day standing alone. -/
def readTime (cs : List Char) : Option (Settings.Value × List Char) :=
  (timeOfDay cs).map fun (written, after) => (.chrono .time (String.ofList written), after)

end FlowSelect.Toml
