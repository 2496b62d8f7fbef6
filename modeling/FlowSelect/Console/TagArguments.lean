import FlowSelect.Text.Blank
import FlowSelect.Text.WordChar
/-! Arguments of action tags, written as literal values.

An action tag `[@name=arguments]` carries its arguments as text. The text, trimmed, is either a
handler name of word characters and dots followed by a parenthesized argument list, or a bare
handler name, which stands for the empty list; any other text is read whole. What is read must
be a literal value:

- a number: a decimal integer (no leading zeros, at most 4300 digits), a hex, octal or binary
  integer, a decimal with a point or an exponent, or either with `j` after it, which makes it
  imaginary; single underscores may stand between digits;
- strings and byte strings, with an optional prefix `r`, `u`, `b`, `br` or `rb` in any case
  (a formatted `f` string is not a literal), in single or triple quotes, several in a row joined
  into one, all of one kind; escapes must be complete, and byte strings hold ASCII only;
- `True`, `False`, `None`, `...`;
- a tuple, list, set or dict of literals, and `set()`; the items of a set and the keys of a dict
  must be hashable, which lists, sets and dicts are not, nor tuples holding one;
- a number with one sign before it, and the sum or difference of a real number, signed or not,
  and an imaginary one.

Blanks, comments and line breaks inside brackets are free; brackets nest at most 200 deep. -/
namespace FlowSelect.Console.TagArguments

/-! ### Tokens -/

/-- The kinds of number a literal can be. -/
inductive NumberKind where
  | integer
  | real
  | imaginary
  deriving DecidableEq, Repr

/-- A token of a literal. -/
inductive Token where
  /-- A number. -/
  | number (kind : NumberKind)
  /-- A string; `bytes` for a byte string, `formatted` for an `f` string. -/
  | text (bytes formatted : Bool)
  /-- A name. -/
  | name (n : String)
  /-- The ellipsis `...`. -/
  | ellipsis
  /-- A bracket, comma, colon or sign. -/
  | punct (c : Char)
  /-- The end of a line outside brackets. -/
  | lineEnd
  deriving DecidableEq, Repr

/-- Whether a character is an ASCII digit. -/
def isDigit (c : Char) : Bool := '0' ≤ c && c ≤ '9'

/-- Whether a character may continue a name. -/
def isNameChar (c : Char) : Bool := c.isAlphanum || c == '_' || c.toNat ≥ 0x80

/-- Whether a character may start a name. -/
def isNameStart (c : Char) : Bool := c.isAlpha || c == '_' || c.toNat ≥ 0x80

/-- Whether a character is an ASCII hex digit. -/
def isHexDigit (c : Char) : Bool :=
  isDigit c || ('a' ≤ c && c ≤ 'f') || ('A' ≤ c && c ≤ 'F')

/-- The rest after digits with single underscores between them, the first digit already read;
`none` when an underscore is not followed by a digit. -/
def digitTail (isD : Char → Bool) : List Char → Option (List Char)
  | [] => some []
  | c :: rest =>
    if isD c then digitTail isD rest
    else if c == '_' then
      match rest with
      | d :: more => if isD d then digitTail isD more else none
      | [] => none
    else some (c :: rest)

/-- The end of a number: it must not run into a name or a digit. -/
def numberEnd (kind : NumberKind) : List Char → Option (NumberKind × List Char)
  | [] => some (kind, [])
  | c :: rest => if isNameChar c then none else some (kind, c :: rest)

/-- After the digits of a real number: an optional `j`. -/
def imaginaryEnd : List Char → Option (NumberKind × List Char)
  | c :: rest => if c == 'j' || c == 'J' then numberEnd .imaginary rest else numberEnd .real (c :: rest)
  | [] => numberEnd .real []

/-- After the `e` of an exponent: a sign and digits, or digits. -/
def exponent : List Char → Option (NumberKind × List Char)
  | s :: d :: rest =>
    if (s == '+' || s == '-') && isDigit d then (digitTail isDigit rest).bind imaginaryEnd
    else if isDigit s then (digitTail isDigit (d :: rest)).bind imaginaryEnd
    else none
  | [d] => if isDigit d then imaginaryEnd [] else none
  | [] => none

/-- After the digits of a fraction: an exponent, a `j`, or the end. -/
def fractionEnd : List Char → Option (NumberKind × List Char)
  | c :: rest =>
    if c == 'e' || c == 'E' then exponent rest
    else imaginaryEnd (c :: rest)
  | [] => imaginaryEnd []

/-- After a decimal point: optional digits, then what may end a fraction. -/
def fraction : List Char → Option (NumberKind × List Char)
  | d :: rest => if isDigit d then (digitTail isDigit rest).bind fractionEnd else fractionEnd (d :: rest)
  | [] => fractionEnd []

/-- After the digits of a decimal integer: a point, an exponent, a `j`, or the end; an integer
with a leading zero and other digits is refused. -/
def integerEnd (leadingZero : Bool) : List Char → Option (NumberKind × List Char)
  | c :: rest =>
    if c == '.' then fraction rest
    else if c == 'e' || c == 'E' then exponent rest
    else if c == 'j' || c == 'J' then numberEnd .imaginary rest
    else if leadingZero then none
    else numberEnd .integer (c :: rest)
  | [] => if leadingZero then none else numberEnd .integer []

/-- After a leading zero: more zeros, each possibly after an underscore, and what stands after
them. -/
def zeroRun : List Char → Option (List Char)
  | '0' :: rest => zeroRun rest
  | '_' :: d :: rest => if d == '0' then zeroRun rest else if isDigit d then some (d :: rest) else none
  | ['_'] => none
  | cs => some cs

/-- The digits of a hex, octal or binary integer after its prefix: an optional underscore,
then digits with single underscores between them. -/
def radixDigits (isD : Char → Bool) : List Char → Option (NumberKind × List Char)
  | '_' :: d :: rest => if isD d then (digitTail isD rest).bind (numberEnd .integer) else none
  | d :: rest => if isD d then (digitTail isD rest).bind (numberEnd .integer) else none
  | [] => none

/-- How many digits a decimal integer may have. -/
def integerDigitLimit : Nat := 4300

/-- A number at the start of some characters, and the characters after it. -/
def number : List Char → Option (NumberKind × List Char)
  | '0' :: x :: rest =>
    if x == 'x' || x == 'X' then radixDigits isHexDigit rest
    else if x == 'o' || x == 'O' then radixDigits (fun c => '0' ≤ c && c ≤ '7') rest
    else if x == 'b' || x == 'B' then radixDigits (fun c => c == '0' || c == '1') rest
    else
      match zeroRun (x :: rest) with
      | some (d :: more) =>
        if isDigit d then (digitTail isDigit more).bind (integerEnd true) else integerEnd false (d :: more)
      | some [] => integerEnd false []
      | none => none
  | ['0'] => some (.integer, [])
  | '.' :: rest => fraction rest
  | d :: rest =>
    let after := digitTail isDigit rest
    let digits := ((d :: rest).takeWhile fun c => isDigit c || c == '_').filter isDigit
    match after with
    | some cs =>
      match integerEnd false cs with
      | some (.integer, r) => if digits.length > integerDigitLimit then none else some (.integer, r)
      | other => other
    | none => none
  | [] => none

/-- The kind of string a prefix asks for: raw, bytes and formatted, when it is a prefix. -/
def stringPrefix? (p : String) : Option (Bool × Bool × Bool) :=
  match String.ofList (p.toList.map Char.toLower) with
  | "" => some (false, false, false)
  | "u" => some (false, false, false)
  | "r" => some (true, false, false)
  | "b" => some (false, true, false)
  | "br" | "rb" => some (true, true, false)
  | "f" => some (false, false, true)
  | "fr" | "rf" => some (true, false, true)
  | _ => none

/-- The body of a string in single quotes, up to its closing quote, and the characters after
it; a backslash keeps the character after it in the body. -/
def shortBody (quote : Char) : List Char → Option (List Char × List Char)
  | [] => none
  | c :: rest =>
    if c == quote then some ([], rest)
    else if c == '\n' then none
    else if c == '\\' then
      match rest with
      | d :: more => (shortBody quote more).map fun (b, r) => (c :: d :: b, r)
      | [] => none
    else (shortBody quote rest).map fun (b, r) => (c :: b, r)

/-- The body of a string in triple quotes, up to three quotes in a row, and the characters after
it. -/
def longBody (quote : Char) : List Char → Option (List Char × List Char)
  | [] => none
  | c :: rest =>
    if c == quote then
      match rest with
      | d :: e :: more =>
        if d == quote && e == quote then some ([], more)
        else (longBody quote rest).map fun (b, r) => (c :: b, r)
      | _ => (longBody quote rest).map fun (b, r) => (c :: b, r)
    else if c == '\\' then
      match rest with
      | d :: more => (longBody quote more).map fun (b, r) => (c :: d :: b, r)
      | [] => none
    else (longBody quote rest).map fun (b, r) => (c :: b, r)

/-- Whether some characters are hex digits, exactly `n` of them at the front. -/
def hexDigitsAhead (n : Nat) (cs : List Char) : Bool :=
  cs.length ≥ n && (cs.take n).all isHexDigit

/-- The value of hex digits. -/
def hexValue (cs : List Char) : Nat :=
  cs.foldl (fun n c =>
    16 * n + (if isDigit c then c.toNat - 48 else if c ≤ 'F' then c.toNat - 55 else c.toNat - 87)) 0

/-- Whether the escapes of a body are complete: `\x` takes two hex digits, and in a string
`\u` four, `\U` eight naming a code point, and `\N` a name in braces. -/
def escapesComplete (bytes : Bool) : List Char → Bool
  | '\\' :: c :: rest =>
    if c == 'x' then hexDigitsAhead 2 rest && escapesComplete bytes (rest.drop 2)
    else if c == 'u' && !bytes then hexDigitsAhead 4 rest && escapesComplete bytes (rest.drop 4)
    else if c == 'U' && !bytes then
      hexDigitsAhead 8 rest && hexValue (rest.take 8) ≤ 0x10FFFF &&
        escapesComplete bytes (rest.drop 8)
    else if c == 'N' && !bytes then
      match rest with
      | '{' :: more =>
        let name := more.takeWhile (· != '}')
        !name.isEmpty && name.all (fun ch => ch.isAlphanum || ch == ' ' || ch == '-') &&
          escapesComplete bytes (more.drop (name.length + 1)) && more.length > name.length
      | _ => false
    else escapesComplete bytes rest
  | _ :: rest => escapesComplete bytes rest
  | [] => true
termination_by cs => cs.length
decreasing_by
  all_goals simp_wf
  all_goals omega

/-- A string token after its prefix, at its opening quote, and the characters after it. -/
def string (raw bytes formatted : Bool) (quote : Char) (rest : List Char) :
    Option (Token × List Char) := do
  let (body, after) ← match rest with
    | q :: r :: more =>
      if q == quote && r == quote then longBody quote more
      else if q == quote then some ([], r :: more)
      else shortBody quote rest
    | [q] => if q == quote then some ([], []) else shortBody quote rest
    | [] => none
  if bytes && body.any (·.toNat ≥ 0x80) then none
  else if !raw && !formatted && !escapesComplete bytes body then none
  else some (.text bytes formatted, after)

/-- The deepest bracket nesting allowed. -/
def maxDepth : Nat := 200

/-- Whether a character is a blank between tokens. -/
def isSpace (c : Char) : Bool := c == ' ' || c == '\t' || c == Char.ofNat 12

/-- Whether a bracket closes another. -/
def closes (opening closing : Char) : Bool :=
  (opening == '(' && closing == ')') || (opening == '[' && closing == ']') ||
    (opening == '{' && closing == '}')

/-- The tokens so far with a line end after them, unless there are none or the last one
already is one. -/
def endLine (acc : List Token) : List Token :=
  match acc with
  | [] => []
  | .lineEnd :: _ => acc
  | _ => .lineEnd :: acc

/-- Where a line outside brackets stands before its first token: the column reached by blanks
(a tab moves to the next multiple of eight, a form feed back to the start), and the column at
the first line continuation, if one came (zero when none did). -/
structure LineStart where
  /-- The column reached. -/
  column : Nat
  /-- The column at the first line continuation, or zero. -/
  continued : Nat
  deriving DecidableEq, Repr

/-- The start of a fresh line. -/
def LineStart.fresh : LineStart := ⟨0, 0⟩

/-- Whether a line starting so is indented: its first token does not stand in the first
column. -/
def LineStart.indented (l : LineStart) : Bool :=
  (if l.continued != 0 then l.continued else l.column) != 0

/-- The tokens of a literal, given fuel, the open brackets (innermost first), where the line
stands when no token has come on it yet outside brackets, and the tokens so far (last first). A
line outside brackets whose first token is indented is refused, as is an indented end. -/
def tokens : Nat → List Char → Option LineStart → List Token → List Char → Option (List Token)
  | 0, _, _, _, _ => none
  | _ + 1, open_, start, acc, [] =>
    if !open_.isEmpty || (start.map LineStart.indented).getD false then none else some acc.reverse
  | fuel + 1, open_, some l, acc, c :: rest =>
    if c == ' ' then tokens fuel open_ (some { l with column := l.column + 1 }) acc rest
    else if c == '\t' then
      tokens fuel open_ (some { l with column := (l.column / 8 + 1) * 8 }) acc rest
    else if c == Char.ofNat 12 then tokens fuel open_ (some { l with column := 0 }) acc rest
    else if c == '\\' then
      match rest with
      | '\n' :: d :: more =>
        let l := if l.continued == 0 then { l with continued := l.column } else l
        tokens fuel open_ (some l) acc (d :: more)
      | _ => none
    else if c == '#' then tokens fuel open_ (some l) acc (rest.dropWhile (· != '\n'))
    else if c == '\n' then tokens fuel open_ (some LineStart.fresh) (endLine acc) rest
    else if l.indented then none
    else tokens fuel open_ none acc (c :: rest)
  | fuel + 1, open_, none, acc, c :: rest =>
    let emit := fun (t : Token) (opened : List Char) (after : List Char) =>
      tokens fuel opened none (t :: acc) after
    if isSpace c then tokens fuel open_ none acc rest
    else if c == '\n' then
      if open_.isEmpty then tokens fuel open_ (some LineStart.fresh) (endLine acc) rest
      else tokens fuel open_ none acc rest
    else if c == '#' then tokens fuel open_ none acc (rest.dropWhile (· != '\n'))
    else if c == '\\' then
      match rest with
      | '\n' :: d :: more => tokens fuel open_ none acc (d :: more)
      | _ => none
    else if isDigit c || (c == '.' && (rest.head?.map isDigit).getD false) then
      match number (c :: rest) with
      | some (k, after) => emit (.number k) open_ after
      | none => none
    else if c == '.' then
      match rest with
      | '.' :: '.' :: more => emit .ellipsis open_ more
      | _ => none
    else if c == '\'' || c == '"' then
      match string false false false c rest with
      | some (t, after) => emit t open_ after
      | none => none
    else if isNameStart c then
      let word := (c :: rest).takeWhile isNameChar
      let after := (c :: rest).drop word.length
      match after, stringPrefix? (String.ofList word) with
      | q :: more, some (raw, bytes, formatted) =>
        if q == '\'' || q == '"' then
          match string raw bytes formatted q more with
          | some (t, after) => emit t open_ after
          | none => none
        else emit (.name (String.ofList word)) open_ after
      | _, _ => emit (.name (String.ofList word)) open_ after
    else if c == '(' || c == '[' || c == '{' then
      if open_.length ≥ maxDepth then none else emit (.punct c) (c :: open_) rest
    else if c == ')' || c == ']' || c == '}' then
      match open_ with
      | o :: outer => if closes o c then emit (.punct c) outer rest else none
      | [] => none
    else if c == ',' || c == ':' || c == '+' || c == '-' then emit (.punct c) open_ rest
    else none

/-! ### Values -/

/-- What a piece of a literal is, as far as the pieces around it care. -/
inductive Shape where
  /-- A number as written. -/
  | number (kind : NumberKind)
  /-- A number with a sign before it. -/
  | signed (kind : NumberKind)
  /-- A real number plus or minus an imaginary one. -/
  | complex
  /-- Any other literal; whether it is hashable. -/
  | value (hashable : Bool)
  /-- The name `set`, which is a literal only when called with no arguments. -/
  | setName
  deriving DecidableEq, Repr

/-- Whether a piece is a literal, and then whether it is hashable. -/
def Shape.hashable? : Shape → Option Bool
  | .number _ => some true
  | .signed _ => some true
  | .complex => some true
  | .value h => some h
  | .setName => none

/-- Whether a kind of number is real. -/
def NumberKind.isReal : NumberKind → Bool
  | .imaginary => false
  | _ => true

/-- The sum or difference of two pieces: a real number, signed or not, and an imaginary one. -/
def combine : Shape → Shape → Option Shape
  | .number k, .number .imaginary => if k.isReal then some .complex else none
  | .signed k, .number .imaginary => if k.isReal then some .complex else none
  | _, _ => none

/-- A name as a piece. -/
def nameShape : String → Option Shape
  | "True" | "False" | "None" => some (.value true)
  | "set" => some .setName
  | _ => none

/-- The strings that stand in a row at the front, joined: they must all be of one kind and none
formatted. -/
def strings (bytes : Bool) : List Token → Option (List Token)
  | .text b f :: rest => if b != bytes || f then none else strings bytes rest
  | ts => some ts

mutual

/-- A sum of terms, and the tokens after it. -/
def sum : Nat → List Token → Option (Shape × List Token)
  | 0, _ => none
  | fuel + 1, ts => do
    let (first, rest) ← term fuel ts
    sumRest fuel first rest

/-- The terms added to or taken from a first one. -/
def sumRest : Nat → Shape → List Token → Option (Shape × List Token)
  | 0, _, _ => none
  | fuel + 1, left, .punct c :: rest =>
    if c == '+' || c == '-' then do
      let (right, more) ← term fuel rest
      let s ← combine left right
      sumRest fuel s more
    else some (left, .punct c :: rest)
  | _ + 1, left, ts => some (left, ts)

/-- A term: a primary with signs before it. -/
def term : Nat → List Token → Option (Shape × List Token)
  | 0, _ => none
  | fuel + 1, .punct c :: rest =>
    if c == '+' || c == '-' then do
      let (operand, more) ← term fuel rest
      match operand with
      | .number k => some (.signed k, more)
      | _ => none
    else primary fuel (.punct c :: rest)
  | fuel + 1, ts => primary fuel ts

/-- A primary: an atom, called with no arguments when it is the name `set`. -/
def primary : Nat → List Token → Option (Shape × List Token)
  | 0, _ => none
  | fuel + 1, ts => do
    let (a, rest) ← atom fuel ts
    match rest with
    | .punct '(' :: .punct ')' :: more => if a == .setName then some (.value false, more) else none
    | .punct '(' :: _ => none
    | _ => some (a, rest)

/-- An atom: a number, strings, a name, the ellipsis, or a bracketed display. -/
def atom : Nat → List Token → Option (Shape × List Token)
  | 0, _ => none
  | fuel + 1, ts =>
    match ts with
    | .number k :: rest => some (.number k, rest)
    | .text b _ :: _ => (strings b ts).map fun rest => (.value true, rest)
    | .name n :: rest => (nameShape n).map fun s => (s, rest)
    | .ellipsis :: rest => some (.value true, rest)
    | .punct '(' :: .punct ')' :: rest => some (.value true, rest)
    | .punct '(' :: rest => do
      let (first, more) ← sum fuel rest
      match more with
      | .punct ')' :: after => some (first, after)
      | .punct ',' :: after => do
        let h ← first.hashable?
        let (hs, after) ← items fuel ')' after
        some (.value (h && hs.all id), after)
      | _ => none
    | .punct '[' :: rest => do
      let (_, after) ← items fuel ']' rest
      some (.value false, after)
    | .punct '{' :: .punct '}' :: rest => some (.value false, rest)
    | .punct '{' :: rest => do
      let (first, more) ← sum fuel rest
      let h ← first.hashable?
      match more with
      | .punct ':' :: after => do
        let (v, after) ← sum fuel after
        let _ ← v.hashable?
        if !h then none else do
          let after ← entries fuel after
          some (.value false, after)
      | .punct ',' :: after => do
        let (hs, after) ← items fuel '}' after
        if h && hs.all id then some (.value false, after) else none
      | .punct '}' :: after => if h then some (.value false, after) else none
      | _ => none
    | _ => none

/-- Literals separated by commas, possibly none and with a comma after the last, up to a closing
bracket: whether each is hashable, and the tokens after the bracket. -/
def items : Nat → Char → List Token → Option (List Bool × List Token)
  | 0, _, _ => none
  | fuel + 1, closing, .punct c :: rest =>
    if c == closing then some ([], rest) else itemsFrom fuel closing (.punct c :: rest)
  | fuel + 1, closing, ts => itemsFrom fuel closing ts

/-- At least one literal of a run of items, and the rest of the run. -/
def itemsFrom : Nat → Char → List Token → Option (List Bool × List Token)
  | 0, _, _ => none
  | fuel + 1, closing, ts => do
    let (s, rest) ← sum fuel ts
    let h ← s.hashable?
    match rest with
    | .punct c :: more =>
      if c == closing then some ([h], more)
      else if c == ',' then do
        let (hs, after) ← items fuel closing more
        some (h :: hs, after)
      else none
    | _ => none

/-- The entries of a dict after its first one, up to its closing brace: each key hashable. -/
def entries : Nat → List Token → Option (List Token)
  | 0, _ => none
  | _ + 1, .punct '}' :: rest => some rest
  | _ + 1, .punct ',' :: .punct '}' :: rest => some rest
  | fuel + 1, .punct ',' :: rest => do
    let (k, more) ← sum fuel rest
    let h ← k.hashable?
    match more with
    | .punct ':' :: after => do
      let (v, after) ← sum fuel after
      let _ ← v.hashable?
      if h then entries fuel after else none
    | _ => none
  | _ + 1, _ => none

end

/-- Whether tokens make one literal, or several separated by commas (a tuple), followed only by
line ends. -/
def literalTokens (ts : List Token) : Bool :=
  let fuel := 4 * ts.length + 4
  let rest? : Option (List Token) := do
    let (first, rest) ← sum fuel ts
    let h ← first.hashable?
    let _ := h
    match rest with
    | .punct ',' :: more =>
      match more.dropWhile (· == .lineEnd), more with
      | [], _ => some []
      | _, _ => (tupleRest fuel more).map (·.2)
    | _ => some rest
  match rest? with
  | some rest => rest.all (· == .lineEnd)
  | none => false
where
  /-- The literals after the first comma of a tuple written without brackets. -/
  tupleRest : Nat → List Token → Option (Unit × List Token)
    | 0, _ => none
    | fuel + 1, ts => do
      let (s, rest) ← sum fuel ts
      let _ ← s.hashable?
      match rest with
      | .punct ',' :: more =>
        if more.all (· == .lineEnd) then some ((), more) else tupleRest fuel more
      | _ => some ((), rest)

/-- Line breaks made uniform: a carriage return, alone or before a line feed, is a line feed. -/
def lineBreaks : List Char → List Char
  | '\r' :: '\n' :: rest => '\n' :: lineBreaks rest
  | '\r' :: rest => '\n' :: lineBreaks rest
  | c :: rest => c :: lineBreaks rest
  | [] => []

/-- Whether a text reads as one literal value. -/
def isLiteral (text : String) : Bool :=
  let cs := text.toList
  if cs.contains (Char.ofNat 0) then false
  else
    let cs := lineBreaks (cs.dropWhile fun c => c == ' ' || c == '\t')
    match tokens (2 * cs.length + 2) [] (some LineStart.fresh) [] cs with
    | some ts => literalTokens ts
    | none => false

/-! ### Action tags -/

/-- A handler name and its parenthesized arguments, when a text is one: word characters and
dots, then nothing or a parenthesized list on one line. -/
def handlerSplit? (s : String) : Option (String × Option String) :=
  let cs := s.toList
  let name := cs.takeWhile (· != '(')
  let args := cs.drop name.length
  if !name.all (fun c => Text.isWordChar c || c == '.') then none
  else match args with
    | [] => some (String.ofList name, none)
    | _ =>
      if args.length ≥ 2 && args.getLast? == some ')' && !args.contains '\n' then
        some (String.ofList name, some (String.ofList args))
      else none

/-- Whether the arguments of an action tag read: the text trimmed, split into a handler and its
arguments when it is one (a bare handler takes the empty list), and read as a literal. -/
def accepted (arguments : String) : Bool :=
  let s := Text.trim arguments
  match handlerSplit? s with
  | some (_, some args) => isLiteral args
  | some (_, none) => isLiteral "()"
  | none => isLiteral s

end FlowSelect.Console.TagArguments
