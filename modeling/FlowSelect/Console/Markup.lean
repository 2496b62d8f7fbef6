import FlowSelect.Console.Emoji
import FlowSelect.Console.Styled
import FlowSelect.Console.Style
import FlowSelect.Console.TagArguments
import FlowSelect.Text.Case
import FlowSelect.Text.Blank
/-! Console markup: the text a styled console line shows.

A line of console markup holds style tags in square brackets, `[name]` to open a style and
`[/name]` or `[/]` to close one. A tag starts with a lower-case ASCII letter or one of `# / @`
after its bracket and runs to the first closing bracket, with no opening bracket inside; what
follows an `=` in it is its parameters. A run of backslashes right before a tag is halved, and
when the run is odd the tag is shown as text instead; elsewhere a backslash before an opening
bracket is dropped.

Tags show nothing, but they must fit. Tag names are compared in their normal form as styles
(`Style.lean`), so `[b]` is closed by `[/bold]`; an explicit close must name an open style, the
newest of that name, and a bare close must have one to close. Closing an action tag (`@name`)
reads its parameters as arguments (`TagArguments.lean`), which must be a literal. Every other
style opened, with its parameters, is kept as the style of the text it spans (`Styled.lean`);
when the line is drawn each such style is read, and one whose reading breaks stops the line.

The text shown loses the control characters a console drops: bell, backspace, vertical tab,
form feed and carriage return.

Emoji codes are replaced in the text between tags: a colon, a name with no blank, and a colon
stand for the emoji of that name (in lower case), with an optional `-emoji` or `-text` ending
that selects a variant. Codes are found left to right and do not overlap; a code whose name is
unknown stays as written. -/
namespace FlowSelect.Console

/-- The variant selector a code's ending asks for. -/
def variantSelector : String → String
  | "emoji" => "\uFE0F"
  | "text" => "\uFE0E"
  | _ => ""

/-- A code's name and variant ending, when it has one. -/
def splitVariant (body : List Char) : List Char × String :=
  if body.length ≥ 6 && body.drop (body.length - 6) == "-emoji".toList then
    (body.take (body.length - 6), "emoji")
  else if body.length ≥ 5 && body.drop (body.length - 5) == "-text".toList then
    (body.take (body.length - 5), "text")
  else (body, "")

/-- What a code between two colons shows: its emoji, or the code itself when the name is
unknown. -/
def showCode (body : List Char) : List Char :=
  let (name, variant) := splitVariant body
  match emoji? (Text.lower (String.ofList name)) with
  | some e => (e ++ variantSelector variant).toList
  | none => ':' :: body ++ [':']

/-- The text after a colon, given as the pieces between the colons that follow: a piece with no
blank that a further colon closes is a code; otherwise the colon is plain text and the next
colon may open a code. -/
def afterColon : List (List Char) → List Char
  | [] => []
  | [last] => ':' :: last
  | p :: q :: rest =>
    if p.any Text.isBlank then ':' :: p ++ afterColon (q :: rest)
    else showCode p ++ q ++ afterColon rest

/-- A text with its emoji codes replaced. -/
def replaceEmoji (cs : List Char) : List Char :=
  match cs.splitOn ':' with
  | [] => []
  | first :: rest => first ++ afterColon rest

/-! ### Tags -/

/-- A piece of markup: text, or a tag with its name and optional parameters. -/
inductive Piece where
  | text (cs : List Char)
  | tag (name : List Char) (parameters : Option (List Char))
  deriving DecidableEq, Repr

/-- Whether a character may start a tag. -/
def isTagStart (c : Char) : Bool := ('a' ≤ c && c ≤ 'z') || c == '#' || c == '/' || c == '@'

/-- The body of a tag after its opening bracket and the characters after its closing bracket:
the first character must start a tag, and the body runs to the first closing bracket with no
opening bracket on the way. -/
def tagBody : List Char → Option (List Char × List Char)
  | c :: rest =>
    if isTagStart c then
      let body := rest.takeWhile fun d => d != ']' && d != '['
      match rest.drop body.length with
      | ']' :: after => some (c :: body, after)
      | _ => none
    else none
  | [] => none

/-- The trailing run of backslashes of some characters, and what stands before it. -/
def trailingBackslashes (cs : List Char) : List Char × Nat :=
  let run := (cs.reverse.takeWhile (· == '\\')).length
  (cs.take (cs.length - run), run)

/-- The pieces of a tag found after the text `before`, with the backslashes that end it. -/
def tagPieces (before body : List Char) : List Piece :=
  let (plain, run) := trailingBackslashes before
  let lead := if plain.isEmpty then [] else [Piece.text plain]
  let slashes := if run / 2 = 0 then [] else [Piece.text (List.replicate (run / 2) '\\')]
  let tag :=
    if run % 2 = 1 then Piece.text ('[' :: body ++ [']'])
    else match body.splitOn '=' with
      | [] => Piece.tag [] none
      | [name] => Piece.tag name none
      | name :: more => Piece.tag name (some ((more.intersperse ['=']).flatten))
  lead ++ slashes ++ [tag]

/-- The pieces of markup, with `before` the text since the last tag, newest character first. -/
def piecesFrom (before : List Char) : List Char → List Piece
  | [] => if before.isEmpty then [] else [.text before.reverse]
  | c :: rest =>
    if c == '[' then
      match tagBody rest with
      | some (body, _) =>
        tagPieces before.reverse body ++ piecesFrom [] (rest.drop (body.length + 1))
      | none => piecesFrom (c :: before) rest
    else piecesFrom (c :: before) rest
termination_by cs => cs.length
decreasing_by
  all_goals simp only [List.length_drop, List.length_cons]
  all_goals omega

/-- The pieces of a line of markup. -/
def pieces (cs : List Char) : List Piece := piecesFrom [] cs

/-- A backslash before an opening bracket dropped, in text between tags. -/
def unescapeBrackets : List Char → List Char
  | '\\' :: '[' :: rest => '[' :: unescapeBrackets rest
  | c :: rest => c :: unescapeBrackets rest
  | [] => []

/-- Why markup cannot be shown. -/
inductive MarkupError where
  /-- A closing tag names no open style. -/
  | unmatched (name : String)
  /-- A bare closing tag with no open style. -/
  | nothingToClose
  /-- Reading a style definition broke. -/
  | brokenStyle (definition : String)
  /-- The arguments of an action tag are not a literal. -/
  | badArguments (arguments : String)
  deriving DecidableEq, Repr

/-- Whether a console drops a control character from text it shows: bell, backspace, vertical
tab, form feed and carriage return. -/
def isDropped (c : Char) : Bool :=
  c.toNat == 7 || c.toNat == 8 || c.toNat == 11 || c.toNat == 12 || c.toNat == 13

/-- A style opened by a tag and not closed yet: its name in normal form, its parameters, and
how much text had been shown when it opened. -/
structure OpenStyle where
  /-- The name, in normal form. -/
  name : String
  /-- The parameters after `=`, if any. -/
  parameters : Option String
  /-- The number of characters shown before it. -/
  start : Nat
  deriving DecidableEq, Repr

/-- The style definition of an open style: its name, then its parameters. -/
def OpenStyle.definition (o : OpenStyle) : String :=
  match o.parameters with
  | some p => o.name ++ " " ++ p
  | none => o.name

/-- Whether an open style comes from an action tag. -/
def OpenStyle.isAction (o : OpenStyle) : Bool := o.name.startsWith "@"

/-- The span of an open style that ends after `shown` characters. -/
def OpenStyle.span (o : OpenStyle) (shown : Nat) : Span := ⟨o.start, shown, o.definition⟩

/-- The normal form of a tag name, or the error of a reading that breaks. -/
def normalName (name : String) : Except MarkupError String :=
  match normalStyle? name with
  | some n => .ok n
  | none => .error (.brokenStyle name)

/-- The open styles after the newest one of a name is closed, and that one. -/
def closeNamed (key : String) : List OpenStyle → Option (OpenStyle × List OpenStyle)
  | [] => none
  | s :: rest =>
    if s.name == key then some (s, rest) else (closeNamed key rest).map fun (c, r) => (c, s :: r)

/-- What closing an open style gives when `shown` characters have been shown: the span it
styles, or nothing for an action tag, whose arguments must be a literal. -/
def closeStyle (shown : Nat) (o : OpenStyle) : Except MarkupError (List Span) :=
  if o.isAction then
    match o.parameters with
    | some p =>
      if p.isEmpty || TagArguments.accepted p then .ok [] else .error (.badArguments p)
    | none => .ok []
  else .ok [o.span shown]

/-- The text a piece of text between tags shows: escaped brackets and emoji codes replaced, and
dropped control characters removed. -/
def showText (cs : List Char) : List Char := (replaceEmoji (unescapeBrackets cs)).filter (!isDropped ·)

/-- The text shown by pieces of markup after `shown` characters, with the open styles (newest
first): the characters, and the spans of the styles closed on the way or left open. -/
def showPieces (styles : List OpenStyle) (shown : Nat) :
    List Piece → Except MarkupError (List Char × List Span)
  | [] => .ok ([], styles.map (·.span shown))
  | .text cs :: rest => do
    let t := showText cs
    let (tail, spans) ← showPieces styles (shown + t.length) rest
    pure (t ++ tail, spans)
  | .tag name parameters :: rest =>
    match name with
    | '/' :: closed =>
      let key := Text.trim (String.ofList closed)
      if key.isEmpty then
        match styles with
        | [] => .error .nothingToClose
        | o :: others => do
          let span ← closeStyle shown o
          let (t, spans) ← showPieces others shown rest
          pure (t, span ++ spans)
      else do
        let key ← normalName key
        match closeNamed key styles with
        | some (o, others) => do
          let span ← closeStyle shown o
          let (t, spans) ← showPieces others shown rest
          pure (t, span ++ spans)
        | none => .error (.unmatched key)
    | _ => do
      let n ← normalName (String.ofList name)
      showPieces (⟨n, parameters.map String.ofList, shown⟩ :: styles) shown rest

/-- The text shown for a line that is not read as markup: emoji codes replaced and dropped
control characters removed. -/
def showPlain (s : String) : Styled := .plain ((replaceEmoji s.toList).filter (!isDropped ·))

/-- The text a line of markup shows, with the spans its tags style. Text without an opening
bracket is shown as it would be if it were not markup. -/
def showMarkup (s : String) : Except MarkupError Styled :=
  if s.contains '[' then (showPieces [] 0 (pieces s.toList)).map fun (t, spans) => ⟨t, spans⟩
  else .ok (showPlain s)

end FlowSelect.Console
