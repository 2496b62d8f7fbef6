import FlowSelect.Console.CellWidth
import FlowSelect.Console.Styled
import FlowSelect.Text.Blank
/-! How a console lays out a line of styled text.

The console is `consoleWidth` cells wide. Text is laid out line by line, a line being what
stands between newlines. In a line with tabs, each tab becomes a space followed by as many
spaces as reach the next multiple of eight cells, counting the cells of the line before it.

A line is then wrapped, unless the text is printed as it comes (`soft`). Wrapping reads the
line as words: a word is a run of blanks, a run of other characters and a run of blanks, and
it fits when what remains of the line holds it without its final blanks. A word that does not
fit starts a new line, and a word wider than the console is cut into lines of the console's
width, between clusters. The blanks that end a line may overflow the console: the line is
then shortened by at most as many characters as it has beyond the width, taking only blanks,
and, when wrapped, cut to the console's width in cells. -/
namespace FlowSelect.Console

/-- The width of the console, in cells. -/
def consoleWidth : Nat := 10000

/-- The distance between tab stops, in cells. -/
def tabSize : Nat := 8

/-- The positions of a character in text, counted from `pos`. -/
def positionsFrom (c : Char) (pos : Nat) : List Char → List Nat
  | [] => []
  | d :: rest => if d == c then pos :: positionsFrom c (pos + 1) rest else positionsFrom c (pos + 1) rest

/-- The lines of text: the stretches between its newlines, each with the parts of the spans
that cover some of it. Text without a newline is one line, with all its spans. -/
def Styled.lines (t : Styled) : List Styled :=
  match positionsFrom '\n' 0 t.chars with
  | [] => [t]
  | breaks => (t.divide (breaks.flatMap fun i => [i, i + 1])).filter (·.chars != ['\n'])

/-- The parts of a line, each up to and including a tab, with the tab made a space and padded
to the next tab stop; `position` is the cells before them. -/
def expandParts (position : Nat) : List Styled → List Styled
  | [] => []
  | p :: rest =>
    if p.chars.getLast? == some '\t' then
      let p : Styled := ⟨p.chars.dropLast ++ [' '], p.spans⟩
      let position := position + textWidth p.chars
      let gap := (tabSize - position % tabSize) % tabSize
      p.pad gap :: expandParts (position + gap) rest
    else p :: expandParts (position + textWidth p.chars) rest

/-- A line with its tabs expanded. -/
def Styled.expandTabs (t : Styled) : Styled :=
  match positionsFrom '\t' 0 t.chars with
  | [] => t
  | tabs => Styled.concat (expandParts 0 (t.divide (tabs.map (· + 1))))

/-! ### Wrapping -/

/-- The words of a line with their positions, given the word being read (newest character
first), its position, whether it has a character that is not blank yet and whether the
character before is blank. A new word starts where a character that is not blank follows a
blank, once the current word has one; a line of blanks has no words. -/
def wordsFrom (pos start : Nat) (word : List Char) (seen afterBlank : Bool) :
    List Char → List (Nat × List Char)
  | [] => if seen then [(start, word.reverse)] else []
  | c :: rest =>
    let blank := Text.isBlank c
    if seen && afterBlank && !blank then
      (start, word.reverse) :: wordsFrom (pos + 1) pos [c] true false rest
    else wordsFrom (pos + 1) start (c :: word) (seen || !blank) blank rest

/-- The words of a line, with their positions. -/
def words (cs : List Char) : List (Nat × List Char) := wordsFrom 0 0 [] false false cs

/-- Characters without their final blanks. -/
def dropEndBlanks (cs : List Char) : List Char :=
  (cs.reverse.dropWhile Text.isBlank).reverse

/-- The breaks between the lines a folded word is cut into, from the position of the word:
the word's own position when it is not the start of the line, and the position after each
cut piece but the last. -/
def foldBreaks (start : Nat) : List (List Char) → List Nat
  | [] => []
  | [_] => if start == 0 then [] else [start]
  | piece :: rest =>
    (if start == 0 then [] else [start]) ++ foldBreaks (start + piece.length) rest

/-- The positions at which words break a line `width` cells wide, given the cells already
used on the current line. A word that fits stays on it. A word wider than any line is folded
and its last piece fills the new current line. Otherwise the word starts a new line, unless
it is the first of the text or the current line is empty. -/
def breaksFrom (width used : Nat) : List (Nat × List Char) → List Nat
  | [] => []
  | (start, word) :: rest =>
    let needed := textWidth (dropEndBlanks word)
    if used + needed ≤ width then breaksFrom width (used + textWidth word) rest
    else if width < needed then
      let pieces := chopCells width word
      foldBreaks start pieces ++
        breaksFrom width (textWidth ((pieces.getLast?).getD [])) rest
    else if used != 0 && start != 0 then start :: breaksFrom width (textWidth word) rest
    else breaksFrom width used rest

/-- The positions at which a line breaks to fit `width` cells. -/
def lineBreaks (width : Nat) (cs : List Char) : List Nat := breaksFrom width 0 (words cs)

/-- A line without the blanks that overflow `size` characters: when the line is longer than
that, as many of its final blanks as it has characters beyond it, or all of them if fewer. -/
def Styled.dropOverflowBlanks (size : Nat) (t : Styled) : Styled :=
  let len := t.chars.length
  let blanks := (t.chars.reverse.takeWhile Text.isBlank).length
  if size < len && blanks != 0 then t.keep (len - min blanks (len - size)) else t

/-- The longest start of text that fits `total` cells, found by halving between `lo` and `hi`
with at most `fuel` steps: a start that fits exactly, or one that overflows by a wide last
character, which is then made a space. -/
def fitSearch (cs : List Char) (total : Nat) : Nat → Nat → Nat → List Char
  | 0, _, _ => cs.take total
  | fuel + 1, lo, hi =>
    let pos := (lo + hi) / 2
    let before := cs.take (pos + 1)
    let width := textWidth before
    if width == total + 1 && (before.getLast?.map cellWidth) == some 2 then
      before.dropLast ++ [' ']
    else if width == total then before
    else if width > total then fitSearch cs total fuel lo pos
    else fitSearch cs total fuel pos hi

/-- Text cut to `total` cells when it is wider. -/
def cutToWidth (total : Nat) (cs : List Char) : List Char :=
  if total = 0 then [] else fitSearch cs total (cs.length + 1) 0 cs.length

/-- A line cut to `size` cells when it is wider. -/
def Styled.crop (size : Nat) (t : Styled) : Styled :=
  if size < textWidth t.chars then t.replace (cutToWidth size t.chars) else t

/-- The lines a console shows for text: wrapped and cropped to its width unless `soft`. -/
def layout (soft : Bool) (t : Styled) : List Styled :=
  t.lines.flatMap fun line =>
    let line := line.expandTabs
    if soft then [line.dropOverflowBlanks consoleWidth]
    else (line.divide (lineBreaks consoleWidth line.chars)).map fun piece =>
      (piece.dropOverflowBlanks consoleWidth).crop consoleWidth

end FlowSelect.Console
