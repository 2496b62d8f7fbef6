import FlowSelect.Text.Case.Lower
import FlowSelect.Text.Case.Upper
import FlowSelect.Text.Case.Context
/-! Full Unicode case mapping of texts.

Lower and upper case follow the full mappings of Unicode 14.0, so a character may become
several (ß becomes SS in upper case, İ becomes i followed by a combining dot in lower case), and
the capital sigma takes its final form ς when a cased letter stands before it and none after it.
No other context (language, Turkish dotless i) changes a mapping. ASCII letters take the
short path, and agree with the tables. -/
namespace FlowSelect.Text

open Case

/-- The lower case of one character, for every character but the capital sigma. -/
def lowerChar (c : Char) : List Char :=
  if c.toNat < 0x80 then [c.toLower]
  else if c.toNat = 0x130 then ['i', '̇']
  else match Run.lookup lowerRuns c with
    | some d => [d]
    | none => [c]

/-- The upper case of one character. -/
def upperChar (c : Char) : List Char :=
  if c.toNat < 0x80 then [c.toUpper]
  else match upperExpansions.lookup c.toNat with
    | some e => e
    | none => match Run.lookup upperRuns c with
      | some d => [d]
      | none => [c]

/-- Whether case mapping looks through a character when it seeks a sigma's neighbours. -/
def isCaseIgnorable (c : Char) : Bool := inRanges ignorableRanges c

/-- Whether a character counts as a cased letter next to a sigma. -/
def isCasedLetter (c : Char) : Bool := inRanges casedRanges c

/-- Whether a capital sigma takes the final form, given the characters before it (nearest
first) and after it: a cased letter must come first before it and none first after it, when
case-ignorable characters are skipped. -/
def finalSigma (before after : List Char) : Bool :=
  (match before.dropWhile isCaseIgnorable with
    | c :: _ => isCasedLetter c
    | [] => false) &&
  (match after.dropWhile isCaseIgnorable with
    | c :: _ => !isCasedLetter c
    | [] => true)

/-- Lower case of `rest`, when `before` (nearest first) precedes it. -/
def lowerFrom : List Char → List Char → List Char
  | _, [] => []
  | before, c :: rest =>
    (if c.toNat = 0x3A3 then [if finalSigma before rest then 'ς' else 'σ'] else lowerChar c) ++
      lowerFrom (c :: before) rest

/-- The full lower case of a list of characters. -/
def lowerChars (cs : List Char) : List Char := lowerFrom [] cs

/-- The full upper case of a list of characters. -/
def upperChars (cs : List Char) : List Char := cs.flatMap upperChar

/-- The full lower case of a text. -/
def lower (s : String) : String := String.ofList (lowerChars s.toList)

/-- The full upper case of a text. -/
def upper (s : String) : String := String.ofList (upperChars s.toList)

end FlowSelect.Text
