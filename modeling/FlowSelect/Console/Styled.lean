/-! Text with styled spans.

A line of console markup shows text in which stretches carry styles. A `Span` is such a
stretch: the position of its first character, the position after its last, and the style's
definition as written. Spans may cover no text at all, and they may overlap.

When the console lays text out it divides it into pieces, cuts characters off its end and pads
it; the spans follow the text. Dividing keeps of each span only the parts that cover some text
of a piece, so a span that covers no text is lost when its text is divided, and kept when it is
not. Cutting the end loses the spans that start in what is cut. -/
namespace FlowSelect.Console

/-- A style given to a stretch of text. -/
structure Span where
  /-- The position of the first character. -/
  start : Nat
  /-- The position after the last character. -/
  stop : Nat
  /-- The style's definition. -/
  style : String
  deriving DecidableEq, Repr

/-- Text with the styles given to stretches of it. -/
structure Styled where
  /-- The characters. -/
  chars : List Char
  /-- The styled stretches. -/
  spans : List Span
  deriving DecidableEq, Repr

/-- Text with no styles. -/
def Styled.plain (cs : List Char) : Styled := ⟨cs, []⟩

/-- A span moved `n` positions later. -/
def Span.shift (n : Nat) (s : Span) : Span := ⟨s.start + n, s.stop + n, s.style⟩

/-- The part of a span inside `[lo, hi)`, counted from `lo`, when it covers some text there. -/
def Span.within (lo hi : Nat) (s : Span) : Option Span :=
  let a := max s.start lo
  let b := min s.stop hi
  if a < b then some ⟨a - lo, b - lo, s.style⟩ else none

/-- Characters cut at increasing positions, counted from `pos`. -/
def cutAt (pos : Nat) : List Nat → List Char → List (List Char)
  | [], cs => [cs]
  | o :: os, cs => cs.take (o - pos) :: cutAt o os (cs.drop (o - pos))

/-- Text divided at increasing positions: the pieces between them, each with the parts of the
spans that cover some of its text. Text divided nowhere is kept whole, with all its spans. -/
def Styled.divide (t : Styled) (offsets : List Nat) : List Styled :=
  match offsets with
  | [] => [t]
  | _ =>
    let bounds := 0 :: offsets ++ [t.chars.length]
    List.zipWith (fun cs (r : Nat × Nat) => ⟨cs, t.spans.filterMap (Span.within r.1 r.2)⟩)
      (cutAt 0 offsets t.chars) (bounds.zip bounds.tail)

/-- Text that keeps only its first `n` characters: spans that start after them are lost, and
the others end with them at the latest. -/
def Styled.keep (t : Styled) (n : Nat) : Styled :=
  ⟨t.chars.take n, t.spans.filterMap fun s =>
    if s.start < n then some ⟨s.start, min s.stop n, s.style⟩ else none⟩

/-- Text whose characters are replaced by as many or fewer: when there are fewer, spans are cut
as `keep` cuts them. -/
def Styled.replace (t : Styled) (cs : List Char) : Styled :=
  if cs.length < t.chars.length then ⟨cs, (t.keep cs.length).spans⟩ else ⟨cs, t.spans⟩

/-- Text with `n` spaces added at its end; the spans that reach its end grow over them. -/
def Styled.pad (t : Styled) (n : Nat) : Styled :=
  let len := t.chars.length
  ⟨t.chars ++ List.replicate n ' ',
    t.spans.map fun s => if len ≤ s.stop then ⟨s.start, s.stop + n, s.style⟩ else s⟩

/-- One text after another; the spans of the second move with its text. -/
def Styled.append (t u : Styled) : Styled :=
  ⟨t.chars ++ u.chars, t.spans ++ u.spans.map (Span.shift t.chars.length)⟩

/-- Texts one after another. -/
def Styled.concat (ts : List Styled) : Styled := ts.foldr Styled.append ⟨[], []⟩

end FlowSelect.Console
