/-! UTF-8: characters as bytes, and bytes back as characters with damage marked.

Encoding writes each character in one to four bytes as RFC 3629 lays out. Decoding reads bytes
with the same table, one byte at a time, and never fails: each maximal run of bytes that cannot
start or continue a well-formed sequence becomes one replacement character U+FFFD, and reading
resumes at the byte that broke the sequence. A sequence cut short by the end of the bytes also
becomes one U+FFFD. Bytes are natural numbers below 256. -/
namespace FlowSelect.Text.Utf8

/-- The bytes of one character. -/
def encodeChar (c : Char) : List Nat :=
  let n := c.toNat
  if n < 0x80 then [n]
  else if n < 0x800 then [0xC0 + n / 0x40, 0x80 + n % 0x40]
  else if n < 0x10000 then [0xE0 + n / 0x1000, 0x80 + n / 0x40 % 0x40, 0x80 + n % 0x40]
  else [0xF0 + n / 0x40000, 0x80 + n / 0x1000 % 0x40, 0x80 + n / 0x40 % 0x40, 0x80 + n % 0x40]

/-- The bytes of a list of characters. -/
def encode (cs : List Char) : List Nat := cs.flatMap encodeChar

/-- The replacement character that marks bytes that are not UTF-8. -/
def replacement : Char := '�'

/-- A sequence begun and not yet finished: how many bytes it still needs, the range the next
byte must lie in, and the bits of the code point read so far. -/
structure Pending where
  /-- Continuation bytes still needed. -/
  need : Nat
  /-- The least value the next byte may have. -/
  low : Nat
  /-- The greatest value the next byte may have. -/
  high : Nat
  /-- The code point bits read so far. -/
  bits : Nat

/-- What one byte read between characters gives: a character, a begun sequence, or a mark for
a byte that cannot start one. -/
def start (b : Nat) : List Char × Option Pending :=
  if b < 0x80 then ([Char.ofNat b], none)
  else if 0xC2 ≤ b ∧ b ≤ 0xDF then ([], some ⟨1, 0x80, 0xBF, b - 0xC0⟩)
  else if b = 0xE0 then ([], some ⟨2, 0xA0, 0xBF, 0⟩)
  else if 0xE1 ≤ b ∧ b ≤ 0xEC then ([], some ⟨2, 0x80, 0xBF, b - 0xE0⟩)
  else if b = 0xED then ([], some ⟨2, 0x80, 0x9F, 0xD⟩)
  else if 0xEE ≤ b ∧ b ≤ 0xEF then ([], some ⟨2, 0x80, 0xBF, b - 0xE0⟩)
  else if b = 0xF0 then ([], some ⟨3, 0x90, 0xBF, 0⟩)
  else if 0xF1 ≤ b ∧ b ≤ 0xF3 then ([], some ⟨3, 0x80, 0xBF, b - 0xF0⟩)
  else if b = 0xF4 then ([], some ⟨3, 0x80, 0x8F, 4⟩)
  else ([replacement], none)

/-- The characters of bytes read from a state: between characters, or inside a sequence. -/
def decodeFrom : Option Pending → List Nat → List Char
  | none, [] => []
  | some _, [] => [replacement]
  | none, b :: rest =>
    let r := start b
    r.1 ++ decodeFrom r.2 rest
  | some p, b :: rest =>
    if p.low ≤ b ∧ b ≤ p.high then
      let bits := p.bits * 0x40 + (b - 0x80)
      if p.need = 1 then Char.ofNat bits :: decodeFrom none rest
      else decodeFrom (some ⟨p.need - 1, 0x80, 0xBF, bits⟩) rest
    else
      let r := start b
      replacement :: (r.1 ++ decodeFrom r.2 rest)

/-- The characters of bytes, each broken sequence marked by one replacement character. -/
def decodeLossy (bs : List Nat) : List Char := decodeFrom none bs

end FlowSelect.Text.Utf8
