import FlowSelect.Text.Utf8
/-! Percent coding of texts, as used in links and backend fragments.

Encoding writes the UTF-8 bytes of a text; the letters, digits and `_ . - ~` stand for
themselves and every other byte is written `%XX` with two upper-case hex digits. Decoding turns
every `%` followed by two hex digits (of either case) into that byte and keeps any other `%` as
it is. Decoded bytes are read as UTF-8, each broken sequence becoming U+FFFD. Characters outside
ASCII are never part of an escape: they are kept as they are, and they split the text into
separately decoded runs. A text without `%` decodes to itself. -/
namespace FlowSelect.Text.Percent

/-- Whether a byte stands for itself in encoded text. -/
def isUnreserved (b : Nat) : Bool :=
  (0x41 ≤ b && b ≤ 0x5A) || (0x61 ≤ b && b ≤ 0x7A) || (0x30 ≤ b && b ≤ 0x39) ||
    b == 0x5F || b == 0x2E || b == 0x2D || b == 0x7E

/-- The upper-case hex digit of a number below 16. -/
def hexDigit (n : Nat) : Char :=
  if n < 10 then Char.ofNat (0x30 + n) else Char.ofNat (0x41 + n - 10)

/-- The value of a hex digit of either case. -/
def hexValue? (c : Char) : Option Nat :=
  if '0' ≤ c ∧ c ≤ '9' then some (c.toNat - 0x30)
  else if 'A' ≤ c ∧ c ≤ 'F' then some (c.toNat - 0x41 + 10)
  else if 'a' ≤ c ∧ c ≤ 'f' then some (c.toNat - 0x61 + 10)
  else none

/-- How one byte is written. -/
def encodeByte (b : Nat) : List Char :=
  if isUnreserved b then [Char.ofNat b] else ['%', hexDigit (b / 16), hexDigit (b % 16)]

/-- The encoded characters of a list of characters. -/
def encodeChars (cs : List Char) : List Char := (Utf8.encode cs).flatMap encodeByte

/-- A text percent-encoded, every byte but the unreserved ones escaped. -/
def encode (s : String) : String := String.ofList (encodeChars s.toList)

/-- The bytes of a run of ASCII characters with its escapes decoded. -/
def escapedBytes : List Char → List Nat
  | [] => []
  | '%' :: a :: b :: rest =>
    match hexValue? a, hexValue? b with
    | some x, some y => (16 * x + y) :: escapedBytes rest
    | _, _ => 0x25 :: escapedBytes (a :: b :: rest)
  | c :: rest => c.toNat :: escapedBytes rest

/-- Decodes characters, `run` holding the ASCII characters read since the last non-ASCII one
(nearest first). -/
def decodeRuns (run : List Char) : List Char → List Char
  | [] => Utf8.decodeLossy (escapedBytes run.reverse)
  | c :: rest =>
    if c.toNat < 0x80 then decodeRuns (c :: run) rest
    else Utf8.decodeLossy (escapedBytes run.reverse) ++ c :: decodeRuns [] rest

/-- A percent-encoded text decoded. -/
def decode (s : String) : String :=
  if s.contains '%' then String.ofList (decodeRuns [] s.toList) else s

end FlowSelect.Text.Percent
