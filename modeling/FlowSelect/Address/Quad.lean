import FlowSelect.Fault
import FlowSelect.Text.DecimalDigit
import FlowSelect.Text.Numeral
/-! IPv4 addresses in dotted-quad form, and the masks written after a slash.

A dotted quad is four octets separated by dots. An octet is one to three ASCII digits with no
leading zero (except `0` itself) and a value of at most 255; nothing else, not even a blank, is
allowed. A network's mask is either a prefix length, written in ASCII digits, or a dotted quad
that is a netmask (ones, then zeros) or a hostmask (zeros, then ones). -/
namespace FlowSelect.Address

/-- The value of one octet of a dotted quad, if the characters form one. -/
def octet? (cs : List Char) : Option Nat :=
  if cs.isEmpty || !cs.all Text.isAsciiDigit || cs.length > 3 then none
  else if cs.length > 1 && cs.head? == some '0' then none
  else
    let v := Text.Numeral.digitsValue cs
    if v > 255 then none else some v

/-- The 32-bit value of a dotted quad, if the text is one. -/
def quad? (s : String) : Option Nat :=
  if s.contains '/' then none
  else match s.toList.splitOn '.' with
    | [a, b, c, d] => do
      let a ← octet? a
      let b ← octet? b
      let c ← octet? c
      let d ← octet? d
      pure (((a * 256 + b) * 256 + c) * 256 + d)
    | _ => none

/-- The prefix length of a mask of `width` bits, when its bits are ones then zeros. -/
def netmaskPrefix? (width m : Nat) : Option Nat :=
  (List.range (width + 1)).find? fun p => m == Nat.pow 2 width - Nat.pow 2 (width - p)

/-- The prefix length a hostmask of `width` bits stands for, when its bits are zeros then ones. -/
def hostmaskPrefix? (width m : Nat) : Option Nat :=
  (List.range (width + 1)).find? fun p => m == Nat.pow 2 (width - p) - 1

/-- A prefix length written in ASCII digits, if it is at most `width`. Text of more than
`digitLimit` digits is no prefix length. -/
def prefixLength? (width : Nat) (s : String) : Option Nat :=
  if Text.Numeral.isDigits s && s.length ≤ digitLimit then
    let p := Text.Numeral.digitsValue s.toList
    if p ≤ width then some p else none
  else none

/-- The prefix length that the text after an IPv4 network's slash stands for: a prefix length,
else a dotted-quad netmask, else a dotted-quad hostmask. -/
def quadMask? (s : String) : Option Nat :=
  match prefixLength? 32 s with
  | some p => some p
  | none => (quad? s).bind fun m => (netmaskPrefix? 32 m).orElse fun _ => hostmaskPrefix? 32 m

end FlowSelect.Address
