import FlowSelect.Address.Quad
import FlowSelect.Text.Basic
/-! IPv6 addresses in colon-hextet form.

An address is eight groups of one to four hex digits separated by colons. One run of groups may
be left out as `::`; a leading or trailing colon is allowed only as part of that `::`. The last
two groups may be written as a dotted quad. The address may end with `%` and a non-empty zone
that holds no further `%`. -/
namespace FlowSelect.Address

/-- Whether a character is an ASCII hex digit. -/
def isHexDigit (c : Char) : Bool :=
  ('0' ≤ c && c ≤ '9') || ('a' ≤ c && c ≤ 'f') || ('A' ≤ c && c ≤ 'F')

/-- Whether characters form one group: one to four hex digits. -/
def isHextet (cs : List Char) : Bool :=
  !cs.isEmpty && cs.all isHexDigit && cs.length ≤ 4

/-- Whether groups split at colons, the dotted tail already replaced, form an address. -/
def groupsValid (parts : List (List Char)) : Bool :=
  let n := parts.length
  let inner := ((List.range n).drop 1).take (n - 2)
  let gaps := inner.filter fun i => (parts.getD i []).isEmpty
  let firstEmpty := (parts.headD []).isEmpty
  let lastEmpty := (parts.getLastD []).isEmpty
  if n > 9 then false
  else match gaps with
    | [] =>
      n == 8 && !firstEmpty && !lastEmpty && parts.all isHextet
    | [gap] =>
      let high := if firstEmpty then gap - 1 else gap
      let low := if lastEmpty then n - gap - 2 else n - gap - 1
      (!firstEmpty || gap == 1) && (!lastEmpty || gap == n - 2) && high + low < 8 &&
        (parts.take high).all isHextet && (parts.drop (n - low)).all isHextet
    | _ => false

/-- Whether a text without zone is an IPv6 address. -/
def isHextetCore (s : String) : Bool :=
  let parts := s.toList.splitOn ':'
  if s.isEmpty || parts.length < 3 then false
  else
    let last := parts.getLastD []
    if last.contains '.' then
      match quad? (String.ofList last) with
      | some _ => groupsValid (parts.dropLast ++ [['0'], ['0']])
      | none => false
    else groupsValid parts

/-- Whether a text is an IPv6 address, possibly with a zone after `%`. -/
def isHextetAddress (s : String) : Bool :=
  if s.contains '/' then false
  else match Text.cut s '%' with
    | none => isHextetCore s
    | some (core, zone) => !zone.isEmpty && !zone.contains '%' && isHextetCore core

end FlowSelect.Address
