import FlowSelect.Address.Hextet
/-! Address selectors: the forms an address filter accepts.

An address filter selects one address (IPv4 or IPv6), a network written as an address, a slash
and a mask, or a range written as two addresses of the same family joined by a hyphen. A text
with a slash is read as a network only; one without a slash but with a hyphen as a range only,
cut at its first hyphen. Host bits under the mask of a network are allowed. -/
namespace FlowSelect.Address

/-- The two address families. -/
inductive Family where
  | v4
  | v6
  deriving DecidableEq, Repr

/-- The family of a text that is an address. -/
def family? (s : String) : Option Family :=
  if (quad? s).isSome then some .v4
  else if isHextetAddress s then some .v6
  else none

/-- Whether a text is a network: an address and at most one slash with a valid mask after it. -/
def isNetwork (s : String) : Bool :=
  match s.toList.splitOn '/' with
  | [a] => (family? (String.ofList a)).isSome
  | [a, m] =>
    let a := String.ofList a
    let m := String.ofList m
    ((quad? a).isSome && (quadMask? m).isSome) ||
      (isHextetAddress a && (prefixLength? 128 m).isSome)
  | _ => false

/-- Whether a text is a range: two addresses of one family around its first hyphen. -/
def isRange (s : String) : Bool :=
  match Text.cut s '-' with
  | some (a, b) =>
    match family? a, family? b with
    | some x, some y => x == y
    | _, _ => false
  | none => false

/-- Whether a text selects addresses: a network if it has a slash, else a range if it has a
hyphen, else a single address. -/
def isSelector (s : String) : Bool :=
  if s.contains '/' then isNetwork s
  else if s.contains '-' then isRange s
  else (family? s).isSome

end FlowSelect.Address
