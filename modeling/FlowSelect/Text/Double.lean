/-! Double-precision numbers written as decimals, in their shortest form.

A decimal numeral stands for the double nearest to it, ties going to the even significand. A
finite double is a significand and a binary exponent, `m * 2 ^ e`: normal doubles have a
53-bit significand and an exponent of at least `-1074`, subnormal ones the exponent `-1074` and
a smaller significand; past the largest finite double a numeral stands for infinity.

A double is written with the fewest significant digits that read back as the same double,
choosing the candidate nearest to it (the even one between two equally near). The digits are
written plainly when the decimal point falls between four places before them and sixteen after
their first, with `.0` after a whole number, and otherwise as one digit, a fraction and an
exponent of at least two digits, such as `1e+16` or `2.5e-07`. -/
namespace FlowSelect.Text.Double

/-- Whether `n / d ≥ 2 ^ k`. -/
def atLeastPow2 (n d : Nat) (k : Int) : Bool :=
  if k ≥ 0 then n ≥ d * Nat.pow 2 k.toNat else n * Nat.pow 2 (-k).toNat ≥ d

/-- `n / d` rounded to the nearest whole number, ties to even. -/
def roundHalfEven (n d : Nat) : Nat :=
  let q := n / d
  let r := n % d
  if 2 * r > d || (2 * r == d && q % 2 == 1) then q + 1 else q

/-- A double: finite with its sign, significand and binary exponent, or infinite. -/
inductive Binary where
  | finite (negative : Bool) (significand : Nat) (exponent : Int)
  | infinite (negative : Bool)
  deriving DecidableEq, Repr

/-- The double nearest to `n / d`, for a positive `d`, as a significand and exponent, or
`none` past the largest finite double. -/
def nearest (n d : Nat) : Option (Nat × Int) :=
  if n = 0 then some (0, -1074)
  else
    let guess : Int := (Nat.log2 n : Int) - (Nat.log2 d : Int)
    let top := if atLeastPow2 n d guess then guess else guess - 1
    let e := max (top - 52) (-1074)
    let m := if e ≥ 0 then roundHalfEven n (d * Nat.pow 2 e.toNat)
      else roundHalfEven (n * Nat.pow 2 (-e).toNat) d
    let (m, e) := if m = Nat.pow 2 53 then (Nat.pow 2 52, e + 1) else (m, e)
    if e > 971 then none else some (m, e)

/-- A double as an exact fraction: numerator and denominator. -/
def fraction (m : Nat) (e : Int) : Nat × Nat :=
  if e ≥ 0 then (m * Nat.pow 2 e.toNat, 1) else (m, Nat.pow 2 (-e).toNat)

/-- `D * 10 ^ p` as a fraction. -/
def scaled (digits : Nat) (p : Int) : Nat × Nat :=
  if p ≥ 0 then (digits * Nat.pow 10 p.toNat, 1) else (digits, Nat.pow 10 (-p).toNat)

/-- Whether `D * 10 ^ p` reads back as the double `m * 2 ^ e`. -/
def readsBack (m : Nat) (e : Int) (digits : Nat) (p : Int) : Bool :=
  let (n, d) := scaled digits p
  nearest n d == some (m, e)

/-- The position of the leading digit of `n / d` (positive): the largest `k` with
`10 ^ k ≤ n / d`, searched within `fuel` steps downward from the guess. -/
def leadingPower (n d : Nat) : Nat → Int → Int
  | 0, k => k
  | fuel + 1, k =>
    let (a, b) := scaled 1 k
    if n * b ≥ a * d then k else leadingPower n d fuel (k - 1)

/-- The shortest digits reading back as `m * 2 ^ e` with `k` significant digits or more, as
digits and a power of ten, trying `k` up to seventeen. -/
def shortestFrom (m : Nat) (e : Int) (lead : Int) : Nat → Nat → Option (Nat × Int)
  | 0, _ => none
  | fuel + 1, k =>
    let (n, d) := fraction m e
    let p : Int := lead - (k : Int) + 1
    let (a, b) := scaled 1 p
    -- v / 10^p = n * b / (d * a)
    let lo := (n * b) / (d * a)
    let exact := (n * b) % (d * a) == 0
    let candidates := if exact then [lo] else [lo, lo + 1]
    let good := candidates.filter fun c => c > 0 && readsBack m e c p
    match good with
    | [c] => some (c, p)
    | [c, c'] =>
      -- distances from v, scaled by d * a: v - lo * 10^p and (lo + 1) * 10^p - v
      let below := n * b - c * d * a
      let above := c' * d * a - n * b
      if below < above then some (c, p)
      else if above < below then some (c', p)
      else if c % 2 == 0 then some (c, p) else some (c', p)
    | _ => shortestFrom m e lead fuel (k + 1)

/-- Digits and a power of ten with the trailing zeros of the digits moved into the power. -/
def dropZeros : Nat → Nat × Int → Nat × Int
  | 0, r => r
  | fuel + 1, (c, p) => if c > 0 && c % 10 == 0 then dropZeros fuel (c / 10, p + 1) else (c, p)

/-- The exponent of a written double: a sign and at least two digits. -/
def exponentText (x : Int) : String :=
  let digits := toString x.natAbs
  (if x < 0 then "-" else "+") ++ (if digits.length < 2 then "0" ++ digits else digits)

/-- Digits written with the decimal point `decpt` places after their first. -/
def placeDigits (s : String) (decpt : Int) : String :=
  if decpt ≤ -4 || decpt > 16 then
    let rest := s.drop 1
    let mantissa := if rest.isEmpty then (s.take 1).toString else (s.take 1).toString ++ "." ++ rest.toString
    mantissa ++ "e" ++ exponentText (decpt - 1)
  else if decpt ≤ 0 then "0." ++ String.ofList (List.replicate (-decpt).toNat '0') ++ s
  else if decpt ≥ (s.length : Int) then s ++ String.ofList (List.replicate (decpt.toNat - s.length) '0') ++ ".0"
  else (s.take decpt.toNat).toString ++ "." ++ (s.drop decpt.toNat).toString

/-- A double written in its shortest form. -/
def Binary.text : Binary → String
  | .infinite negative => if negative then "-inf" else "inf"
  | .finite negative m e =>
    let sign := if negative then "-" else ""
    if m = 0 then sign ++ "0.0"
    else
      let (n, d) := fraction m e
      let guess : Int := ((Nat.log2 n : Int) - (Nat.log2 d : Int) + 1) * 30103 / 100000 + 2
      let lead := leadingPower n d 700 guess
      match shortestFrom m e lead 17 1 with
      | some found =>
        let (c, p) := dropZeros 20 found
        let s := toString c
        sign ++ placeDigits s (p + s.length)
      | none => sign ++ "nan"

/-! ### Reading numerals -/

/-- The value of ASCII digits. -/
def digitsValue (cs : List Char) : Nat := cs.foldl (fun n c => 10 * n + (c.toNat - 48)) 0

/-- A numeral `-? digits (. digits)? ([eE] [+-]? digits)?` as a sign, its digits and a power of
ten; `none` when it is not one. -/
def readNumeral (s : String) : Option (Bool × Nat × Int) :=
  let cs := s.toList
  let (negative, cs) := match cs with
    | '-' :: rest => (true, rest)
    | _ => (false, cs)
  let isDigit := fun (c : Char) => '0' ≤ c && c ≤ '9'
  let whole := cs.takeWhile isDigit
  let cs := cs.drop whole.length
  let (fractional, cs) := match cs with
    | '.' :: rest => (rest.takeWhile isDigit, rest.drop (rest.takeWhile isDigit).length)
    | _ => ([], cs)
  let expo : Option Int := match cs with
    | [] => some 0
    | c :: rest =>
      if c == 'e' || c == 'E' then
        let (neg, ds) := match rest with
          | '-' :: more => (true, more)
          | '+' :: more => (false, more)
          | _ => (false, rest)
        if !ds.isEmpty && ds.all isDigit then
          some (if neg then -(digitsValue ds : Int) else (digitsValue ds : Int))
        else none
      else none
  if whole.isEmpty then none
  else expo.map fun x => (negative, digitsValue (whole ++ fractional), x - fractional.length)

/-- The double a numeral stands for. -/
def ofNumeral (negative : Bool) (digits : Nat) (p : Int) : Binary :=
  let width : Int := (toString digits).length
  if digits = 0 || p + width < -325 then .finite negative 0 (-1074)
  else if p + width > 310 then .infinite negative
  else
    let (n, d) := scaled digits p
    match nearest n d with
    | some (m, e) => .finite negative m e
    | none => .infinite negative

/-- A decimal numeral written as the double it stands for, in shortest form; `none` when the
text is not a numeral. -/
def shortest (s : String) : Option String :=
  (readNumeral s).map fun (negative, digits, p) => (ofNumeral negative digits p).text

end FlowSelect.Text.Double
