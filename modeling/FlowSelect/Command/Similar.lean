/-! Close matches between words, for suggesting an intended option.

Two words are compared by their matching blocks: the longest common block of characters is
taken first (the earliest in the first word, then in the second, among the longest), and the
parts on either side of it are matched the same way. The similarity is twice the number of
matched characters over the total length, and a candidate is close when it reaches three
fifths. In a second word of 200 characters or more, a character that occurs more than once per
hundred characters (plus one) cannot start a block, though blocks may still grow over it.

At most three close candidates are kept, the most similar first (the greater candidate first
among equals). -/
namespace FlowSelect.Command

/-- The longest common block of `a[alo, ahi)` and `b[blo, bhi)`: its start in each and its
length. `starts c` lists the positions of `c` in `b` that may start a block, in order. -/
def longestBlock (a b : List Char) (starts : Char → List Nat) (alo ahi blo bhi : Nat) :
    Nat × Nat × Nat :=
  let step := fun (acc : (Nat × Nat × Nat) × List (Nat × Nat)) (i : Nat) =>
    let (best, runs) := acc
    let js := (starts (a.getD i ' ')).filter fun j => blo ≤ j && j < bhi
    js.foldl (fun (acc : (Nat × Nat × Nat) × List (Nat × Nat)) j =>
      let (best, fresh) := acc
      let k := (((runs.find? fun r => r.1 + 1 == j).map Prod.snd).getD 0) + 1
      let best := if k > best.2.2 then (i + 1 - k, j + 1 - k, k) else best
      (best, fresh ++ [(j, k)])) (best, [])
  let (best, _) := (List.range' alo (ahi - alo)).foldl step ((alo, blo, 0), [])
  let (i, j, k) := best
  let back := (List.range (min (i - alo) (j - blo))).takeWhile fun d =>
    a.getD (i - d - 1) ' ' == b.getD (j - d - 1) ' '
  let (i, j, k) := (i - back.length, j - back.length, k + back.length)
  let ahead := (List.range (min (ahi - (i + k)) (bhi - (j + k)))).takeWhile fun d =>
    a.getD (i + k + d) ' ' == b.getD (j + k + d) ' '
  (i, j, k + ahead.length)

/-- The number of matched characters of `a[alo, ahi)` and `b[blo, bhi)`, bounded by `fuel`. -/
def matchedCount (a b : List Char) (starts : Char → List Nat) :
    Nat → Nat → Nat → Nat → Nat → Nat
  | 0, _, _, _, _ => 0
  | fuel + 1, alo, ahi, blo, bhi =>
    let (i, j, k) := longestBlock a b starts alo ahi blo bhi
    if k = 0 then 0
    else
      let left := if alo < i && blo < j then matchedCount a b starts fuel alo i blo j else 0
      let right :=
        if i + k < ahi && j + k < bhi then matchedCount a b starts fuel (i + k) ahi (j + k) bhi
        else 0
      k + left + right

/-- The positions of a character in a word that may start a block. -/
def blockStarts (b : List Char) (c : Char) : List Nat :=
  let js := ((List.range b.length).filter fun j => b.getD j ' ' == c)
  if b.length ≥ 200 && js.length > b.length / 100 + 1 then [] else js

/-- The number of matched characters of two words. -/
def matched (a b : List Char) : Nat :=
  matchedCount a b (blockStarts b) (a.length + b.length + 1) 0 a.length 0 b.length

/-- Whether a candidate is close to a word. -/
def isClose (word candidate : String) : Bool :=
  10 * matched candidate.toList word.toList ≥ 3 * (candidate.length + word.length)

/-- Whether the first scored candidate ranks before the second: more similar, or as similar
and greater. Similarities are compared as fractions. -/
def ranksBefore (x y : Nat × Nat × String) : Bool :=
  x.1 * y.2.1 > y.1 * x.2.1 || (x.1 * y.2.1 == y.1 * x.2.1 && decide (y.2.2 < x.2.2))

/-- The candidates close to a word, at most three, the best first. -/
def closeMatches (word : String) (candidates : List String) : List String :=
  let scored := (candidates.filter (isClose word)).map fun c =>
    (matched c.toList word.toList, c.length + word.length, c)
  ((scored.mergeSort ranksBefore).take 3).map fun s => s.2.2

end FlowSelect.Command
