import FlowSelect.Toml.Lexeme
/-! The document tree a TOML reader builds, and the marks that keep it consistent.

Tables are opened by headers (`[a.b]`), by arrays of tables (`[[a]]`, whose last element is
the open table) and by dotted keys (`a.b = 1`). A path through the tree enters a table, or the
last table of an array of tables; anything else in the way refuses the write.

Two marks guard paths. A table opened by a header is *explicit* and cannot be opened again by a
header or a dotted key; a value written inline (an inline table or array) is *frozen* together
with everything under it and cannot be extended at all. Dotted keys mark the tables they pass
through as explicit only once the next header starts, so several dotted keys of one section may
share a prefix. Opening an array of tables clears the marks under it, as its new element is a
fresh table. -/
namespace FlowSelect.Toml

/-- The marks of one path and of the paths under it. -/
inductive Marks where
  | node (explicit frozen explicitBelow frozenBelow : Bool) (children : List (String × Marks))
  deriving Inhabited

/-- A mark a path may carry. -/
inductive Mark where
  | explicit
  | frozen
  deriving DecidableEq, Repr

namespace Marks

/-- The node with no marks and no children. -/
def blank : Marks := .node false false false false []

/-- The children of a node. -/
def children : Marks → List (String × Marks)
  | .node _ _ _ _ cs => cs

/-- A node with its children replaced. -/
def withChildren : Marks → List (String × Marks) → Marks
  | .node e f eb fb _, cs => .node e f eb fb cs

/-- A node with one mark added, on the node itself or on everything below it too. -/
def addMark (m : Mark) (below : Bool) : Marks → Marks
  | .node e f eb fb cs =>
    match m, below with
    | .explicit, false => .node true f eb fb cs
    | .frozen, false => .node e true eb fb cs
    | .explicit, true => .node e f true fb cs
    | .frozen, true => .node e f eb true cs

/-- Whether a node carries a mark on itself. -/
def hasMark (m : Mark) : Marks → Bool
  | .node e f eb fb _ => match m with
    | .explicit => e || eb
    | .frozen => f || fb

/-- Whether a node carries a mark for everything below it. -/
def marksBelow (m : Mark) : Marks → Bool
  | .node _ _ eb fb _ => match m with
    | .explicit => eb
    | .frozen => fb

/-- A child by key. -/
def child? (cs : List (String × Marks)) (k : String) : Option Marks :=
  (cs.find? fun e => e.1 == k).map Prod.snd

/-- The children with the child at `k` (created blank when missing) changed by `f`. -/
def updateChild (k : String) (f : Marks → Marks) : List (String × Marks) → List (String × Marks)
  | [] => [(k, f blank)]
  | (k', m) :: rest => if k' == k then (k', f m) :: rest else (k', m) :: updateChild k f rest

/-- The children after a mark is set at a path below them. -/
def setAt (m : Mark) (below : Bool) : List String → List (String × Marks) → List (String × Marks)
  | [], cs => cs
  | [k], cs => updateChild k (addMark m below) cs
  | k :: ks, cs => updateChild k (fun n => n.withChildren (setAt m below ks n.children)) cs

/-- Whether a path below some children carries a mark, on itself or from a node above it
marked for everything below. The empty path is the document, which carries none. -/
def isAt (m : Mark) : List String → List (String × Marks) → Bool
  | [], _ => false
  | [k], cs => match child? cs k with
    | some n => n.hasMark m
    | none => false
  | k :: ks, cs => match child? cs k with
    | some n => n.marksBelow m || isAt m ks n.children
    | none => false

/-- The children after the node at a path is removed with everything below it. -/
def clearAt : List String → List (String × Marks) → List (String × Marks)
  | [], cs => cs
  | [k], cs => cs.filter fun e => e.1 != k
  | k :: ks, cs =>
    match child? cs k with
    | some _ => cs.map fun e => if e.1 == k then (e.1, e.2.withChildren (clearAt ks e.2.children)) else e
    | none => cs

end Marks

/-- The marks of a document, with the marks of dotted keys that wait for the next header. -/
structure Guard where
  /-- The marks in force. -/
  marks : List (String × Marks)
  /-- Paths passed by dotted keys, to be marked explicit at the next header. -/
  pending : List (List String)

/-- The guard of an empty document. -/
def Guard.empty : Guard := ⟨[], []⟩

/-- Whether a path carries a mark. -/
def Guard.has (g : Guard) (m : Mark) (path : List String) : Bool := Marks.isAt m path g.marks

/-- The guard with a mark set at a path. -/
def Guard.set (g : Guard) (m : Mark) (below : Bool) (path : List String) : Guard :=
  { g with marks := Marks.setAt m below path g.marks }

/-- The guard with the waiting paths marked explicit. -/
def Guard.settle (g : Guard) : Guard :=
  ⟨g.pending.foldl (fun ms p => Marks.setAt .explicit false p ms) g.marks, []⟩

/-! ### The tree -/

/-- The entries of a table, in the order they were written. -/
abbrev Entries := List (String × Settings.Value)

/-- The entries of a table with the value at `k` replaced, or added at the end. -/
def putEntry (k : String) (v : Settings.Value) : Entries → Entries
  | [] => [(k, v)]
  | (k', w) :: rest => if k' == k then (k, v) :: rest else (k', w) :: putEntry k v rest

/-- The value at a key of a table. -/
def valueAt? (es : Entries) (k : String) : Option Settings.Value :=
  (es.find? fun e => e.1 == k).map Prod.snd

/-- The items of an array with its last table changed by `f`; refused when the array is empty
or ends with something other than a table. -/
def updateLastTable (f : Entries → Option (Entries)) :
    List Settings.Value → Option (List Settings.Value)
  | [] => none
  | [.table es] => (f es).map fun es' => [.table es']
  | [_] => none
  | x :: rest => (updateLastTable f rest).map (x :: ·)

/-- A table changed by `f` at the table a path leads to, creating the tables that are missing;
`intoArrays` lets the path enter the last table of an array. Refused when something else is in
the way. -/
def updateNest (intoArrays : Bool) (f : Entries → Option (Entries)) :
    List String → Entries → Option (Entries)
  | [], es => f es
  | k :: ks, es =>
    match valueAt? es k with
    | none => (updateNest intoArrays f ks []).map fun inner => putEntry k (.table inner) es
    | some (.table inner) => (updateNest intoArrays f ks inner).map fun inner => putEntry k (.table inner) es
    | some (.array items) =>
      if intoArrays then
        (updateLastTable (updateNest intoArrays f ks) items).map fun items => putEntry k (.array items) es
      else none
    | some _ => none

/-- The table a path leads to, after writing a value at a new key in it; refused when the key
is already there or the path is blocked. -/
def writeAt (intoArrays : Bool) (path : List String) (key : String) (v : Settings.Value)
    (es : Entries) : Option (Entries) :=
  updateNest intoArrays (fun t => if (valueAt? t key).isSome then none else some (t ++ [(key, v)])) path es

/-- The document after a new table is appended to the array of tables at a path, creating the
array when missing; refused when something other than an array of tables is there. -/
def appendTable (path : List String) (key : String) (es : Entries) :
    Option (Entries) :=
  updateNest true (fun t =>
    match valueAt? t key with
    | none => some (t ++ [(key, .array [.table []])])
    | some (.array items) => some (putEntry key (.array (items ++ [.table []])) t)
    | some _ => none) path es

end FlowSelect.Toml
