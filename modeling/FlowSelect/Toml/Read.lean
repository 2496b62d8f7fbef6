import FlowSelect.Toml.Tree
/-! Reading a TOML document: values, statements and the document they build.

A value is tried in a fixed order: a string, `true` or `false`, an array, an inline table, a
date (with an optional time and offset), a time of day, and last a number. Arrays may spread
over lines and hold comments and a trailing comma; inline tables stay on one line, take no
trailing comma, and freeze each array or table value that a comma follows, so a later dotted
key of the same inline table cannot reach into it.

A document is a sequence of statements, one per line: a key/value pair, a table header
`[key]`, an array-of-tables header `[[key]]`, or nothing; each may end with a comment. Pairs
write below the last header. Before anything is read, each carriage return followed by a
newline becomes a newline.

Nesting and repetition are bounded by fuel; every step of a bounded loop reads at least one
character, so fuel one above the length of the text is never exhausted. -/
namespace FlowSelect.Toml

/-- The value a number stands for. -/
def Number.value : Number → Settings.Value
  | .integer n => .integer n
  | .decimal w => .decimal w

/-- The key a dotted key writes into, and the last part it writes; `none` for an empty key,
which a key reader never gives. -/
def splitKey (key : List String) : Option (List String × String) :=
  key.getLast?.map fun stem => (key.dropLast, stem)

/-- The frozen marks of an inline table after a pair is written into it; refused when the
key is frozen or its table cannot be reached without entering an array. -/
def inlineWrite (marks : Guard) (entries : Entries) (key : List String)
    (v : Settings.Value) : Except Failure (Entries) :=
  match splitKey key with
  | none => .error .malformed
  | some (parent, stem) =>
    if marks.has .frozen key then .error .malformed
    else match writeAt false parent stem v entries with
      | some entries => .ok entries
      | none => .error .malformed

mutual

/-- A value, from its first character. -/
def readValue : Nat → Reader Settings.Value
  | 0, _ => .error .malformed
  | fuel + 1, cs =>
    match cs with
    | '"' :: _ => do
      let (s, after) ← readString (cs.length + 1) cs
      pure (.text s, after)
    | '\'' :: _ => do
      let (s, after) ← readString (cs.length + 1) cs
      pure (.text s, after)
    | 't' :: 'r' :: 'u' :: 'e' :: after => .ok (.bool true, after)
    | 'f' :: 'a' :: 'l' :: 's' :: 'e' :: after => .ok (.bool false, after)
    | '[' :: rest => do
      let rest ← skipArrayGap false rest
      match rest with
      | ']' :: after => .ok (.array [], after)
      | _ => do
        let (items, after) ← readItems fuel [] rest
        pure (.array items, after)
    | '{' :: rest =>
      match skipBlanks rest with
      | '}' :: after => .ok (.table [], after)
      | rest => do
        let (entries, after) ← readPairs fuel Guard.empty [] rest
        pure (.table entries, after)
    | _ =>
      match readDate cs with
      | some r => r
      | none =>
        match readTime cs with
        | some r => .ok r
        | none =>
          match readNumber cs with
          | some r => r.map fun (n, after) => (n.value, after)
          | none => .error .malformed

/-- The items of an array after its opening bracket and the gap after it, with the items read
so far in reverse. -/
def readItems : Nat → List Settings.Value → Reader (List Settings.Value)
  | 0, _, _ => .error .malformed
  | fuel + 1, acc, cs => do
    let (v, after) ← readValue fuel cs
    let after ← skipArrayGap false after
    match after with
    | ']' :: rest => .ok ((v :: acc).reverse, rest)
    | ',' :: rest =>
      let rest ← skipArrayGap false rest
      match rest with
      | ']' :: rest => .ok ((v :: acc).reverse, rest)
      | _ => readItems fuel (v :: acc) rest
    | _ => .error .malformed

/-- The pairs of an inline table after its opening brace, with its marks and the entries read
so far. -/
def readPairs : Nat → Guard → Entries → Reader (Entries)
  | 0, _, _, _ => .error .malformed
  | fuel + 1, marks, entries, cs => do
    let ((key, v), after) ← readPair fuel cs
    let entries ← inlineWrite marks entries key v
    match skipBlanks after with
    | '}' :: rest => .ok (entries, rest)
    | ',' :: rest =>
      let marks := if v.isContainer then marks.set .frozen true key else marks
      readPairs fuel marks entries (skipBlanks rest)
    | _ => .error .malformed

/-- A key, an equals sign and a value. -/
def readPair : Nat → Reader (List String × Settings.Value)
  | 0, _ => .error .malformed
  | fuel + 1, cs => do
    let (key, after) ← readKey cs
    match after with
    | '=' :: rest => do
      let (v, after) ← readValue fuel (skipBlanks rest)
      pure ((key, v), after)
    | _ => .error .malformed

end

/-! ### Statements -/

/-- A document being read: its marks, its entries and the key of the last header. -/
structure Sheet where
  /-- The marks of the document. -/
  guard : Guard
  /-- The entries of the document. -/
  entries : Entries
  /-- The key the last header opened; pairs write below it. -/
  header : List String

/-- The sheet of an empty document. -/
def Sheet.empty : Sheet := ⟨Guard.empty, [], []⟩

/-- The keys of the tables a dotted key passes through, below a header. -/
def passedTables (header key : List String) : List (List String) :=
  (List.range (key.length - 1)).map fun i => header ++ key.take (i + 1)

/-- The sheet after a key/value pair. The tables the key passes through must not have been
opened by a header, and are marked explicit at the next header; the table it writes into must
not be frozen, must be reachable, and must not hold the key yet. An array or table written here
is frozen. -/
def Sheet.pair (d : Sheet) (key : List String) (v : Settings.Value) : Except Failure Sheet :=
  match splitKey key with
  | none => .error .malformed
  | some (parent, stem) =>
    let passed := passedTables d.header key
    if passed.any (d.guard.has .explicit) then .error .malformed
    else
      let guard : Guard := { d.guard with pending := d.guard.pending ++ passed }
      if guard.has .frozen (d.header ++ parent) then .error .malformed
      else match writeAt true (d.header ++ parent) stem v d.entries with
        | none => .error .malformed
        | some entries =>
          let guard := if v.isContainer then guard.set .frozen true (d.header ++ key) else guard
          .ok ⟨guard, entries, d.header⟩

/-- The sheet after a table header. The table must not have been opened by a header or written
inline; it is created when missing. -/
def Sheet.openTable (d : Sheet) (key : List String) : Except Failure Sheet :=
  if d.guard.has .explicit key || d.guard.has .frozen key then .error .malformed
  else match updateNest true some key d.entries with
    | none => .error .malformed
    | some entries => .ok ⟨d.guard.set .explicit false key, entries, key⟩

/-- The sheet after an array-of-tables header. The array must not have been written inline; a
new table is appended to it, and the marks under it are cleared. -/
def Sheet.appendTable (d : Sheet) (key : List String) : Except Failure Sheet :=
  match splitKey key with
  | none => .error .malformed
  | some (parent, stem) =>
    if d.guard.has .frozen key then .error .malformed
    else
      let guard : Guard := { d.guard with marks := Marks.clearAt key d.guard.marks }
      match Toml.appendTable parent stem d.entries with
      | none => .error .malformed
      | some entries => .ok ⟨guard.set .explicit false key, entries, key⟩

/-- Whether a character starts a key. -/
def isKeyStart (c : Char) : Bool := isBareKeyChar c || c == '"' || c == '\''

/-- One statement, from its first character after the blanks before it, up to the comment or
end of line after it. -/
def readStatement (d : Sheet) : List Char → Except Failure (Sheet × List Char)
  | '[' :: '[' :: rest => do
    let d := { d with guard := d.guard.settle }
    let (key, after) ← readKey (skipBlanks rest)
    let d ← d.appendTable key
    match after with
    | ']' :: ']' :: after => .ok (d, skipBlanks after)
    | _ => .error .malformed
  | '[' :: rest => do
    let d := { d with guard := d.guard.settle }
    let (key, after) ← readKey (skipBlanks rest)
    let d ← d.openTable key
    match after with
    | ']' :: after => .ok (d, skipBlanks after)
    | _ => .error .malformed
  | '#' :: rest => .ok (d, '#' :: rest)
  | c :: rest =>
    if isKeyStart c then do
      let ((key, v), after) ← readPair (rest.length + 2) (c :: rest)
      let d ← d.pair key v
      pure (d, skipBlanks after)
    else .error .malformed
  | [] => .ok (d, [])

/-- The statements of a document, one line each. -/
def readStatements : Nat → Sheet → List Char → Except Failure Sheet
  | 0, _, _ => .error .malformed
  | fuel + 1, d, cs =>
    match skipBlanks cs with
    | [] => .ok d
    | '\n' :: rest => readStatements fuel d rest
    | line => do
      let (d, after) ← readStatement d line
      match ← skipComment after with
      | [] => .ok d
      | '\n' :: rest => readStatements fuel d rest
      | _ => .error .malformed

/-- The characters with each carriage return that precedes a newline removed. -/
def joinLineEnds : List Char → List Char
  | '\r' :: '\n' :: rest => '\n' :: joinLineEnds rest
  | c :: rest => c :: joinLineEnds rest
  | [] => []

/-- The table a TOML document describes. -/
def read (text : String) : Except Failure Settings.Value :=
  let cs := joinLineEnds text.toList
  (readStatements (cs.length + 1) Sheet.empty cs).map fun d => .table d.entries

end FlowSelect.Toml
