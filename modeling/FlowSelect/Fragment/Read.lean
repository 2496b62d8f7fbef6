import FlowSelect.Fault
import FlowSelect.Fragment.Basic
import FlowSelect.Text.Blank
/-! Reading backend fragments back into groups.

The text is percent-decoded and trimmed of blanks; an empty text is no group at all. Otherwise
it must be one or more groups separated by `|`, each one or more constraints separated by `&`.
A constraint is a field name of ASCII letters, digits and `_` (at least one), then `!=` or `=`,
then one or more values separated by `,`; a value may be empty but holds none of
`, & | = !`. A `!=` constraint is filed under the field name with `!` after it, and a key that
repeats within a group gathers the values of all its constraints. Any other text is refused
with `Fault.unreadableFragment`, which carries the decoded, trimmed text. -/
namespace FlowSelect.Fragment

/-- Whether a character may appear in a field name. -/
def isFieldChar (c : Char) : Bool :=
  ('A' ≤ c && c ≤ 'Z') || ('a' ≤ c && c ≤ 'z') || ('0' ≤ c && c ≤ '9') || c == '_'

/-- Whether a character may appear in a value. -/
def isValueChar (c : Char) : Bool :=
  c != ',' && c != '&' && c != '|' && c != '=' && c != '!'

/-- The key and values of one constraint, if the characters form one. -/
def readConstraint (cs : List Char) : Option (String × List String) :=
  let field := cs.takeWhile isFieldChar
  let rest := cs.dropWhile isFieldChar
  if field.isEmpty then none
  else
    let parsed : Option (Bool × List Char) := match rest with
      | '!' :: '=' :: vs => some (true, vs)
      | '=' :: vs => some (false, vs)
      | _ => none
    parsed.bind fun (negated, vs) =>
      let values := vs.splitOn ','
      if values.all (·.all isValueChar) then
        some (Group.fieldKey (String.ofList field) negated, values.map String.ofList)
      else none

/-- The group of one `&`-separated run of constraints, if every constraint reads. -/
def readGroup (cs : List Char) : Option Group :=
  ((cs.splitOn '&').mapM readConstraint).map fun entries =>
    entries.foldl (fun g e => g.add e.1 e.2) Group.empty

/-- The groups of decoded, trimmed, non-empty text, if it is in the fragment language. -/
def readGroups (cs : List Char) : Option (List Group) :=
  (cs.splitOn '|').mapM readGroup

/-- The groups of a percent-encoded fragment, or the fault carrying its decoded text. -/
def read (encoded : String) : Except Fault (List Group) :=
  let text := Text.trim (Text.Percent.decode encoded)
  if text.isEmpty then .ok []
  else match readGroups text.toList with
    | some gs => .ok gs
    | none => .error (.unreadableFragment text)

end FlowSelect.Fragment
