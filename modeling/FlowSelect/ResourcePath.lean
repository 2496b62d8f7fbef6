import FlowSelect.Text.Basic
/-! Resource paths: a workload named as `kind.namespace.name`, typed one part at a time.

A path is read by cutting the text at its first two dots. Text without a dot is a kind still
being typed; text with one dot has a kind and a namespace still being typed; text with two dots
or more is complete, and every dot after the second belongs to the name. A path is written back
up to its stage, with a trailing dot after a part that is done, so the next part can be typed
right away: `Pod.`, then `Pod.ns.`, then `Pod.ns.name`. -/
namespace FlowSelect

/-- How far a resource path has been typed. -/
inductive ResourcePath.Stage where
  /-- The kind is still being typed. -/
  | typingKind
  /-- The kind is done; the namespace is still being typed. -/
  | typingNamespace
  /-- Kind, namespace and name are all there. -/
  | complete
  deriving DecidableEq, Repr

/-- A resource path split into its parts, with how far it has been typed. -/
structure ResourcePath where
  /-- The kind of the workload, such as `Pod`. -/
  kind : String
  /-- The namespace of the workload; empty while the kind is typed. -/
  ns : String
  /-- The name of the workload; empty until the path is complete. -/
  name : String
  /-- How far the path has been typed. -/
  stage : ResourcePath.Stage
  deriving DecidableEq, Repr

namespace ResourcePath

/-- The number of a stage: 0 while the kind is typed, 1 for the namespace, 2 when complete. -/
def Stage.index : Stage → Nat
  | .typingKind => 0
  | .typingNamespace => 1
  | .complete => 2

/-- The stage with a given number, if there is one. -/
def Stage.ofIndex? : Nat → Option Stage
  | 0 => some .typingKind
  | 1 => some .typingNamespace
  | 2 => some .complete
  | _ => none

/-- Reads a path from text, cutting at the first two dots. -/
def ofText (text : String) : ResourcePath :=
  match Text.cut text '.' with
  | none => ⟨text, "", "", .typingKind⟩
  | some (kind, rest) =>
    match Text.cut rest '.' with
    | none => ⟨kind, rest, "", .typingNamespace⟩
    | some (ns, name) => ⟨kind, ns, name, .complete⟩

/-- Writes a path up to its stage, with a trailing dot after a finished part. -/
def render (p : ResourcePath) : String :=
  match p.stage with
  | .typingKind => p.kind ++ "."
  | .typingNamespace => p.kind ++ "." ++ p.ns ++ "."
  | .complete => p.kind ++ "." ++ p.ns ++ "." ++ p.name

/-- The path after the part being typed is replaced by a picked text; the stage stays. -/
def pick (p : ResourcePath) (picked : String) : ResourcePath :=
  match p.stage with
  | .typingKind => { p with kind := picked }
  | .typingNamespace => { p with ns := picked }
  | .complete => { p with name := picked }

end ResourcePath

end FlowSelect
