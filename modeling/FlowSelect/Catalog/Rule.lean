import FlowSelect.Address.Selector
import FlowSelect.Catalog.Definition
import FlowSelect.ObjectName
import FlowSelect.Registry.Protocol
import FlowSelect.Registry.Service
import FlowSelect.Text.Case
/-! Rules for typed values: what each kind of filter accepts, and the value it keeps.

A rule either accepts a typed value, giving the value to keep, or refuses it with a reason.
Most rules keep the value as typed. Three normalize it: an empty object name becomes `""`, the
empty-field pattern; a protocol name becomes its registered spelling; and the kind of a resource
path gets its first character in upper case and the rest in lower case. Reasons are causes;
their texts pass through the definition's glossary when they are shown. -/
namespace FlowSelect

/-- Why a typed value was refused. -/
inductive Rejection where
  | empty
  | notObjectName
  | notAddress
  | unknownPort
  | unknownProtocol
  | incompleteResource
  | emptyKind
  | badNamespace
  | badName
  deriving DecidableEq, Repr

/-- The reason for a refusal, in the library's own words. -/
def Rejection.text : Rejection → String
  | .empty => "Value is empty"
  | .notObjectName => "Not a valid Kubernetes name"
  | .notAddress => "Not a valid IPv4 or IPv6, nor a CIDR, nor an IP range separated by hyphen"
  | .unknownPort => "Unknown port"
  | .unknownProtocol => "Unknown protocol"
  | .incompleteResource => "Incomplete resource name, either kind, namespace or name is missing."
  | .emptyKind => "Kind is empty"
  | .badNamespace => "Namespace: not a valid Kubernetes name"
  | .badName => "Name: not a valid Kubernetes name"

/-- What a rule says of a typed value. -/
inductive Verdict where
  /-- Accepted; `value` is what is kept. -/
  | valid (value : String)
  /-- Refused, for this reason. -/
  | invalid (why : Rejection)
  deriving DecidableEq, Repr

/-- A text with its first character in upper case and the rest in lower case. -/
def capitalize (s : String) : String :=
  match s.toList with
  | [] => ""
  | c :: cs => String.ofList (Text.upperChar c ++ Text.lowerChars cs)

/-- What the resource rule says of a typed path: it must be complete, with a kind, a valid
namespace or none, and a valid name. -/
def checkResource (text : String) : Verdict :=
  let p := ResourcePath.ofText text
  if p.stage != .complete then .invalid .incompleteResource
  else if p.kind.isEmpty then .invalid .emptyKind
  else if !p.ns.isEmpty && !ObjectName.isValid p.ns then .invalid .badNamespace
  else if !ObjectName.isValid p.name then .invalid .badName
  else .valid { p with kind := capitalize p.kind }.render

/-- What a rule says of a typed value. -/
def Rule.check : Rule → String → Verdict
  | .nonEmpty, v => if v.isEmpty then .invalid .empty else .valid v
  | .objectName, v =>
    if v.isEmpty then .valid ObjectName.exactEmpty
    else if v == ObjectName.exactEmpty || ObjectName.isValid v then .valid v
    else .invalid .notObjectName
  | .resource, v => checkResource v
  | .address, v =>
    if v.isEmpty then .invalid .empty
    else if Address.isSelector v then .valid v
    else .invalid .notAddress
  | .port, v =>
    if v.isEmpty then .invalid .empty
    else if Text.Numeral.isDigits v || (Service.port? v).isSome then .valid v
    else .invalid .unknownPort
  | .protocol, v =>
    if v.isEmpty then .invalid .empty
    else if Text.Numeral.isDigits v then .valid v
    else match Protocol.find? v with
      | some o => .valid o.name
      | none => .invalid .unknownProtocol

/-- What a definition's rule says of a typed value. -/
def Definition.validate (d : Definition) (v : String) : Verdict := d.rule.check v

/-- The reason for a refusal in the definition's glossary. -/
def Definition.explain (d : Definition) (why : Rejection) : String := d.glossary.say why.text

end FlowSelect
