import FlowSelect.Catalog.Basic
/-! The flow catalog: the nineteen definitions flows can be filtered on.

Six properties exist on both sides of a flow: namespace, name, kind, resource, address and
port. Each yields three definitions through `peers`: `src_X` maps onto the source fields,
`dst_X` onto the destination fields, and `X` onto either side, so it is split when compiled.
The protocol, a property of the whole flow, comes last. Every text a user reads passes through
the glossary, and every lookup keeps at most `limit` suggestions. -/
namespace FlowSelect

/-- The source, destination and common definitions derived from one base definition. -/
def peers (base : Definition) (source destination : Mapping) : List Definition :=
  [{ base with id := "src_" ++ base.id, category := .source, matching := .always source },
   { base with id := "dst_" ++ base.id, category := .destination, matching := .always destination },
   { base with category := .common, matching := .split source destination }]

namespace Catalog

variable (g : Glossary)

/-- Help for every object-name field. -/
def nameHint : String := g.say "Specify a single kubernetes name."

/-- The accepted forms of an object name, one per line. -/
def nameExamples : String :=
  "\n".intercalate
    [g.say "Specify a single kubernetes name following these rules:",
     "- " ++ g.say "Containing any alphanumeric, hyphen, underscrore or dot character",
     "- " ++ g.say "Partial text like cluster, cluster-image, image-registry",
     "- " ++ g.say "Exact match using quotes like \"cluster-image-registry\"",
     "- " ++ g.say "Case sensitive match using quotes like \"Deployment\"",
     "- " ++ g.say "Starting text like cluster, \"cluster-*\"",
     "- " ++ g.say "Ending text like \"*-registry\"",
     "- " ++ g.say "Pattern like \"cluster-*-registry\", \"c*-*-r*y\", -i*e-"]

/-- The accepted forms of a resource path, one per line. -/
def resourceExamples : String :=
  "\n".intercalate
    [g.say "Specify a kind, namespace and name from existing:",
     "- " ++ g.say "Select kind first from suggestions",
     "- " ++ g.say "Then Select namespace from suggestions",
     "- " ++ g.say "Finally select name from suggestions",
     g.say "You can also directly specify a kind, namespace and name like pod.openshift.apiserver"]

/-- The accepted forms of an address, one per line. -/
def addressExamples : String :=
  "\n".intercalate
    [g.say "Specify addresses following one of these rules:",
     "- " ++ g.say "A single IPv4 or IPv6 address like 192.0.2.0, ::1",
     "- " ++ g.say
        "A range within the IP address like 192.168.0.1-192.189.10.12, 2001:db8::1-2001:db8::8",
     "- " ++ g.say "A CIDR specification like 192.51.100.0/24, 2001:db8::/32"]

/-- The accepted forms of a port, one per line. -/
def portExamples : String :=
  "\n".intercalate
    [g.say "Specify a single port following one of these rules:",
     "- " ++ g.say "A port number like 80, 21",
     "- " ++ g.say "A IANA name like HTTP, FTP"]

/-- The accepted forms of a protocol, one per line. -/
def protocolExamples : String :=
  "\n".intercalate
    [g.say "Specify a single protocol following one of these rules:",
     "- " ++ g.say "A protocol number like 6, 17",
     "- " ++ g.say "A IANA name like TCP, UDP"]

/-- A base definition, before `peers` gives it its sides. -/
def base (limit : Int) (id name : String) (component : Component) (rule : Rule)
    (lookup : Lookup) (hint examples : Option String) (staged : Bool) : Definition :=
  { id, name := g.say name, component, category := .common, matching := .always (.field ""),
    rule, lookup, limit, staged, hint, examples, glossary := g }

/-- The definitions of the flow catalog, in order. -/
def standardDefinitions (limit : Int) : List Definition :=
  peers (base g limit "namespace" "Namespace" .autocomplete .objectName .namespaces
      (nameHint g) (nameExamples g) false)
    (.field "SrcK8S_Namespace") (.field "DstK8S_Namespace") ++
  peers (base g limit "name" "Name" .text .objectName .nothing (nameHint g) (nameExamples g) false)
    (.field "SrcK8S_Name") (.field "DstK8S_Name") ++
  peers (base g limit "kind" "Kind" .autocomplete .nonEmpty .kinds none none false)
    (.field "SrcK8S_Type") (.field "DstK8S_Type") ++
  peers (base g limit "resource" "Resource" .autocomplete .resource .resources
      (g.say "Specify an existing resource from its kind, namespace and name.")
      (resourceExamples g) true)
    (.resource "SrcK8S_Type" "SrcK8S_Namespace" "SrcK8S_Name")
    (.resource "DstK8S_Type" "DstK8S_Namespace" "DstK8S_Name") ++
  peers (base g limit "address" "Address" .text .address .nothing
      (g.say "Specify a single address or range.") (addressExamples g) false)
    (.field "SrcAddr") (.field "DstAddr") ++
  peers (base g limit "port" "Port" .autocomplete .port .ports
      (g.say "Specify a single port number or name.") (portExamples g) false)
    (.field "SrcPort") (.field "DstPort") ++
  [{ base g limit "protocol" "Protocol" .autocomplete .protocol .protocols
      (g.say "Specify a single protocol number or name.") (protocolExamples g) false with
     category := .unsided, matching := .always (.field "Proto") }]

/-- The ids of the flow catalog, in order. -/
def standardIds : List String :=
  ["src_namespace", "dst_namespace", "namespace", "src_name", "dst_name", "name", "src_kind",
    "dst_kind", "kind", "src_resource", "dst_resource", "resource", "src_address", "dst_address",
    "address", "src_port", "dst_port", "port", "protocol"]

theorem ids_standardDefinitions (limit : Int) :
    (standardDefinitions g limit).map Definition.id = standardIds := by
  simp only [standardDefinitions, peers, List.map_append, List.map_cons, List.map_nil, base]
  rfl

/-- The flow catalog, its texts in a glossary's words, each lookup keeping `limit`
suggestions. -/
def standard (limit : Int) : Catalog :=
  ⟨standardDefinitions g limit, by rw [ids_standardDefinitions]; decide⟩

end Catalog

/-- How many suggestions a lookup keeps unless told otherwise. -/
def defaultLimit : Int := 10

end FlowSelect
