import FlowSelect.OrderedMap
import FlowSelect.Text.Basic
import FlowSelect.Text.Percent
/-! Backend fragments: the filter text a flow backend reads.

A fragment is a list of alternative groups; a flow matches the fragment when it matches one
group. A group maps backend field keys to accepted values and holds when every key holds; a key
is a field name, ending in `!` when the field must hold none of the values. Adding values to a
key that is already there appends them, duplicates kept.

Written out, groups are separated by `|`, the keys of a group by `&`, and a key is followed by
`=` and its values separated by `,`. So a negated key reads `field!=v`. The text is then
percent-encoded as a whole. -/
namespace FlowSelect

/-- Backend field keys with their accepted values, in the order keys were first added. -/
abbrev Group := OrderedMap (List String)

namespace Group

/-- The group with no keys. -/
def empty : Group := OrderedMap.empty

/-- The group after appending values to a key. -/
def add (g : Group) (key : String) (values : List String) : Group :=
  g.insert key ((g.get? key).getD [] ++ values)

/-- The key of a backend field: the field name, with `!` after it when negated. -/
def fieldKey (field : String) (negated : Bool) : String :=
  if negated then field ++ "!" else field

/-- One key with its values, as written: `key=v1,v2`. -/
def renderEntry (e : String × List String) : String :=
  e.1 ++ "=" ++ Text.joinWith "," e.2

/-- A group as written: its entries joined by `&`. -/
def render (g : Group) : String :=
  Text.joinWith "&" (g.entries.map renderEntry)

end Group

/-- Groups as written, before percent encoding: joined by `|`. -/
def renderGroups (gs : List Group) : String :=
  Text.joinWith "|" (gs.map Group.render)

/-- Groups as the backend receives them: written and percent-encoded. -/
def encodeGroups (gs : List Group) : String :=
  Text.Percent.encode (renderGroups gs)

end FlowSelect
