import FlowSelect.Catalog.Basic
import FlowSelect.Filter.Basic
import FlowSelect.Text.Percent
/-! Filters in page links.

In a link, filters are written `id=v1,v2`, joined by `;`, with `!` right after the id of a
negated filter; the whole is percent-encoded. Only the texts of values are written: labels are
sought again when the link is read. Reading percent-decodes the text and cuts it at `;`; an
entry without exactly one `=`, or whose id the catalog does not know, is skipped, so that old
links keep working. A key may also mark negation with a leading `!`. -/
namespace FlowSelect

/-- One filter as written in a link, before encoding. -/
def Filter.linkEntry (f : Filter) : String :=
  f.id ++ (if f.negated then "!" else "") ++ "=" ++ Text.joinWith "," f.texts

/-- The link text of filters. -/
def linkText (fs : List Filter) : String :=
  Text.Percent.encode (Text.joinWith ";" (fs.map Filter.linkEntry))

/-- The id and negation of a link key: a trailing `!`, else a leading `!`, marks negation. -/
def readLinkKey (key : String) : String × Bool :=
  match key.toList.reverse with
  | '!' :: rest => (String.ofList rest.reverse, true)
  | _ =>
    match key.toList with
    | '!' :: rest => (String.ofList rest, true)
    | _ => (key, false)

/-- The definition, negation and value texts of one entry, if the catalog knows it. -/
def readLinkEntry (c : Catalog) (entry : String) : Option (Definition × Bool × List String) :=
  match Text.pieces entry '=' with
  | [key, values] =>
    let (id, negated) := readLinkKey key
    (c.find? id).map fun d => (d, negated, Text.pieces values ',')
  | _ => none

/-- The entries of a link that the catalog reads, in order. -/
def readLinkEntries (c : Catalog) (text : String) : List (Definition × Bool × List String) :=
  if text.isEmpty then []
  else (Text.pieces (Text.Percent.decode text) ';').filterMap (readLinkEntry c)

/-- The filters of a link, each value labelled through its definition's suggestions. -/
def filtersOfLink (c : Catalog) (s : Store) (text : String) : Except Fault (List Filter) :=
  (readLinkEntries c text).mapM fun (d, negated, texts) => do
    let values ← texts.mapM (d.resolveValue s)
    pure ⟨d, values, negated⟩

end FlowSelect
