import FlowSelect.OrderedMap
/-! Glossaries: the translations of the texts a user reads.

Every text the catalog shows (names, hints, examples, reasons for refusing a value) passes
through a glossary. A text the glossary does not list is shown as it is, so the empty glossary
shows every text in its own words. -/
namespace FlowSelect

/-- Translations of user-facing texts. -/
structure Glossary where
  /-- Each listed text with its translation. -/
  translations : OrderedMap String
  deriving DecidableEq, Repr

namespace Glossary

/-- The glossary that translates nothing. -/
def plain : Glossary := ⟨OrderedMap.empty⟩

/-- A text in the glossary's words: its translation if listed, else the text itself. -/
def say (g : Glossary) (text : String) : String :=
  (g.translations.get? text).getD text

end Glossary

end FlowSelect
