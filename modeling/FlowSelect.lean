import FlowSelect.Fault
import FlowSelect.Text.Blank
import FlowSelect.Text.Case
import FlowSelect.Text.DecimalDigit
import FlowSelect.Text.Numeral
import FlowSelect.Text.Basic
import FlowSelect.Suggestion
import FlowSelect.Registry.Protocol
import FlowSelect.Registry.Service
import FlowSelect.ResourcePath
import FlowSelect.ObjectName
import FlowSelect.Address.Quad
import FlowSelect.Address.Hextet
import FlowSelect.Address.Selector
import FlowSelect.OrderedMap
import FlowSelect.Glossary
import FlowSelect.Suggest.Store
import FlowSelect.Catalog.Definition
import FlowSelect.Catalog.Rule
import FlowSelect.Suggest.Lookup
import FlowSelect.Filter.Basic
import FlowSelect.Catalog.Basic
import FlowSelect.Catalog.Standard
import FlowSelect.Text.Utf8
import FlowSelect.Text.Percent
import FlowSelect.Fragment.Basic
import FlowSelect.Fragment.Read
import FlowSelect.Filter.Groups
import FlowSelect.Filter.Edit
import FlowSelect.Filter.Link
import FlowSelect.Filter.Load
import FlowSelect.Page
import FlowSelect.Request
import FlowSelect.Settings.Value
import FlowSelect.Settings.Basic
import FlowSelect.Catalog.Assemble
import FlowSelect.Toml.Lexeme
import FlowSelect.Toml.Tree
import FlowSelect.Toml.Read
import FlowSelect.Settings.Load
import FlowSelect.Text.Printable
import FlowSelect.Text.Literal
import FlowSelect.Text.Double
import FlowSelect.Text.WordChar
import FlowSelect.Console.Style
import FlowSelect.Console.TagArguments
import FlowSelect.Console.Emoji
import FlowSelect.Console.CellWidth
import FlowSelect.Console.Styled
import FlowSelect.Console.Layout
import FlowSelect.Console.Markup
import FlowSelect.Console.Screen
import FlowSelect.Console.Json
import FlowSelect.Command.Similar
import FlowSelect.Command.Line
import FlowSelect.Command.Spec
import FlowSelect.Command.Run
import FlowSelect.Main
import FlowSelect.Proofs.PortOrder
import FlowSelect.Proofs.TextRoundTrip
import FlowSelect.Proofs.GroupMerge
import FlowSelect.Proofs.FragmentRoundTrip
import FlowSelect.Proofs.GroupMeaning
import FlowSelect.Proofs.CompiledFragment
import FlowSelect.Proofs.LinkRoundTrip
import FlowSelect.Proofs.EditWellFormed
import FlowSelect.Proofs.NumeralRoundTrip
import FlowSelect.Proofs.PageRoundTrip
import FlowSelect.Proofs.SettledValue
import FlowSelect.Proofs.LoadRoundTrip
import FlowSelect.Proofs.StoreHistory
import FlowSelect.Proofs.LookupFaults
import FlowSelect.Proofs.SettingsRoundTrip
import FlowSelect.Proofs.FragmentGrammar
import FlowSelect.Proofs.GroupShape
import FlowSelect.Proofs.GroupOrder
import FlowSelect.Proofs.DuplicateRefusal
import FlowSelect.Proofs.EditUndo
import FlowSelect.Proofs.IgnoredWarning
import FlowSelect.Proofs.SettingsFaults
import FlowSelect.Proofs.ResourceCompletion
import FlowSelect.Proofs.SuggestionCap
import FlowSelect.Proofs.PathText
import FlowSelect.Proofs.SeededStore
import FlowSelect.Proofs.CatalogRefusal
