import Shorthand.Text.Basic
import Shorthand.Text.Ranges
import Shorthand.Text.Blank
import Shorthand.Text.WordRanges
import Shorthand.Text.Word
import Shorthand.Text.PrintableRanges
import Shorthand.Text.Literal
import Shorthand.Text.CaseRanges
import Shorthand.Text.Lowercase
import Shorthand.Number.Decimal
import Shorthand.Text.Digit
import Shorthand.Number.Numeral
import Shorthand.Number.Binary64
import Shorthand.Number.Shortest
import Shorthand.Number.Layout
import Shorthand.Value
import Shorthand.Marker
import Shorthand.Fault
import Shorthand.Name
import Shorthand.Decoration
import Shorthand.Attributes.Basic
import Shorthand.Attributes.Contributions
import Shorthand.Attributes.Override
import Shorthand.Markup.Escape
import Shorthand.Markup.Policy
import Shorthand.Markup.Element
import Shorthand.Markup.Fields
import Shorthand.Segment.Basic
import Shorthand.Segment.Bracket
import Shorthand.Segment.Piece
import Shorthand.Segment.Reader
import Shorthand.Segment.Writer
import Shorthand.Path.Cut
import Shorthand.Path.Basic
import Shorthand.Path.Markup
import Shorthand.Template.Forest
import Shorthand.Template.Reader
import Shorthand.Template.Fill
import Shorthand.Template.Supply
import Shorthand.Proofs.Text.Stretch
import Shorthand.Proofs.Outcome
import Shorthand.Proofs.Outline
import Shorthand.Proofs.Template.Grammar
import Shorthand.Proofs.Template.Reading
import Shorthand.Proofs.Template.Unambiguity
import Shorthand.Proofs.Template.Demand
import Shorthand.Proofs.Template.Holes
import Shorthand.Proofs.Template.Preset
import Shorthand.Proofs.Template.Place
import Shorthand.Proofs.Template.Inscription
import Shorthand.Proofs.Path.Parts
import Shorthand.Proofs.Path.Reading
import Shorthand.Proofs.Segment.Reading
import Shorthand.Proofs.Dialects.Segment
import Shorthand.Proofs.Dialects.Chain
import Shorthand.Proofs.Dialects.Agreement
import Shorthand.Proofs.Segment.Language
import Shorthand.Proofs.Path.Cutting
import Shorthand.Proofs.Path.Expansion
import Shorthand.Proofs.Path.Composition
import Shorthand.Proofs.Path.Language
import Shorthand.Proofs.Path.EmptyGroups
import Shorthand.Proofs.Markup.Names
import Shorthand.Proofs.Markup.Scan
import Shorthand.Proofs.Path.Elements
import Shorthand.Proofs.Template.Elements
import Shorthand.Proofs.Markup.WellFormed
import Shorthand.Proofs.Attributes.Collected
import Shorthand.Proofs.Segment.RoundTrip
import Shorthand.Proofs.Attributes.Override
import Shorthand.Proofs.Path.Overrides
import Shorthand.Proofs.Markup.Order
import Shorthand.Proofs.Attributes.Padding
import Shorthand.Proofs.Template.Exchange
import Shorthand.Proofs.Template.Deletion
import Shorthand.Proofs.Template.NullArguments
import Shorthand.Proofs.Template.BlankRuns
import Shorthand.Proofs.Path.Replacement
import Shorthand.Proofs.Segment.BlankRuns
import Shorthand.Proofs.Dialects.BlankRuns
import Shorthand.Proofs.Markup.Gaps
import Shorthand.Proofs.Path.Copies
import Shorthand.Proofs.Template.Positions
import Shorthand.Proofs.Template.Contents
import Shorthand.Proofs.Text.Places
import Shorthand.Proofs.Segment.Faults
import Shorthand.Proofs.Path.Faults
import Shorthand.Proofs.Template.Parentheses
import Shorthand.Proofs.Template.Faults
import Shorthand.Proofs.Attributes.Runs
import Shorthand.Proofs.Markup.Decoding
import Shorthand.Proofs.Template.Composition
import Shorthand.Proofs.Segment.Rewriting
import Shorthand.Proofs.Template.Coverage
import Shorthand.Proofs.Template.Session
import Shorthand.Proofs.Segment.Layout
import Shorthand.Proofs.Segment.Spaces
import Shorthand.Proofs.Segment.StandAlone
import Shorthand.Proofs.Template.Caret
import Shorthand.Proofs.Path.Partition
