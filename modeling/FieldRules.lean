import FieldRules.Address.Email
import FieldRules.Address.Host
import FieldRules.Address.Ip
import FieldRules.Address.Percent
import FieldRules.Address.Punycode
import FieldRules.Address.Url
import FieldRules.Binary64.Basic
import FieldRules.Binary64.Decimal
import FieldRules.Binary64.Shortest
import FieldRules.Calendar.Clock
import FieldRules.Calendar.Date
import FieldRules.Calendar.Moment
import FieldRules.Calendar.Period
import FieldRules.Check.Address
import FieldRules.Check.Basic
import FieldRules.Check.Calendar
import FieldRules.Check.Choice
import FieldRules.Check.Comparison
import FieldRules.Check.Convert
import FieldRules.Check.Number
import FieldRules.Check.Run
import FieldRules.Check.Text
import FieldRules.Check.Upload
import FieldRules.Collaborators
import FieldRules.Engine.Clean
import FieldRules.Engine.Deferred
import FieldRules.Engine.FieldRule
import FieldRules.Engine.Policy
import FieldRules.Engine.Settings
import FieldRules.Engine.Validation
import FieldRules.Engine.Walk
import FieldRules.Failure
import FieldRules.Json.Basic
import FieldRules.Json.Parser
import FieldRules.Json.Printer
import FieldRules.Json.Skip
import FieldRules.Keyed
import FieldRules.Markup
import FieldRules.MediaType
import FieldRules.Pattern.Class
import FieldRules.Pattern.Delimited
import FieldRules.Pattern.Escape
import FieldRules.Pattern.Expr
import FieldRules.Pattern.Mode
import FieldRules.Pattern.Parser
import FieldRules.Pattern.Search
import FieldRules.Rule.Cell
import FieldRules.Rule.Nested
import FieldRules.Rule.PatternStash
import FieldRules.Rule.Synonyms
import FieldRules.Rule.Token
import FieldRules.Text.Ascii
import FieldRules.Text.Blank
import FieldRules.Text.Case
import FieldRules.Text.Pieces
import FieldRules.Text.Sorted
import FieldRules.Text.Utf8
import FieldRules.Text.Whole
import FieldRules.Unicode.Case
import FieldRules.Unicode.Letter
import FieldRules.Unicode.Mark
import FieldRules.Unicode.Named
import FieldRules.Unicode.Numeral
import FieldRules.Unicode.Property
import FieldRules.Unicode.Ranges
import FieldRules.Unicode.Sign
import FieldRules.Unicode.Word
import FieldRules.Value
import FieldRules.Proofs.Entries
import FieldRules.Proofs.Rules
import FieldRules.Proofs.Tree
import FieldRules.Proofs.Walking
import FieldRules.Proofs.Acting
import FieldRules.Proofs.Stages
import FieldRules.Proofs.Delivery
import FieldRules.Proofs.Sweep
import FieldRules.Proofs.Leaves
import FieldRules.Proofs.Evaluations
import FieldRules.Proofs.Planning
import FieldRules.Proofs.Independence
import FieldRules.Proofs.Settling
import FieldRules.Proofs.Replay
import FieldRules.Proofs.Cells
import FieldRules.Proofs.Splitting
import FieldRules.Proofs.Escapes
import FieldRules.Proofs.Outline
import FieldRules.Proofs.Reading
import FieldRules.Proofs.RoundTrip
import FieldRules.Proofs.Delimiters
import FieldRules.Proofs.ValueLists
import FieldRules.Proofs.Composition
import FieldRules.Proofs.Flaws
import FieldRules.Proofs.OneText
import FieldRules.Proofs.Denial
import FieldRules.Proofs.Modifiers
import FieldRules.Proofs.NotNull
import FieldRules.Proofs.Unset
import FieldRules.Proofs.Asking
import FieldRules.Proofs.Options
import FieldRules.Proofs.ReservedField
import FieldRules.Proofs.Shape
import FieldRules.Proofs.Uploads
import FieldRules.Proofs.Frame
import FieldRules.Proofs.Cutting
import FieldRules.Proofs.Membership
import FieldRules.Proofs.WholeArray
import FieldRules.Proofs.Stash
import FieldRules.Proofs.Literals
import FieldRules.Proofs.Scanning
import FieldRules.Proofs.CleanForm
import FieldRules.Proofs.FailurePlaces
import FieldRules.Proofs.GenuineUploads
import FieldRules.Proofs.MailDomains
import FieldRules.Proofs.Telephone
import FieldRules.Proofs.Flags
import FieldRules.Proofs.BlankValues
import FieldRules.Proofs.Documents
import FieldRules.Proofs.Nearest
import FieldRules.Proofs.Numerals
import FieldRules.Proofs.Kinds
import FieldRules.Proofs.Comparing
import FieldRules.Proofs.NumberGrammar
import FieldRules.Proofs.NumberTest
import FieldRules.Proofs.Drawing
import FieldRules.Proofs.DrawnNumbers
import FieldRules.Proofs.Dates
import FieldRules.Proofs.WrittenOrder
import FieldRules.Proofs.Times
import FieldRules.Proofs.DayNumbers
import FieldRules.Proofs.Weeks
import FieldRules.Proofs.Conversions
import FieldRules.Proofs.CharacterClasses
import FieldRules.Proofs.LengthBounds
import FieldRules.Proofs.ScalarSets
import FieldRules.Proofs.DocumentForm
import FieldRules.Proofs.Bodies
import FieldRules.Proofs.Sniffing
import FieldRules.Proofs.SmallForms
import FieldRules.Proofs.Extensions
import FieldRules.Proofs.Lifting
import FieldRules.Proofs.Range
import FieldRules.Proofs.Rounding
