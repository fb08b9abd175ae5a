import Balancer.Assembly
import Balancer.Assembly.Sections
import Balancer.Assembly.Settings
import Balancer.Command.Arguments
import Balancer.Command.Run
import Balancer.Compilation
import Balancer.Config
import Balancer.Config.Directive
import Balancer.Config.Proxy
import Balancer.Config.Server
import Balancer.Config.ServerOptions
import Balancer.Config.Strings
import Balancer.Config.Vocabulary
import Balancer.Decimal
import Balancer.Decimal.Shortest
import Balancer.Decimal.Text
import Balancer.Document
import Balancer.Document.Error
import Balancer.Document.OfHcl
import Balancer.Entry
import Balancer.Entry.Directives
import Balancer.Entry.Error
import Balancer.Entry.Evaluation
import Balancer.Entry.Fields
import Balancer.Entry.Reading
import Balancer.Entry.Servers
import Balancer.Expression.Term
import Balancer.Expression.Token
import Balancer.FileSystem
import Balancer.Hcl.Body
import Balancer.Hcl.Expression
import Balancer.Hcl.Identifier
import Balancer.Hcl.Number
import Balancer.Hcl.Reader
import Balancer.Hcl.Template
import Balancer.Hcl.Tree
import Balancer.Hcl.Written
import Balancer.Interpolation
import Balancer.Layout
import Balancer.Layout.Block
import Balancer.Layout.Directive
import Balancer.Layout.Line
import Balancer.Layout.Rule
import Balancer.Layout.Section
import Balancer.Layout.Server
import Balancer.Main
import Balancer.Normal
import Balancer.Normal.Error
import Balancer.Normal.Loops
import Balancer.Normal.Spreads
import Balancer.Normal.Variables
import Balancer.OrderedMap
import Balancer.Position
import Balancer.Report.Audit
import Balancer.Report.Condition
import Balancer.Report.Consistency
import Balancer.Report.Finding
import Balancer.Sources
import Balancer.Text.Blank
import Balancer.Text.Integer
import Balancer.Text.Search
import Balancer.Value
import Balancer.View
import Balancer.View.Config
import Balancer.View.Document
import Balancer.View.Json
import Balancer.View.Value
import Balancer.View.Yaml
import Balancer.Proofs.Agreement
import Balancer.Proofs.Substitution
import Balancer.Proofs.Grammar
import Balancer.Proofs.OrderedMap
import Balancer.Proofs.Query
import Balancer.Proofs.References
import Balancer.Proofs.Resolution
import Balancer.Proofs.Solution
import Balancer.Proofs.Consistency
import Balancer.Proofs.Contents
import Balancer.Proofs.Cycles
import Balancer.Proofs.Assembly
import Balancer.Proofs.Resolvable
import Balancer.Proofs.Normal
import Balancer.Proofs.Escaping
import Balancer.Proofs.Parameters
import Balancer.Proofs.Reordering
import Balancer.Proofs.Reading
import Balancer.Proofs.Sections
import Balancer.Proofs.Origins
import Balancer.Proofs.Relabelling
import Balancer.Proofs.Labels
import Balancer.Proofs.PlainText
import Balancer.Proofs.SpelledOut
import Balancer.Proofs.Rewriting
import Balancer.Proofs.Naming
import Balancer.Proofs.Spreading
import Balancer.Proofs.Residue
import Balancer.Proofs.FixedPoints
import Balancer.Proofs.Loading
import Balancer.Proofs.Gathering
import Balancer.Proofs.Abandoned
import Balancer.Proofs.Overriding
import Balancer.Proofs.Lines
import Balancer.Proofs.Paragraphs
import Balancer.Proofs.Auditing
import Balancer.Proofs.Positions
import Balancer.Proofs.Segments
import Balancer.Proofs.Precedence
import Balancer.Proofs.Unrolling
import Balancer.Proofs.Outline
import Balancer.Proofs.Placement
import Balancer.Proofs.Spelling
import Balancer.Proofs.Enclosing
import Balancer.Proofs.Quoting
import Balancer.Proofs.Frame
import Balancer.Proofs.ServerWords
import Balancer.Proofs.Conditions
import Balancer.Proofs.SectionOrder
import Balancer.Proofs.Numerals
import Balancer.Proofs.Ranges
import Balancer.Proofs.Merging
import Balancer.Proofs.Splitting
import Balancer.Proofs.Comparing
import Balancer.Proofs.NumeralReading
import Balancer.Proofs.NumberTexts
import Balancer.Proofs.Offsets
import Balancer.Proofs.Demand
