import CommandTree.Text.Blank
import CommandTree.Text.Digit
import CommandTree.Text.Quoted
import CommandTree.Numeral.Decimal
import CommandTree.Numeral.Shortest
import CommandTree.Value
import CommandTree.Context.Reading
import CommandTree.Context.Call
import CommandTree.Line
import CommandTree.Permission
import CommandTree.Declaration
import CommandTree.Settings
import CommandTree.Service
import CommandTree.Table.Load
import CommandTree.Yaml.Document
import CommandTree.Proofs.Ordered
import CommandTree.Proofs.Walk
import CommandTree.Proofs.Staging
import CommandTree.Proofs.Registering
import CommandTree.Proofs.Collisions
import CommandTree.Proofs.Mirror
import CommandTree.Proofs.Bounds
import CommandTree.Proofs.Declaration
import CommandTree.Proofs.Host
import CommandTree.Proofs.Questions
import CommandTree.Proofs.Arguments
import CommandTree.Proofs.Descent
import CommandTree.Proofs.Resolution
import CommandTree.Proofs.Execution
import CommandTree.Proofs.Segments
import CommandTree.Proofs.Quoting
import CommandTree.Proofs.Lines
import CommandTree.Proofs.Naming
import CommandTree.Proofs.Calling
import CommandTree.Proofs.Matching
import CommandTree.Proofs.Noninterference
import CommandTree.Proofs.Committing
import CommandTree.Proofs.Consistency
import CommandTree.Proofs.Incremental
import CommandTree.Proofs.Commuting
import CommandTree.Proofs.Privilege
import CommandTree.Proofs.RootViews
import CommandTree.Proofs.Casing
import CommandTree.Proofs.Takeovers
import CommandTree.Proofs.Suggestions
import CommandTree.Proofs.Precedence
import CommandTree.Proofs.Frame
import CommandTree.Proofs.Nesting
import CommandTree.Proofs.Serving
import CommandTree.Proofs.Alphabet
import CommandTree.Proofs.Tables
import CommandTree.Proofs.Terms
import CommandTree.Proofs.Building
import CommandTree.Proofs.Loading
import CommandTree.Proofs.Permissions
import CommandTree.Proofs.Escapes
import CommandTree.Proofs.Paths
import CommandTree.Proofs.Repeating
import CommandTree.Proofs.Forwarding
import CommandTree.Proofs.Introducers
import CommandTree.Proofs.Listing
import CommandTree.Proofs.Remembering
import CommandTree.Proofs.Asked
import CommandTree.Proofs.Declaring
import CommandTree.Proofs.Environment
import CommandTree.Proofs.Accessors
import CommandTree.Proofs.Spelling
import CommandTree.Proofs.Discovery
import CommandTree.Proofs.Capitals
import CommandTree.Proofs.Respelling
