import DatabaseTypes.Main
import DatabaseTypes.Proofs.Outline
import DatabaseTypes.Proofs.Named
import DatabaseTypes.Proofs.Commented
import DatabaseTypes.Proofs.Commented.Page
import DatabaseTypes.Proofs.Scan.Page
import DatabaseTypes.Proofs.Determined
import DatabaseTypes.Proofs.Determined.Page
import DatabaseTypes.Proofs.Reference
import DatabaseTypes.Proofs.Sorted
import DatabaseTypes.Proofs.Shuffled
import DatabaseTypes.Proofs.Unnamed
import DatabaseTypes.Proofs.Uncommented
import DatabaseTypes.Proofs.Tokens
import DatabaseTypes.Proofs.Tokens.Page
import DatabaseTypes.Proofs.Action
import DatabaseTypes.Proofs.Files
import DatabaseTypes.Proofs.Session
import DatabaseTypes.Proofs.Drawn
import DatabaseTypes.Proofs.Drawn.Schema
import DatabaseTypes.Proofs.Drawn.Page
import DatabaseTypes.Proofs.Sections
import DatabaseTypes.Proofs.Run
import DatabaseTypes.Proofs.Run.Written
import DatabaseTypes.Proofs.Answer
import DatabaseTypes.Proofs.Path
import DatabaseTypes.Proofs.Settings
import DatabaseTypes.Proofs.Settings.Precedence
import DatabaseTypes.Proofs.Agreement
import DatabaseTypes.Proofs.Yaml.Faults
import DatabaseTypes.Proofs.Settings.Reported
import DatabaseTypes.Proofs.Settings.Mixed
import DatabaseTypes.Proofs.Settings.Again
import DatabaseTypes.Proofs.Misshapen
import DatabaseTypes.Proofs.Run.Faults
import DatabaseTypes.Proofs.Command
import DatabaseTypes.Proofs.Command.Reported
import DatabaseTypes.Proofs.Command.Exit
import DatabaseTypes.Proofs.Json.Literal
import DatabaseTypes.Proofs.Json.Number
import DatabaseTypes.Proofs.Json.Value
import DatabaseTypes.Proofs.Serving
import DatabaseTypes.Proofs.Without
import DatabaseTypes.Proofs.Aligned
import DatabaseTypes.Proofs.Keys
import DatabaseTypes.Proofs.Reference.Literal
import DatabaseTypes.Proofs.Keys.Token
import DatabaseTypes.Proofs.Comment
import DatabaseTypes.Proofs.Arranged
import DatabaseTypes.Proofs.ForeignKeys
import DatabaseTypes.Proofs.Alphabetical
import DatabaseTypes.Proofs.Ties
import DatabaseTypes.Proofs.Lines
import DatabaseTypes.Proofs.Documentation
import DatabaseTypes.Proofs.Style
import DatabaseTypes.Proofs.Style.Laid
import DatabaseTypes.Proofs.Style.Page
import DatabaseTypes.Proofs.Formatting
import DatabaseTypes.Proofs.Destination
import DatabaseTypes.Proofs.Rounding.Order
import DatabaseTypes.Proofs.Duration
import DatabaseTypes.Proofs.Json.Overriding
