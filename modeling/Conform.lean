import Conform.Batch
import Conform.Calendar.Moment
import Conform.Calendar.Text
import Conform.Cli.DotEnv
import Conform.Cli.Flags
import Conform.Cli.Run
import Conform.DataType.Basic
import Conform.DataType.JsonSchema
import Conform.DataType.Rules
import Conform.DataType.Validate
import Conform.Failures
import Conform.Input.Form
import Conform.Input.Json
import Conform.Input.MediaType
import Conform.Input.Multipart
import Conform.Input.Request
import Conform.Json.Reader
import Conform.Json.Value
import Conform.Json.Writer
import Conform.Kind
import Conform.Main
import Conform.Number.Binary
import Conform.Number.Decimal
import Conform.Number.Integer
import Conform.Number.Layout
import Conform.Number.Reading
import Conform.Number.Shortest
import Conform.Proofs.BatchInOrder
import Conform.Proofs.BatchOutcome
import Conform.Proofs.CalendarOrder
import Conform.Proofs.CheckerOutcome
import Conform.Proofs.CircularReferences
import Conform.Proofs.DateBounds
import Conform.Proofs.DecimalPlaces
import Conform.Proofs.DecimalReading
import Conform.Proofs.ExactWholeNumbers
import Conform.Proofs.FailureTree
import Conform.Proofs.FailuresJson
import Conform.Proofs.FieldSources
import Conform.Proofs.FlatForm
import Conform.Proofs.FloatOrder
import Conform.Proofs.FloatRounding
import Conform.Proofs.JsonText
import Conform.Proofs.MalformedBounds
import Conform.Proofs.ReferenceChains
import Conform.Proofs.RegisteredRules
import Conform.Proofs.SizeLimits
import Conform.Proofs.TrailingData
import Conform.Proofs.WidthChecks
import Conform.Rule
import Conform.Rule.Catalogue
import Conform.Schema.Declaration
import Conform.Schema.Load
import Conform.Text.Email
import Conform.Text.Fold
import Conform.Text.Letters
import Conform.Text.Printable
import Conform.Text.Quoted
import Conform.Text.Space
import Conform.Text.Url
import Conform.Text.Utf8
import Conform.Text.Uuid
import Conform.Value
import Conform.Value.Numeric
import Conform.Yaml.Decode
import Conform.Yaml.Node
import Conform.Yaml.Parser
import Conform.Yaml.Resolve
import Conform.Yaml.Scanner.Basic
import Conform.Yaml.Scanner.Fetch
import Conform.Yaml.Scanner.Scalar
import Conform.Yaml.Token
