import Dashboards.Cause
import Dashboards.Cli
import Dashboards.Cli.Job
import Dashboards.Cli.Options
import Dashboards.Command
import Dashboards.Compile
import Dashboards.Config
import Dashboards.Decimal
import Dashboards.Failure
import Dashboards.Files
import Dashboards.Json.Check
import Dashboards.Json.Document
import Dashboards.Json.Draft
import Dashboards.Json.Path
import Dashboards.Json.Value
import Dashboards.Machine
import Dashboards.Main
import Dashboards.Params
import Dashboards.Params.Document
import Dashboards.Params.File
import Dashboards.Path
import Dashboards.Programs
import Dashboards.Proofs.Changes
import Dashboards.Proofs.Compile
import Dashboards.Proofs.CompileAll
import Dashboards.Proofs.Conclusion
import Dashboards.Proofs.ContainerDirectory
import Dashboards.Proofs.Containers
import Dashboards.Proofs.Discovery
import Dashboards.Proofs.Endpoint
import Dashboards.Proofs.Envelope
import Dashboards.Proofs.Fallback
import Dashboards.Proofs.Files.Apart
import Dashboards.Proofs.Files.Directories
import Dashboards.Proofs.Files.Inside
import Dashboards.Proofs.Files.Walk
import Dashboards.Proofs.Files.Write
import Dashboards.Proofs.Footprint
import Dashboards.Proofs.Insertions
import Dashboards.Proofs.Invocation
import Dashboards.Proofs.Isolation
import Dashboards.Proofs.Json.Cut
import Dashboards.Proofs.Json.Document
import Dashboards.Proofs.Json.Draft
import Dashboards.Proofs.Json.Printed
import Dashboards.Proofs.Json.Scalar
import Dashboards.Proofs.Json.Scan
import Dashboards.Proofs.Json.Spelling
import Dashboards.Proofs.Listing
import Dashboards.Proofs.Loading
import Dashboards.Proofs.Merging
import Dashboards.Proofs.Mount
import Dashboards.Proofs.Naming
import Dashboards.Proofs.Operand
import Dashboards.Proofs.Options
import Dashboards.Proofs.Overriding
import Dashboards.Proofs.Params
import Dashboards.Proofs.Path
import Dashboards.Proofs.Path.Below
import Dashboards.Proofs.Path.Inverse
import Dashboards.Proofs.Path.Relative
import Dashboards.Proofs.Phases
import Dashboards.Proofs.Prediction
import Dashboards.Proofs.Printing
import Dashboards.Proofs.PublishAll
import Dashboards.Proofs.Readback
import Dashboards.Proofs.Record
import Dashboards.Proofs.Rediscovery
import Dashboards.Proofs.Rerun
import Dashboards.Proofs.Resolution
import Dashboards.Proofs.Script
import Dashboards.Proofs.Stages
import Dashboards.Proofs.Success
import Dashboards.Proofs.Tandem
import Dashboards.Proofs.Templates
import Dashboards.Proofs.Text.Order
import Dashboards.Proofs.Text.Ranges
import Dashboards.Proofs.Text.Split
import Dashboards.Proofs.Text.Trim
import Dashboards.Proofs.Text.Utf8
import Dashboards.Proofs.Token
import Dashboards.Proofs.Truncation
import Dashboards.Proofs.Url.Address
import Dashboards.Proofs.Url.Authority
import Dashboards.Proofs.Url.Host
import Dashboards.Proofs.Url.Idna
import Dashboards.Proofs.Url.Idna.Plain
import Dashboards.Proofs.Url.Percent
import Dashboards.Proofs.Url.Pieces
import Dashboards.Proofs.Url.Punycode
import Dashboards.Proofs.Url.Segments
import Dashboards.Proofs.Url.Settled
import Dashboards.Proofs.Url.Web
import Dashboards.Proofs.Validation
import Dashboards.Proofs.Written
import Dashboards.Proofs.Yaml.Scalar
import Dashboards.Proofs.Yaml.Value
import Dashboards.Publish
import Dashboards.Report
import Dashboards.Run
import Dashboards.Session
import Dashboards.Session.Script
import Dashboards.Settings
import Dashboards.Shell.Builtin
import Dashboards.Shell.Condition
import Dashboards.Shell.Evaluation
import Dashboards.Shell.Expansion
import Dashboards.Shell.Format
import Dashboards.Shell.Octets
import Dashboards.Shell.Pattern
import Dashboards.Shell.Process
import Dashboards.Shell.Program
import Dashboards.Shell.Script
import Dashboards.Shell.Script.Reader
import Dashboards.Shell.Script.Token
import Dashboards.Shell.Signal
import Dashboards.Shell.State
import Dashboards.Shell.Sum
import Dashboards.Shell.Tool
import Dashboards.Template
import Dashboards.Text.Blank
import Dashboards.Text.Quoted
import Dashboards.Text.Ranges
import Dashboards.Text.Unprintable
import Dashboards.Text.Utf8
import Dashboards.Toolchain
import Dashboards.Url
import Dashboards.Url.Address
import Dashboards.Url.Fault
import Dashboards.Url.Host
import Dashboards.Url.Idna
import Dashboards.Url.Idna.Classes
import Dashboards.Url.Idna.Composition
import Dashboards.Url.Idna.Mapping
import Dashboards.Url.Percent
import Dashboards.Url.Punycode
import Dashboards.Yaml.Cursor
import Dashboards.Yaml.Event
import Dashboards.Yaml.Fault
import Dashboards.Yaml.Node
import Dashboards.Yaml.Scalar
import Dashboards.Yaml.Token
import Dashboards.Yaml.Token.Block
import Dashboards.Yaml.Token.Gap
import Dashboards.Yaml.Token.Lexer
import Dashboards.Yaml.Token.Plain
import Dashboards.Yaml.Token.Quoted
import Dashboards.Yaml.Token.Tag
import Dashboards.Yaml.Value
