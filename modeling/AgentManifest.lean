import AgentManifest.CommandLine.Argument
import AgentManifest.CommandLine.Invocation
import AgentManifest.CommandLine.Misuse
import AgentManifest.CommandLine.Reading
import AgentManifest.CommandLine.Request
import AgentManifest.CommandLine.Run
import AgentManifest.Decimal.Binary64
import AgentManifest.Decimal.Notation
import AgentManifest.Decode.Mismatch
import AgentManifest.Files.Discovery
import AgentManifest.Files.Path
import AgentManifest.Files.Tree
import AgentManifest.Host.Direction
import AgentManifest.Host.Name
import AgentManifest.Host.MailAddress
import AgentManifest.Host.Mapping
import AgentManifest.Host.Punycode
import AgentManifest.Json.Value
import AgentManifest.Json.Error
import AgentManifest.Json.Pointer
import AgentManifest.Json.Printer
import AgentManifest.Json.Reader
import AgentManifest.Json.Record
import AgentManifest.Json.Skip
import AgentManifest.Lint.Checks
import AgentManifest.Lint.Config
import AgentManifest.Lint.Config.File
import AgentManifest.Lint.Depth
import AgentManifest.Main
import AgentManifest.Manifest.Load
import AgentManifest.Pattern.Automaton
import AgentManifest.Pattern.Bracket
import AgentManifest.Pattern.CharSet
import AgentManifest.Pattern.Escape
import AgentManifest.Pattern.Matcher
import AgentManifest.Pattern.Node
import AgentManifest.Pattern.Part
import AgentManifest.Pattern.Plain
import AgentManifest.Pattern.Program
import AgentManifest.Pattern.Property
import AgentManifest.Pattern.Reader
import AgentManifest.Pattern.Scan
import AgentManifest.Pattern.Simple
import AgentManifest.Report.Document
import AgentManifest.Report.Human
import AgentManifest.Report.Outcome
import AgentManifest.Report.Verdict
import AgentManifest.Schema.Assertion
import AgentManifest.Schema.Builtin
import AgentManifest.Schema.Collecting
import AgentManifest.Schema.Compile
import AgentManifest.Schema.Compiled
import AgentManifest.Schema.Condition
import AgentManifest.Schema.Draft
import AgentManifest.Schema.Fault
import AgentManifest.Schema.Evaluation
import AgentManifest.Schema.Failure
import AgentManifest.Schema.Filling
import AgentManifest.Schema.Format
import AgentManifest.Schema.Interpretation
import AgentManifest.Schema.MetaSchema
import AgentManifest.Schema.Reference
import AgentManifest.Schema.Registry
import AgentManifest.Schema.Syntax
import AgentManifest.Schema.Vocabulary
import AgentManifest.Text.Age
import AgentManifest.Text.Utf8
import AgentManifest.Text.Character
import AgentManifest.Text.Category
import AgentManifest.Text.Composition
import AgentManifest.Text.Quoted
import AgentManifest.Text.Folding
import AgentManifest.Text.Property.Word
import AgentManifest.Text.Property.Mark
import AgentManifest.Text.Property.Pictograph
import AgentManifest.Text.Property.Sign
import AgentManifest.Text.Script
import AgentManifest.Text.ScriptExtension
import AgentManifest.Text.Segment
import AgentManifest.Uri.Address
import AgentManifest.Uri.Authority
import AgentManifest.Uri.Part
import AgentManifest.Uri.Reference
import AgentManifest.Validator
import AgentManifest.Yaml.Cursor
import AgentManifest.Yaml.Error
import AgentManifest.Yaml.Node
import AgentManifest.Yaml.Node.Grammar
import AgentManifest.Yaml.Token.Scan
import AgentManifest.Yaml.Reader
import AgentManifest.Yaml.Scalar
import AgentManifest.Yaml.Token
import AgentManifest.Yaml.Value
import AgentManifest.Yaml.Token.Block
import AgentManifest.Yaml.Token.Flow
import AgentManifest.Yaml.Token.Property
import AgentManifest.Proofs.Pattern.Meaning
import AgentManifest.Proofs.CommandLine.ExitCode
import AgentManifest.Proofs.Decimal.Value
import AgentManifest.Proofs.Files.Discovery
import AgentManifest.Proofs.Json.Members
import AgentManifest.Proofs.Manifest.Conformance
import AgentManifest.Proofs.CommandLine.Sweep
import AgentManifest.Proofs.CommandLine.Document
import AgentManifest.Proofs.Manifest.Guidelines
import AgentManifest.Proofs.Manifest.Text
import AgentManifest.Proofs.Schema.Composition
import AgentManifest.Proofs.Schema.Combinations
import AgentManifest.Proofs.Schema.Constancy
import AgentManifest.Proofs.Schema.DefaultDraft
import AgentManifest.Proofs.Schema.Transparency
import AgentManifest.Proofs.Manifest.Extension
import AgentManifest.Proofs.CommandLine.Writing
import AgentManifest.Proofs.Report.History
import AgentManifest.Proofs.CommandLine.Quiet
import AgentManifest.Proofs.Lint.Walk
import AgentManifest.Proofs.Yaml.Conversion
import AgentManifest.Proofs.Lint.Findings
import AgentManifest.Proofs.Manifest.Locality
import AgentManifest.Proofs.Yaml.Block
import AgentManifest.Proofs.Yaml.BlockScan
import AgentManifest.Proofs.Yaml.BlockNodes
import AgentManifest.Proofs.Yaml.Folding
import AgentManifest.Proofs.Yaml.Blank
import AgentManifest.Proofs.Manifest.Usage
import AgentManifest.Proofs.Lint.Thresholds
import AgentManifest.Proofs.Manifest.Advice
import AgentManifest.Proofs.Manifest.Name
import AgentManifest.Proofs.Report.Decoding
import AgentManifest.Proofs.Lint.FileSize
import AgentManifest.Proofs.CommandLine.Colour
import AgentManifest.Proofs.CommandLine.Spelling
import AgentManifest.Proofs.Lint.Overlay
import AgentManifest.Proofs.Manifest.Parsing
import AgentManifest.Proofs.Report.Lines
import AgentManifest.Proofs.Schema.Addresses
