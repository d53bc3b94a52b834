import TypedYaml.Basic
import TypedYaml.Text.Alphanumeric
import TypedYaml.Text.LowerCase
import TypedYaml.Path.Parser
import TypedYaml.Decimal.Reading
import TypedYaml.Node
import TypedYaml.Schema.Definition.Reading
import TypedYaml.Schema.Navigation
import TypedYaml.Check
import TypedYaml.Completion
import TypedYaml.Yaml.Document
import TypedYaml.Main
import TypedYaml.Proofs.Text.Integer
import TypedYaml.Proofs.Path.RoundTrip
import TypedYaml.Proofs.Node.Concrete
import TypedYaml.Proofs.Schema.Resolution
import TypedYaml.Proofs.Check.Locality
import TypedYaml.Proofs.Check.Coverage
import TypedYaml.Proofs.Schema.Reachable
import TypedYaml.Proofs.Node.Matching
import TypedYaml.Proofs.Schema.Walking
import TypedYaml.Proofs.Path.Grammar
import TypedYaml.Proofs.Path.Stopping
import TypedYaml.Proofs.Check.Flattening
import TypedYaml.Proofs.Check.Spelling
import TypedYaml.Proofs.Check.Reach
import TypedYaml.Proofs.Check.Location
import TypedYaml.Proofs.Check.Deprecation
import TypedYaml.Proofs.Check.Order
import TypedYaml.Proofs.Schema.TypeGrammar
import TypedYaml.Proofs.Schema.Growth
import TypedYaml.Proofs.Schema.Denotation
import TypedYaml.Proofs.Schema.Effect
import TypedYaml.Proofs.Schema.SinglePass
import TypedYaml.Proofs.Completion
import TypedYaml.Proofs.Definition.Reading
import TypedYaml.Proofs.Definition.Order
import TypedYaml.Proofs.Schema.Expansion
import TypedYaml.Proofs.Schema.Naming
import TypedYaml.Proofs.Check.Frame
import TypedYaml.Proofs.Decimal.Writing
import TypedYaml.Proofs.Check.Quoting
import TypedYaml.Proofs.Check.Shorthand
import TypedYaml.Proofs.CommandLine.Flags
import TypedYaml.Proofs.CommandLine.Check
import TypedYaml.Proofs.Completion.Narrowing
import TypedYaml.Proofs.Yaml.Document
import TypedYaml.Proofs.Path.Forms
import TypedYaml.Proofs.Completion.Enumeration
import TypedYaml.Proofs.Definition.Repetition
import TypedYaml.Proofs.Check.ReadKeys
