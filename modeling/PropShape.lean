import PropShape.Descriptor.Equality
import PropShape.Diff
import PropShape.Schema.Check
import PropShape.Settings.Storage
import PropShape.TextFormat
import PropShape.Trace
import PropShape.Validation.Equations
import PropShape.Proofs.Registry.Declarative
import PropShape.Proofs.Registry.Resolution
import PropShape.Proofs.Report.Run
import PropShape.Proofs.Validation.Plan
import PropShape.Proofs.StrictPart
import PropShape.Proofs.Validation.Calls
import PropShape.Proofs.Validation.Acceptance
import PropShape.Proofs.Validation.Termination
import PropShape.Proofs.Validation.Reach
import PropShape.Proofs.Validation.Cycle
import PropShape.Proofs.Validation.Lockstep
import PropShape.Proofs.Validation.Raising
import PropShape.Proofs.Validation.Parallel
import PropShape.Proofs.Validation.Silence
import PropShape.Proofs.Validation.Object
import PropShape.Proofs.Validation.Origin
import PropShape.Proofs.Schema.Usable
import PropShape.Proofs.Schema.Soundness
import PropShape.Proofs.Validation.Reporting
import PropShape.Proofs.Validation.Transparency
import PropShape.Proofs.Validation.Positions
import PropShape.Proofs.Validation.Relocation
import PropShape.Proofs.Agreement
import PropShape.Proofs.Difference
import PropShape.Proofs.Value.Equality
import PropShape.Proofs.Descriptor.Equality
import PropShape.Proofs.Validation.Respect
import PropShape.Proofs.Object.Lookup
import PropShape.Proofs.Object.Spread
import PropShape.Proofs.Object.Defaults
import PropShape.Proofs.Validation.Options
import PropShape.Proofs.Object.Update
import PropShape.Proofs.Validation.Requests
import PropShape.Proofs.Validation.Dispatch
import PropShape.Proofs.Validation.Names
import PropShape.Proofs.Descriptor.Rewriting
import PropShape.Proofs.Validation.Sinks
import PropShape.Proofs.Validation.Aliases
import PropShape.Proofs.Document.Strictness
import PropShape.Proofs.Json.Decoding
import PropShape.Proofs.Json.Number
import PropShape.Proofs.Json.Reading
import PropShape.Proofs.Json.Schema
import PropShape.Proofs.Json.Rendering
import PropShape.Proofs.Validation.Relaxing
import PropShape.Proofs.Object.Filling
import PropShape.Proofs.Value.Path
import PropShape.Proofs.Schema.Preorder
import PropShape.Proofs.Number.Quantity
import PropShape.Proofs.Schema.Faults
import PropShape.Proofs.Value.Reflexivity
import PropShape.Proofs.Number.Integer
import PropShape.Proofs.Json.Nesting
import PropShape.Proofs.Validation.Mismatch
import PropShape.Proofs.Validation.Frames
import PropShape.Proofs.Yaml.Line
import PropShape.Proofs.Yaml.Tokens
import PropShape.Proofs.Yaml.Mapping
import PropShape.Proofs.Settings.Storage
