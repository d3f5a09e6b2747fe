import InDoubt.Base64
import InDoubt.Binary64
import InDoubt.Branch.Checked
import InDoubt.Branch.Directory
import InDoubt.Branch.Flat
import InDoubt.Branch.Identifier
import InDoubt.Branch.Reading
import InDoubt.Branch.Triple
import InDoubt.Fault
import InDoubt.Json.Reader
import InDoubt.Json.Writer
import InDoubt.Observation.Event
import InDoubt.Observation.LogLine
import InDoubt.Observation.Metering
import InDoubt.Observation.Span
import InDoubt.Observation.Tally
import InDoubt.Observation.Trace
import InDoubt.Recovery.Connection
import InDoubt.Recovery.Course
import InDoubt.Recovery.Row
import InDoubt.Recovery.Trip
import InDoubt.Settings.Ambient
import InDoubt.Settings.Basic
import InDoubt.Settings.Environment
import InDoubt.Settings.Reading
import InDoubt.Text.Pattern
import InDoubt.Text.Printable
import InDoubt.Text.Quoted
import InDoubt.Value
import InDoubt.Value.Contents
import InDoubt.Value.Equality
import InDoubt.Value.Printed
import InDoubt.Proofs.Base64.Canonical
import InDoubt.Proofs.Base64.RoundTrip
import InDoubt.Proofs.Branch.Acceptance
import InDoubt.Proofs.Branch.Canonical
import InDoubt.Proofs.Branch.Identity
import InDoubt.Proofs.Branch.Language
import InDoubt.Proofs.Branch.Lookup
import InDoubt.Proofs.Branch.Lossless
import InDoubt.Proofs.Branch.Obtained
import InDoubt.Proofs.Text.Pattern
import InDoubt.Proofs.Text.Quoted
import InDoubt.Proofs.Branch.RoundTrip
import InDoubt.Proofs.Flat.Exactness
import InDoubt.Proofs.Flat.Failure
import InDoubt.Proofs.Flat.Fields
import InDoubt.Proofs.Flat.Pattern
import InDoubt.Proofs.Flat.Spelling
import InDoubt.Proofs.Outcome
import InDoubt.Proofs.Recovery.Endings
import InDoubt.Proofs.Recovery.Rows
import InDoubt.Proofs.Recovery.Calls
import InDoubt.Proofs.Recovery.Delivery
import InDoubt.Proofs.Recovery.Escapes
import InDoubt.Proofs.Recovery.Counters
import InDoubt.Proofs.Observation.Doubles
import InDoubt.Proofs.Branch.Refusals
import InDoubt.Proofs.Recovery.Batches
import InDoubt.Proofs.Recovery.Precedence
import InDoubt.Proofs.Session
import InDoubt.Proofs.Branch.Magnitude
import InDoubt.Proofs.Branch.Extent
import InDoubt.Proofs.Branch.Printed
import InDoubt.Proofs.Recovery.Records
import InDoubt.Proofs.Recovery.Memory
import InDoubt.Proofs.Recovery.Metadata
import InDoubt.Proofs.Branch.Sequence
import InDoubt.Proofs.Observation.Serving
import InDoubt.Proofs.Base64.Ascii
import InDoubt.Proofs.Base64.Aliases
import InDoubt.Proofs.Settings.Settling
import InDoubt.Proofs.Settings.Entries
import InDoubt.Proofs.Settings.Variables
import InDoubt.Proofs.Settings.Constraint
import InDoubt.Proofs.Json.Objects
import InDoubt.Proofs.Settings.Layers
import InDoubt.Proofs.Settings.Loading
