import Underlay.Boundary.Containers
import Underlay.Boundary.Failures
import Underlay.Boundary.Handles
import Underlay.Boundary.Memory
import Underlay.Boundary.Slices
import Underlay.Conformance.Builtin
import Underlay.Conformance.Campaign
import Underlay.Conformance.Difference
import Underlay.Conformance.Digest
import Underlay.Conformance.Emitter
import Underlay.Conformance.Entry
import Underlay.Conformance.Execution
import Underlay.Conformance.Fixture
import Underlay.Conformance.Inputs
import Underlay.Conformance.Instant
import Underlay.Conformance.Operation
import Underlay.Conformance.Report
import Underlay.Conformance.Request
import Underlay.Conformance.Room
import Underlay.Conformance.Verdict
import Underlay.Container.Dict
import Underlay.Container.Mapping
import Underlay.Container.Sequence
import Underlay.Failure
import Underlay.Failure.Kind
import Underlay.Failure.Slot
import Underlay.Failure.System
import Underlay.Files
import Underlay.Json.Binary
import Underlay.Json.Reader
import Underlay.Json.Value
import Underlay.Machine
import Underlay.Machine.Heaps
import Underlay.Machine.Holders
import Underlay.Machine.Pools
import Underlay.Machine.Scopes
import Underlay.Main
import Underlay.Memory.Bounded
import Underlay.Memory.Bytes
import Underlay.Memory.Heap
import Underlay.Memory.Pool
import Underlay.Memory.Reserve
import Underlay.Memory.Scope
import Underlay.Names
import Underlay.Observer
import Underlay.Observer.Counters
import Underlay.Observer.Lifecycle
import Underlay.Progression
import Underlay.Proofs.Accounting.Balance
import Underlay.Proofs.Accounting.Counting
import Underlay.Proofs.Accounting.Run
import Underlay.Proofs.Accounting.Step
import Underlay.Proofs.Blocks.Balance
import Underlay.Proofs.Blocks.Contents
import Underlay.Proofs.Blocks.Copies
import Underlay.Proofs.Blocks.Resizing
import Underlay.Proofs.Blocks.Run
import Underlay.Proofs.Blocks.Step
import Underlay.Proofs.Calendar
import Underlay.Proofs.Conformance.Account
import Underlay.Proofs.Conformance.Admission
import Underlay.Proofs.Conformance.Campaigns
import Underlay.Proofs.Conformance.ClosedForms
import Underlay.Proofs.Conformance.Correlation
import Underlay.Proofs.Conformance.Differences
import Underlay.Proofs.Conformance.Emission
import Underlay.Proofs.Conformance.Entries
import Underlay.Proofs.Conformance.History
import Underlay.Proofs.Conformance.Notes
import Underlay.Proofs.Conformance.Objections
import Underlay.Proofs.Conformance.Recording
import Underlay.Proofs.Conformance.Scripts
import Underlay.Proofs.Containers.Bridge
import Underlay.Proofs.Containers.Calls
import Underlay.Proofs.Containers.Encoding
import Underlay.Proofs.Containers.Equality
import Underlay.Proofs.Containers.Extensionality
import Underlay.Proofs.Containers.Likeness
import Underlay.Proofs.Containers.Materialization
import Underlay.Proofs.Containers.Traversal
import Underlay.Proofs.Counters
import Underlay.Proofs.Failures.Agreement.Containers
import Underlay.Proofs.Failures.Agreement.Heaps
import Underlay.Proofs.Failures.Agreement.Pools
import Underlay.Proofs.Failures.Atomicity
import Underlay.Proofs.Failures.Operations
import Underlay.Proofs.Failures.Protocol
import Underlay.Proofs.Failures.Raising
import Underlay.Proofs.Failures.Reporting
import Underlay.Proofs.Failures.Routine
import Underlay.Proofs.Failures.Run
import Underlay.Proofs.Failures.Sparing
import Underlay.Proofs.Failures.Truncation
import Underlay.Proofs.Files
import Underlay.Proofs.Json.Names
import Underlay.Proofs.Json.RoundTrip
import Underlay.Proofs.Json.Scalars
import Underlay.Proofs.Json.Texts
import Underlay.Proofs.Leaks.Detection
import Underlay.Proofs.Leaks.Run
import Underlay.Proofs.Lifecycle.Agreement
import Underlay.Proofs.Lifecycle.Callbacks
import Underlay.Proofs.Lifecycle.Commands
import Underlay.Proofs.Lifecycle.Faithful
import Underlay.Proofs.Lifecycle.Retention
import Underlay.Proofs.Lifecycle.Ring
import Underlay.Proofs.Lifecycle.Run
import Underlay.Proofs.Lifecycle.Steps
import Underlay.Proofs.Lifecycle.Trail
import Underlay.Proofs.Lifetime.Growths
import Underlay.Proofs.Lifetime.Run
import Underlay.Proofs.Lifetime.Steps
import Underlay.Proofs.Observation.Acts
import Underlay.Proofs.Observation.Blindness
import Underlay.Proofs.Observation.Entries
import Underlay.Proofs.Observation.Operations
import Underlay.Proofs.Observation.Reading
import Underlay.Proofs.Observation.Records
import Underlay.Proofs.Observation.Run
import Underlay.Proofs.Pools.Doubling
import Underlay.Proofs.Pools.Growth
import Underlay.Proofs.Pools.Isolation
import Underlay.Proofs.Pools.Layout
import Underlay.Proofs.Pools.Replay
import Underlay.Proofs.Pools.Run
import Underlay.Proofs.Pools.Step
import Underlay.Proofs.Pools.Validity
import Underlay.Proofs.Registries.Cleanups
import Underlay.Proofs.Registries.Run
import Underlay.Proofs.Run
import Underlay.Proofs.Scopes.Releases
import Underlay.Proofs.Scopes.Run
import Underlay.Proofs.Sentinels.Answers
import Underlay.Proofs.Sentinels.Calls
import Underlay.Proofs.Sentinels.Unambiguous
import Underlay.Proofs.Settings.Overrides
import Underlay.Proofs.Settings.Run
import Underlay.Proofs.Sharing.Balance
import Underlay.Proofs.Sharing.Cascade
import Underlay.Proofs.Sharing.Cells
import Underlay.Proofs.Sharing.Census
import Underlay.Proofs.Sharing.Counting
import Underlay.Proofs.Sharing.Handles
import Underlay.Proofs.Sharing.Parting
import Underlay.Proofs.Sharing.Run
import Underlay.Proofs.Slices.Normalization
import Underlay.Proofs.Slices.Progressions
import Underlay.Proofs.Slices.Routes
import Underlay.Proofs.Slices.Stride
import Underlay.Proofs.Text.Encoding
import Underlay.Proofs.Text.Lines
import Underlay.Registry
import Underlay.Session
import Underlay.Settings
import Underlay.Settings.Cell
import Underlay.Shared
import Underlay.Slice
import Underlay.Text.Alphanumeric
import Underlay.Text.Blank
import Underlay.Text.Hidden
import Underlay.Text.Lines
import Underlay.Text.Quoted
import Underlay.Text.Ranges
import Underlay.Text.Utf8
import Underlay.Word
import Underlay.Workbench
import Underlay.Workbench.Calls
import Underlay.Workbench.Calls.Containers
import Underlay.Workbench.Calls.Handles
import Underlay.Workbench.Calls.Memory
import Underlay.Workbench.Conformance
import Underlay.Workbench.Containers
import Underlay.Workbench.Failures
import Underlay.Workbench.Heaps
import Underlay.Workbench.Holders
import Underlay.Workbench.Logs
import Underlay.Workbench.Scopes
import Underlay.Workbench.Views
