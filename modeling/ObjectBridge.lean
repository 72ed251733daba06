import ObjectBridge.Bridge.Basic
import ObjectBridge.Bridge.Exports
import ObjectBridge.Bridge.Reports
import ObjectBridge.Bridge.Run
import ObjectBridge.Error.Cause
import ObjectBridge.Error.Fault
import ObjectBridge.Handle.Table
import ObjectBridge.Handle.Token
import ObjectBridge.Heap.Basic
import ObjectBridge.Heap.Statistics
import ObjectBridge.Heap.Store
import ObjectBridge.Journal
import ObjectBridge.Native.Arguments
import ObjectBridge.Native.Memory
import ObjectBridge.Native.Pack
import ObjectBridge.Native.Request
import ObjectBridge.Options.Basic
import ObjectBridge.Options.Document
import ObjectBridge.Reflect.Declaration
import ObjectBridge.Reflect.Descriptor
import ObjectBridge.Reflect.Dispatch
import ObjectBridge.Reflect.InternalCalls
import ObjectBridge.Reflect.Overload
import ObjectBridge.Reflect.Program
import ObjectBridge.Reflect.Registry
import ObjectBridge.Reflect.State
import ObjectBridge.Sample.Account
import ObjectBridge.Sample.Buffer
import ObjectBridge.Sample.Conflicted
import ObjectBridge.Sample.Counter
import ObjectBridge.Sample.Kinds
import ObjectBridge.Sample.Probe
import ObjectBridge.Script
import ObjectBridge.Source.Attribute
import ObjectBridge.Source.Block
import ObjectBridge.Source.Block.Reading
import ObjectBridge.Source.Expansion
import ObjectBridge.Source.Lookahead
import ObjectBridge.Source.Meaning
import ObjectBridge.Source.Naming
import ObjectBridge.Source.Phrase
import ObjectBridge.Source.Phrase.Attributes
import ObjectBridge.Source.Phrase.Bounds
import ObjectBridge.Source.Phrase.Expressions
import ObjectBridge.Source.Phrase.Functions
import ObjectBridge.Source.Phrase.Generics
import ObjectBridge.Source.Phrase.Items
import ObjectBridge.Source.Phrase.Members
import ObjectBridge.Source.Phrase.Operands
import ObjectBridge.Source.Phrase.Paths
import ObjectBridge.Source.Phrase.Patterns
import ObjectBridge.Source.Phrase.Reading
import ObjectBridge.Source.Phrase.Statements
import ObjectBridge.Source.Phrase.Types
import ObjectBridge.Source.Reader
import ObjectBridge.Source.Token
import ObjectBridge.Source.Token.Literal
import ObjectBridge.Source.Token.Scan
import ObjectBridge.Source.TypeText
import ObjectBridge.Text.Blank
import ObjectBridge.Text.Interop
import ObjectBridge.Text.Printable
import ObjectBridge.Text.Quoted
import ObjectBridge.Text.Uppercase
import ObjectBridge.Text.Utf8
import ObjectBridge.Value.Basic
import ObjectBridge.Value.Binary
import ObjectBridge.Value.Decimal
import ObjectBridge.Value.Kind
import ObjectBridge.Value.Scalar
import ObjectBridge.Proofs.Text.Passage
import ObjectBridge.Proofs.Text.Pieces
import ObjectBridge.Proofs.Text.Copies
import ObjectBridge.Proofs.Text.Uppercase
import ObjectBridge.Proofs.Error.Chain
import ObjectBridge.Proofs.Native.Cells
import ObjectBridge.Proofs.Native.Decoding
import ObjectBridge.Proofs.Native.Defects
import ObjectBridge.Proofs.Native.Acceptance
import ObjectBridge.Proofs.Native.Footprint
import ObjectBridge.Proofs.Native.Pushes
import ObjectBridge.Proofs.Native.Packs
import ObjectBridge.Proofs.Handle.Packing
import ObjectBridge.Proofs.Value.Coercion
import ObjectBridge.Proofs.Value.Extraction
import ObjectBridge.Proofs.Value.Rounding
import ObjectBridge.Proofs.Value.Nearest
import ObjectBridge.Proofs.Value.Widening
import ObjectBridge.Proofs.Reflect.Passing
import ObjectBridge.Proofs.Reflect.Selection
import ObjectBridge.Proofs.Reflect.Overloads
import ObjectBridge.Proofs.Reflect.Loading
import ObjectBridge.Proofs.Reflect.Publishing
import ObjectBridge.Proofs.Reflect.QualifiedNames
import ObjectBridge.Proofs.Reflect.Typed
import ObjectBridge.Proofs.Handle.Slots
import ObjectBridge.Proofs.Handle.Sound
import ObjectBridge.Proofs.Handle.TokenMap
import ObjectBridge.Proofs.Handle.Refinement
import ObjectBridge.Proofs.Handle.History
import ObjectBridge.Proofs.Heap.Coherent
import ObjectBridge.Proofs.Heap.Contents
import ObjectBridge.Proofs.Bridge.Machine
import ObjectBridge.Proofs.Bridge.Reactions
import ObjectBridge.Proofs.Bridge.Adequacy
import ObjectBridge.Proofs.Bridge.Runs
import ObjectBridge.Proofs.Bridge.Change
import ObjectBridge.Proofs.Bridge.Valid
import ObjectBridge.Proofs.Bridge.Collection
import ObjectBridge.Proofs.Bridge.Agreement
import ObjectBridge.Proofs.Bridge.Signatures
import ObjectBridge.Proofs.Bridge.Invariants
import ObjectBridge.Proofs.Bridge.Typing
import ObjectBridge.Proofs.Bridge.Outcomes
import ObjectBridge.Proofs.Bridge.Quiet
import ObjectBridge.Proofs.Bridge.Natives
import ObjectBridge.Proofs.Bridge.Verdicts
import ObjectBridge.Proofs.Bridge.Defects
import ObjectBridge.Proofs.Bridge.Precedence
import ObjectBridge.Proofs.Bridge.Reporting
import ObjectBridge.Proofs.Bridge.Simulation
import ObjectBridge.Proofs.Bridge.Survival
import ObjectBridge.Proofs.Bridge.Failures
import ObjectBridge.Proofs.Bridge.Books
import ObjectBridge.Proofs.Bridge.Schedule
import ObjectBridge.Proofs.Bridge.Creation
import ObjectBridge.Proofs.Bridge.Retyping
import ObjectBridge.Proofs.Bridge.Dispatch
import ObjectBridge.Proofs.Bridge.Nested
import ObjectBridge.Proofs.Bridge.Inputs
import ObjectBridge.Proofs.Bridge.Uploads
import ObjectBridge.Proofs.Twin.Related
import ObjectBridge.Proofs.Twin.Bodies
import ObjectBridge.Proofs.Twin.Stores
import ObjectBridge.Proofs.Twin.Bridges
import ObjectBridge.Proofs.Twin.Runs
import ObjectBridge.Proofs.Twin.Operations
import ObjectBridge.Proofs.Mode.Bodies
import ObjectBridge.Proofs.Mode.Tables
import ObjectBridge.Proofs.Mode.Stores
import ObjectBridge.Proofs.Mode.Bridges
import ObjectBridge.Proofs.Mode.Machines
import ObjectBridge.Proofs.Mode.Runs
import ObjectBridge.Proofs.Mode.Operations
import ObjectBridge.Proofs.Source.Naming
import ObjectBridge.Proofs.Source.Reading
import ObjectBridge.Proofs.Source.Exports
import ObjectBridge.Proofs.Source.Markers
import ObjectBridge.Proofs.Source.Hidden
import ObjectBridge.Proofs.Source.Arguments
import ObjectBridge.Proofs.Options.Writing
import ObjectBridge.Proofs.Options.Loading
