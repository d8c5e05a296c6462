import Systolic.Board
import Systolic.Board.Mapped
import Systolic.Board.Script
import Systolic.Check.Benchmark
import Systolic.Check.Comparison
import Systolic.Check.Datapath
import Systolic.Check.Mac
import Systolic.Command
import Systolic.Command.Line
import Systolic.Descriptor
import Systolic.Device
import Systolic.Device.Control
import Systolic.Device.Streaming
import Systolic.Dispatcher
import Systolic.Failure
import Systolic.Main
import Systolic.Matrix
import Systolic.Memory
import Systolic.Polling
import Systolic.Profile
import Systolic.Program
import Systolic.Region
import Systolic.Region.Staging
import Systolic.Report
import Systolic.Sequencer
import Systolic.Sequencer.Call
import Systolic.Sequencer.Mac
import Systolic.Sequencer.Transfer
import Systolic.Settings
import Systolic.Sparse
import Systolic.Text.Blank
import Systolic.Text.Figure
import Systolic.Text.Hex
import Systolic.Text.Numeral
import Systolic.Text.Printable
import Systolic.Text.Quoted
import Systolic.Wire
import Systolic.Word
import Systolic.Proofs.Deadlines
import Systolic.Proofs.Footprint
import Systolic.Proofs.Outcome
import Systolic.Proofs.Atomicity
import Systolic.Proofs.Protocol
import Systolic.Proofs.DeviceWrites
import Systolic.Proofs.Coupling
import Systolic.Proofs.Codec
import Systolic.Proofs.Multiply
import Systolic.Proofs.Placement
import Systolic.Proofs.Session
import Systolic.Proofs.Bounds
import Systolic.Proofs.RoundTrip
import Systolic.Proofs.Transcript
import Systolic.Proofs.Containment
import Systolic.Proofs.Reports
import Systolic.Proofs.Isolation
import Systolic.Proofs.Weights
import Systolic.Proofs.Accounting
import Systolic.Proofs.Faults
import Systolic.Proofs.Benchmark
import Systolic.Proofs.WireLayout
import Systolic.Proofs.Monitor
import Systolic.Proofs.Lawful
import Systolic.Proofs.Legality
import Systolic.Proofs.Rows
import Systolic.Proofs.Splitting
import Systolic.Proofs.Planning
import Systolic.Proofs.Batches
import Systolic.Proofs.Reset
import Systolic.Proofs.Mismatches
import Systolic.Proofs.Transfers
import Systolic.Proofs.Datapath
import Systolic.Proofs.Leftovers
import Systolic.Proofs.RawWrites
import Systolic.Proofs.Baseline
import Systolic.Proofs.Unweighted
import Systolic.Proofs.Commuting
import Systolic.Proofs.Rearranged
import Systolic.Proofs.Numerals
import Systolic.Proofs.Layers
import Systolic.Proofs.Framing
import Systolic.Proofs.Element
import Systolic.Proofs.Latching
import Systolic.Proofs.Products
import Systolic.Proofs.BatchSizes
import Systolic.Proofs.Reference
