import SidScore.Chip.Layout
import SidScore.Decimal.Basic
import SidScore.Decimal.Shortest
import SidScore.Document
import SidScore.Document.Text
import SidScore.Memory.Banked
import SidScore.Memory.Banking
import SidScore.Memory.Ram
import SidScore.Notice
import SidScore.Player.Basic
import SidScore.Player.Routine
import SidScore.Processor.Arithmetic
import SidScore.Processor.Bus
import SidScore.Processor.Flags
import SidScore.Processor.Instruction
import SidScore.Processor.Machine
import SidScore.Processor.Mnemonic
import SidScore.Processor.Mode
import SidScore.Processor.Opcode
import SidScore.Processor.Operand
import SidScore.Processor.Outcome
import SidScore.Processor.State
import SidScore.Processor.Step
import SidScore.Proofs.Chip.Decoding
import SidScore.Proofs.Chip.Observation
import SidScore.Proofs.Memory.Cells
import SidScore.Proofs.Memory.Footprint
import SidScore.Proofs.Memory.History
import SidScore.Proofs.Memory.Journal
import SidScore.Proofs.Memory.LastStored
import SidScore.Proofs.Memory.LastWrite
import SidScore.Proofs.Memory.Records
import SidScore.Proofs.Memory.Storage
import SidScore.Proofs.Memory.Unbanked
import SidScore.Proofs.Player.Calls
import SidScore.Proofs.Player.Entry
import SidScore.Proofs.Player.History
import SidScore.Proofs.Player.Idling
import SidScore.Proofs.Player.Latch
import SidScore.Proofs.Player.Timing
import SidScore.Proofs.Processor.Accesses
import SidScore.Proofs.Processor.Addressing
import SidScore.Proofs.Processor.Budget
import SidScore.Proofs.Processor.ByteArithmetic
import SidScore.Proofs.Processor.ByteShifts
import SidScore.Proofs.Processor.Effects
import SidScore.Proofs.Processor.EmptyStack
import SidScore.Proofs.Processor.Execution
import SidScore.Proofs.Processor.Faults
import SidScore.Proofs.Processor.Fetching
import SidScore.Proofs.Processor.LongArithmetic
import SidScore.Proofs.Processor.LongNumbers
import SidScore.Proofs.Processor.LongShifts
import SidScore.Proofs.Processor.Nesting
import SidScore.Proofs.Processor.Running
import SidScore.Proofs.Processor.Simulation
import SidScore.Proofs.Processor.Stack
import SidScore.Proofs.Processor.Stepping
import SidScore.Proofs.Sample.Gate
import SidScore.Proofs.Sample.Image
import SidScore.Proofs.Sample.Release
import SidScore.Proofs.Score.Alike
import SidScore.Proofs.Score.Alternation
import SidScore.Proofs.Score.Frequency
import SidScore.Proofs.Score.Passes
import SidScore.Proofs.Score.Replay
import SidScore.Proofs.Session.Gate
import SidScore.Proofs.Session.Growth
import SidScore.Proofs.Session.Independence
import SidScore.Proofs.Session.Leftovers
import SidScore.Proofs.Session.Limit
import SidScore.Proofs.Session.Replay
import SidScore.Proofs.Session.Steps
import SidScore.Proofs.Session.Toggle
import SidScore.Proofs.Tune.Format
import SidScore.Proofs.Tune.Reader
import SidScore.Proofs.Tune.RoundTrip
import SidScore.Proofs.Word
import SidScore.Sample.Row
import SidScore.Sample.Sampler
import SidScore.Score.Event
import SidScore.Score.Extractor
import SidScore.Score.Instrument
import SidScore.Score.Pitch
import SidScore.Score.Tempo
import SidScore.Score.Timeline
import SidScore.Score.TimelineDocument
import SidScore.Session.Import
import SidScore.Session.Options
import SidScore.Session.Recording
import SidScore.Timing.Region
import SidScore.Tune.Fault
import SidScore.Tune.File
import SidScore.Tune.Header
import SidScore.Tune.Layout
import SidScore.Word
