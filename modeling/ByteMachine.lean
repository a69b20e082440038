import ByteMachine.Arithmetic
import ByteMachine.CommandLine
import ByteMachine.CommandLine.Arguments
import ByteMachine.CommandLine.Command
import ByteMachine.CommandLine.Path
import ByteMachine.CommandLine.Trouble
import ByteMachine.Config
import ByteMachine.Config.Environment
import ByteMachine.Debugger
import ByteMachine.Debugger.Condition
import ByteMachine.Debugger.Event
import ByteMachine.Device
import ByteMachine.Device.Bench
import ByteMachine.Device.Console
import ByteMachine.Device.Reading
import ByteMachine.Device.Scripted
import ByteMachine.Fault
import ByteMachine.HexProgram
import ByteMachine.Listing
import ByteMachine.Machine
import ByteMachine.Machine.Journal
import ByteMachine.Machine.Run
import ByteMachine.Machine.Step
import ByteMachine.Main
import ByteMachine.Memory
import ByteMachine.Opcode
import ByteMachine.Proofs.Lockstep
import ByteMachine.Register
import ByteMachine.RegisterFile
import ByteMachine.Text.Blank
import ByteMachine.Text.Control
import ByteMachine.Text.Digit
import ByteMachine.Text.Hex
import ByteMachine.Text.Integer
import ByteMachine.Text.Line
import ByteMachine.Text.Printable
import ByteMachine.Text.Quoted
import ByteMachine.Text.Split
import ByteMachine.Text.Utf8
import ByteMachine.Variant
import ByteMachine.Word
import ByteMachine.Proofs.Step
import ByteMachine.Proofs.Run
import ByteMachine.Proofs.Transparency
import ByteMachine.Proofs.Session
import ByteMachine.Proofs.Resumption
import ByteMachine.Proofs.Cells
import ByteMachine.Proofs.Decode
import ByteMachine.Proofs.Layout
import ByteMachine.Proofs.Diagnosis
import ByteMachine.Proofs.Matching
import ByteMachine.Proofs.Enlargement
import ByteMachine.Proofs.Restart
import ByteMachine.Proofs.Calls
import ByteMachine.Proofs.UnreadInput
import ByteMachine.Proofs.Widening
import ByteMachine.Proofs.Effect
import ByteMachine.Proofs.Flags
import ByteMachine.Proofs.Invariant
import ByteMachine.Proofs.Stores
import ByteMachine.Proofs.Recast
import ByteMachine.Proofs.Lenience
import ByteMachine.Proofs.Budget
import ByteMachine.Proofs.Exchange
import ByteMachine.Proofs.InputOutput
import ByteMachine.Proofs.Partition
import ByteMachine.Proofs.Tokens
import ByteMachine.Proofs.Rereading
import ByteMachine.Proofs.HookHistory
import ByteMachine.Proofs.Report
import ByteMachine.Proofs.Failure
import ByteMachine.Proofs.Computation
import ByteMachine.Proofs.Faults
import ByteMachine.Proofs.Delay
import ByteMachine.Proofs.HexFormat
import ByteMachine.Proofs.Joining
import ByteMachine.Proofs.Precedence
import ByteMachine.Proofs.Masks
import ByteMachine.Proofs.Recall
import ByteMachine.Proofs.Checks
import ByteMachine.Proofs.Refusal
