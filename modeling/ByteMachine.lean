import ByteMachine.Main
import ByteMachine.Proofs.AddressBound
import ByteMachine.Proofs.Stack
import ByteMachine.Proofs.Tracing
import ByteMachine.Proofs.Uninterrupted
import ByteMachine.Proofs.Outcome
import ByteMachine.Proofs.Locality
import ByteMachine.Proofs.Placement
import ByteMachine.Proofs.Reading
import ByteMachine.Proofs.StraightLine
import ByteMachine.Proofs.EqualFlag
import ByteMachine.Proofs.Grammar
import ByteMachine.Proofs.Resumption
import ByteMachine.Proofs.TraceLimit
import ByteMachine.Proofs.WriteHistory
import ByteMachine.Proofs.ForwardRuns
import ByteMachine.Proofs.PrintedText
import ByteMachine.Proofs.InstructionTable
import ByteMachine.Proofs.FailedCycles
import ByteMachine.Proofs.CommandReport
import ByteMachine.Proofs.LogRecords
import ByteMachine.Proofs.AppendedText
import ByteMachine.Proofs.LoadExtent
import ByteMachine.Proofs.PushPop
import ByteMachine.Proofs.Revision
import ByteMachine.Proofs.ArithmeticUnit
import ByteMachine.Proofs.Disassembly
import ByteMachine.Proofs.TraceLines
