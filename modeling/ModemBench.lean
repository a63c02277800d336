import ModemBench.Bench.World
import ModemBench.Main
import ModemBench.Proofs.Allowance
import ModemBench.Proofs.ByteStream
import ModemBench.Proofs.Chunking
import ModemBench.Proofs.Composition
import ModemBench.Proofs.Delivery
import ModemBench.Proofs.ExitCodes
import ModemBench.Proofs.FailedStart
import ModemBench.Proofs.GrowingReply
import ModemBench.Proofs.Interruption
import ModemBench.Proofs.LateReplies
import ModemBench.Proofs.Layers
import ModemBench.Proofs.LeftOvers
import ModemBench.Proofs.LineAssembly
import ModemBench.Proofs.Loading
import ModemBench.Proofs.Lockstep
import ModemBench.Proofs.Log
import ModemBench.Proofs.Overlay
import ModemBench.Proofs.OverrideGrammar
import ModemBench.Proofs.Pauses
import ModemBench.Proofs.PlanStages
import ModemBench.Proofs.Punctuality
import ModemBench.Proofs.Rehearsal
import ModemBench.Proofs.ReportShape
import ModemBench.Proofs.Schema
import ModemBench.Proofs.StepOrder
import ModemBench.Proofs.WireContract
import ModemBench.Proofs.WireTraffic
import ModemBench.Settings.LogFilter.Pattern
