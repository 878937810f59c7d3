import ChainWatch.Main
import ChainWatch.Simulation.Files
import ChainWatch.Simulation.Listening
import ChainWatch.Simulation.Rehearsal
import ChainWatch.Proofs.Watch.Classification
import ChainWatch.Proofs.Watch.Fork
import ChainWatch.Proofs.Watch.Tenure
import ChainWatch.Proofs.Run.Balance
import ChainWatch.Proofs.Run.Diagnosis
import ChainWatch.Proofs.Run.Rescan
import ChainWatch.Proofs.Run.Redelivery
import ChainWatch.Proofs.Run.Success
import ChainWatch.Proofs.Run.Course
import ChainWatch.Proofs.Run.Interleaving
import ChainWatch.Proofs.Run.Ledger
import ChainWatch.Proofs.Run.Account
import ChainWatch.Proofs.Run.Faults
import ChainWatch.Proofs.Run.Judgement
import ChainWatch.Proofs.Run.Mirror
import ChainWatch.Proofs.Service.Event
import ChainWatch.Proofs.Service.Passage
import ChainWatch.Proofs.Service.Orderly
import ChainWatch.Proofs.Service.Ownership
import ChainWatch.Proofs.Service.Answer
import ChainWatch.Proofs.Service.Refusal
import ChainWatch.Proofs.Service.Traffic
import ChainWatch.Proofs.Service.Submissions
import ChainWatch.Proofs.Service.Isolation
import ChainWatch.Proofs.Decimal.Seconds
import ChainWatch.Proofs.Service.Periods
import ChainWatch.Proofs.Text.Utf8
import ChainWatch.Proofs.Text.Hex
import ChainWatch.Proofs.CorrelationId
import ChainWatch.Proofs.Text.Blank
import ChainWatch.Proofs.Node.Flaw
import ChainWatch.Proofs.Node.Rereading
import ChainWatch.Proofs.Node.Heads
import ChainWatch.Proofs.Json.Text
import ChainWatch.Proofs.Json.Record
import ChainWatch.Proofs.Wire.Codec
import ChainWatch.Proofs.Wire.Command
import ChainWatch.Proofs.Wire.Reading
import ChainWatch.Proofs.Wire.Rewording
import ChainWatch.Proofs.Http.Resolution
import ChainWatch.Proofs.Service.Exchange
