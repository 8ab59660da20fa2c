import BulkStream.Main
import BulkStream.Peripheral.Bridge
import BulkStream.Rehearsal.Audience
import BulkStream.Rehearsal.Device
import BulkStream.Rehearsal.Timeline
import BulkStream.Proofs.Tally
import BulkStream.Proofs.TextReference
import BulkStream.Proofs.BinaryReference
import BulkStream.Proofs.LinkFrame
import BulkStream.Proofs.Meets
import BulkStream.Proofs.PoolCounts
import BulkStream.Proofs.PoolOperations
import BulkStream.Proofs.StreamSteps
import BulkStream.Proofs.CycleSteps
import BulkStream.Proofs.RunSteps
import BulkStream.Proofs.Custody
import BulkStream.Proofs.SlotOwnership
import BulkStream.Proofs.CallOrder
import BulkStream.Proofs.ByteCount
import BulkStream.Proofs.DrainEnds
import BulkStream.Proofs.DrainAccounts
import BulkStream.Proofs.Verdict
import BulkStream.Proofs.RecordStream
import BulkStream.Proofs.PacketFraming
import BulkStream.Proofs.FifoService
import BulkStream.Proofs.Hosting
import BulkStream.Proofs.Heard
import BulkStream.Proofs.ReadSession
import BulkStream.Proofs.WriteSession
import BulkStream.Proofs.Courses
import BulkStream.Proofs.Turns
import BulkStream.Proofs.Silence
import BulkStream.Proofs.Totals
import BulkStream.Proofs.ReadTotals
import BulkStream.Proofs.WriteTotals
import BulkStream.Proofs.UnreadFindings
import BulkStream.Proofs.Replays
import BulkStream.Proofs.DumpKeeping
import BulkStream.Proofs.CaptureReplay
import BulkStream.Proofs.Vacancy
import BulkStream.Proofs.PoolHistories
import BulkStream.Proofs.Successions
import BulkStream.Proofs.WindDown
import BulkStream.Proofs.CyclePace
import BulkStream.Proofs.Streamed
import BulkStream.Proofs.Delivery
import BulkStream.Proofs.Supply
import BulkStream.Proofs.RecordNumbers
import BulkStream.Proofs.BufferFills
import BulkStream.Proofs.LineGrammar
import BulkStream.Proofs.TextLines
import BulkStream.Proofs.DropDetection
import BulkStream.Proofs.CounterGaps
import BulkStream.Proofs.FifoSteps
import BulkStream.Proofs.PeripheralCalls
import BulkStream.Proofs.PeripheralHistories
import BulkStream.Proofs.StreamCoverage
import BulkStream.Proofs.RecordCuts
import BulkStream.Proofs.Examination
import BulkStream.Proofs.CheckerHistories
import BulkStream.Proofs.HeldBytes
import BulkStream.Proofs.CutStreams
import BulkStream.Proofs.LineEndings
import BulkStream.Proofs.LocalDamage
import BulkStream.Proofs.ReportConsistency
import BulkStream.Proofs.PayloadPlaces
import BulkStream.Proofs.Seconds
import BulkStream.Proofs.Samples
import BulkStream.Proofs.CyclicFill
import BulkStream.Proofs.CaptureOutcome
