import Intake.Allocator.Basic
import Intake.Allocator.Config
import Intake.Allocator.Segmented
import Intake.Allocator.SingleCounter
import Intake.Claim.Basic
import Intake.Database.MessageRow
import Intake.Database.MessageTable
import Intake.Database.Reply
import Intake.Database.WatermarkTable
import Intake.Failure.Allocation
import Intake.Failure.Save
import Intake.Failure.Services
import Intake.Failure.Transient
import Intake.Hash.Sha256
import Intake.Identity.Identifier
import Intake.Identity.Uuid
import Intake.Json.Records
import Intake.Json.Value
import Intake.Memory.ClaimIndex
import Intake.Memory.CounterCache
import Intake.Memory.Expiring
import Intake.Memory.Ledger
import Intake.Memory.MessageStore
import Intake.Memory.SegmentCache
import Intake.Memory.Table
import Intake.Memory.World
import Intake.Message.Basic
import Intake.Message.Payload
import Intake.Plan.Basic
import Intake.Plan.Retry
import Intake.Plan.Timed
import Intake.Proofs.Concurrency.InTurn
import Intake.Proofs.Concurrency.Schedule
import Intake.Proofs.Concurrency.Site
import Intake.Proofs.Concurrency.Solo
import Intake.Proofs.Concurrency.Trace
import Intake.Proofs.Concurrency.World
import Intake.Proofs.Database.Column
import Intake.Proofs.Database.MessageRow
import Intake.Proofs.Database.Reservation
import Intake.Proofs.Database.WatermarkTable
import Intake.Proofs.Identity.Uuid
import Intake.Proofs.Json.Fields
import Intake.Proofs.Json.Records
import Intake.Proofs.Memory.Alike
import Intake.Proofs.Memory.ClaimIndex
import Intake.Proofs.Memory.ClaimLifecycle
import Intake.Proofs.Memory.CounterCache
import Intake.Proofs.Memory.Expiring
import Intake.Proofs.Memory.Ledger
import Intake.Proofs.Memory.LedgerHistory
import Intake.Proofs.Memory.LockHistory
import Intake.Proofs.Memory.MessageStore
import Intake.Proofs.Memory.Pages
import Intake.Proofs.Memory.Refusals
import Intake.Proofs.Memory.SegmentCache
import Intake.Proofs.Memory.Shelf
import Intake.Proofs.Memory.StoreContents
import Intake.Proofs.Memory.TimedMap
import Intake.Proofs.Memory.World
import Intake.Proofs.Numbering.Accounting
import Intake.Proofs.Numbering.Ascending
import Intake.Proofs.Numbering.Cached
import Intake.Proofs.Numbering.Calls
import Intake.Proofs.Numbering.ColdStart
import Intake.Proofs.Numbering.Contention
import Intake.Proofs.Numbering.CounterReissue
import Intake.Proofs.Numbering.Drawing
import Intake.Proofs.Numbering.Enumeration
import Intake.Proofs.Numbering.Exhaustion
import Intake.Proofs.Numbering.Gapless
import Intake.Proofs.Numbering.HandingOut
import Intake.Proofs.Numbering.OneByOne
import Intake.Proofs.Numbering.Ownership
import Intake.Proofs.Numbering.Reconciled
import Intake.Proofs.Numbering.SeededOnce
import Intake.Proofs.Numbering.Segmented
import Intake.Proofs.Numbering.SegmentedOrder
import Intake.Proofs.Numbering.SegmentedUnique
import Intake.Proofs.Numbering.SingleCounter
import Intake.Proofs.Numbering.Span
import Intake.Proofs.Numbering.Uncontended
import Intake.Proofs.Numbering.Yielding
import Intake.Proofs.Outcome
import Intake.Proofs.Plan.Completion
import Intake.Proofs.Plan.Lockstep
import Intake.Proofs.Plan.Outcome
import Intake.Proofs.Plan.Protocol
import Intake.Proofs.Plan.Timing
import Intake.Proofs.Retry.Attempts
import Intake.Proofs.Retry.Backoff
import Intake.Proofs.Samples
import Intake.Proofs.Save.Account
import Intake.Proofs.Save.Agreement
import Intake.Proofs.Save.Alone
import Intake.Proofs.Save.Bookkeeping
import Intake.Proofs.Save.Calls
import Intake.Proofs.Save.Conversation
import Intake.Proofs.Save.Course
import Intake.Proofs.Save.ExactlyOnce
import Intake.Proofs.Save.Failing
import Intake.Proofs.Save.FatalFailures
import Intake.Proofs.Save.Isolation
import Intake.Proofs.Save.Limits
import Intake.Proofs.Save.Log
import Intake.Proofs.Save.Naming
import Intake.Proofs.Save.Order
import Intake.Proofs.Save.Preparation
import Intake.Proofs.Save.Recovery
import Intake.Proofs.Save.Refinement
import Intake.Proofs.Save.Released
import Intake.Proofs.Save.Resend
import Intake.Proofs.Save.Scope
import Intake.Proofs.Save.Setbacks
import Intake.Proofs.Save.Settled
import Intake.Proofs.Text.Digits
import Intake.Proofs.Text.Trim
import Intake.Proofs.Time.Calendar
import Intake.Proofs.Time.Elapsed
import Intake.Proofs.Time.Instant
import Intake.Proofs.Time.Rfc3339
import Intake.Rehearsal.Call
import Intake.Rehearsal.Method
import Intake.Rehearsal.Session
import Intake.Rehearsal.StandIn
import Intake.Rehearsal.Step
import Intake.Rehearsal.Trial
import Intake.Retry.Policy
import Intake.Save.Claiming
import Intake.Save.Commit
import Intake.Save.Config
import Intake.Sequence.BlockSize
import Intake.Sequence.Grant
import Intake.Sequence.Segment
import Intake.Sequence.Watermarks
import Intake.Service.Request
import Intake.Text.Blank
import Intake.Text.Digits
import Intake.Time.Calendar
import Intake.Time.Duration
import Intake.Time.Instant
import Intake.Time.Rfc3339
import Intake.Word
