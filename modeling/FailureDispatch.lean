import FailureDispatch.Application.Assembly
import FailureDispatch.Application.LogFilter
import FailureDispatch.Config.Document
import FailureDispatch.Deployment.Quiescence
import FailureDispatch.Proofs.Batch.Formation
import FailureDispatch.Proofs.Batch.Provenance
import FailureDispatch.Proofs.Clearing.Results
import FailureDispatch.Proofs.Clearing.Rounds
import FailureDispatch.Proofs.Clearing.Script
import FailureDispatch.Proofs.Clearing.Verdict
import FailureDispatch.Proofs.Config.Notation
import FailureDispatch.Proofs.Config.Overlay
import FailureDispatch.Proofs.Config.Sections
import FailureDispatch.Proofs.Course.Beside
import FailureDispatch.Proofs.Course.Caller
import FailureDispatch.Proofs.Course.Deed
import FailureDispatch.Proofs.Course.Evolution
import FailureDispatch.Proofs.Course.Labour
import FailureDispatch.Proofs.Course.Line
import FailureDispatch.Proofs.Course.Move
import FailureDispatch.Proofs.Course.Run
import FailureDispatch.Proofs.Course.Sound
import FailureDispatch.Proofs.Course.Visit
import FailureDispatch.Proofs.Course.Worker
import FailureDispatch.Proofs.Custody.Closing
import FailureDispatch.Proofs.Custody.Guarded
import FailureDispatch.Proofs.Custody.Holder
import FailureDispatch.Proofs.Custody.Orphan
import FailureDispatch.Proofs.Custody.Owner
import FailureDispatch.Proofs.Dispatch.Bounds
import FailureDispatch.Proofs.Dispatch.Conformance
import FailureDispatch.Proofs.Dispatch.Order
import FailureDispatch.Proofs.Dispatch.Reference
import FailureDispatch.Proofs.Dispatch.Return
import FailureDispatch.Proofs.Dispatch.Serving
import FailureDispatch.Proofs.Dispatch.Trace
import FailureDispatch.Proofs.Dispatch.Upkeep
import FailureDispatch.Proofs.Drain.Attendance
import FailureDispatch.Proofs.Drain.Claims
import FailureDispatch.Proofs.Drain.Completeness
import FailureDispatch.Proofs.Drain.Count
import FailureDispatch.Proofs.Drain.Following
import FailureDispatch.Proofs.Drain.Hosting
import FailureDispatch.Proofs.Drain.Hush
import FailureDispatch.Proofs.Drain.Oversight
import FailureDispatch.Proofs.Drain.Seat
import FailureDispatch.Proofs.Fairness.Crowd
import FailureDispatch.Proofs.Fairness.Happening
import FailureDispatch.Proofs.Fairness.Lines
import FailureDispatch.Proofs.Fairness.Roles
import FailureDispatch.Proofs.Fairness.Seats
import FailureDispatch.Proofs.Fairness.Service
import FailureDispatch.Proofs.Fairness.Simulation
import FailureDispatch.Proofs.Fairness.Submitters
import FailureDispatch.Proofs.Fairness.Waiting
import FailureDispatch.Proofs.Isolation.Containment
import FailureDispatch.Proofs.Isolation.Kindred
import FailureDispatch.Proofs.Isolation.Lockstep
import FailureDispatch.Proofs.Isolation.Prompt
import FailureDispatch.Proofs.Isolation.RegistrationOrder
import FailureDispatch.Proofs.Isolation.Reordering
import FailureDispatch.Proofs.Isolation.Siblings
import FailureDispatch.Proofs.Isolation.StandIn
import FailureDispatch.Proofs.Isolation.Twins
import FailureDispatch.Proofs.Journal.Own
import FailureDispatch.Proofs.Journal.Threads
import FailureDispatch.Proofs.Ledger.Accounts
import FailureDispatch.Proofs.Ledger.Conservation
import FailureDispatch.Proofs.Life.Assembly
import FailureDispatch.Proofs.Life.Ending
import FailureDispatch.Proofs.Life.Heralds
import FailureDispatch.Proofs.Life.Lifecycle
import FailureDispatch.Proofs.Life.Observers
import FailureDispatch.Proofs.Life.Proclamation
import FailureDispatch.Proofs.Life.Protocol
import FailureDispatch.Proofs.Life.StopAgain
import FailureDispatch.Proofs.Life.Subscribers
import FailureDispatch.Proofs.Loop.Endless
import FailureDispatch.Proofs.Loop.Results
import FailureDispatch.Proofs.Loop.Rounds
import FailureDispatch.Proofs.Loop.Script
import FailureDispatch.Proofs.Loop.Turns
import FailureDispatch.Proofs.Queue.Balance
import FailureDispatch.Proofs.Queue.Seat
import FailureDispatch.Proofs.Queue.Slots
import FailureDispatch.Proofs.Registry.Fallback
import FailureDispatch.Proofs.Registry.Runtime
import FailureDispatch.Proofs.Registry.Session
import FailureDispatch.Proofs.Submission.Accounting
import FailureDispatch.Proofs.Submission.Closed
import FailureDispatch.Proofs.Submission.Exhausted
import FailureDispatch.Proofs.Submission.Trying
import FailureDispatch.Proofs.Submission.Turns
import FailureDispatch.Proofs.Tally.Endings
import FailureDispatch.Proofs.Tally.Handings
import FailureDispatch.Proofs.Tally.Metrics
import FailureDispatch.Proofs.Tally.Outlook
import FailureDispatch.Proofs.Tally.Reckoning
import FailureDispatch.Proofs.Window.Clock
import FailureDispatch.Proofs.Window.Exact
import FailureDispatch.Proofs.Window.Pace
import FailureDispatch.Proofs.Window.Schedule
import FailureDispatch.Proofs.Drain.Shutdown
