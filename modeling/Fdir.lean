import Fdir.Types
import Fdir.FailureQueue
import Fdir.Events
import Fdir.Health
import Fdir.Subsystem
import Fdir.Api
import Fdir.Foundation.Run
import Fdir.Frames
import Fdir.Outcome
import Fdir.Effects
import Fdir.Slots
import Fdir.Orphans
import Fdir.Evolution
import Fdir.Handling
import Fdir.Moves
import Fdir.Budgets
import Fdir.Escalation
import Fdir.Gates
import Fdir.Service
import Fdir.Foundation.Commute
import Fdir.Confluence
import Fdir.Drain
import Fdir.Machine
import Fdir.Sequential
import Fdir.Watch
import Fdir.Bypass
import Fdir.Foundation.Alternate
import Fdir.Latch
import Fdir.Foundation.Fifo
import Fdir.QueueCalls
import Fdir.Staleness
import Fdir.Retry
import Fdir.Acts
import Fdir.Trails
import Fdir.Locking
import Fdir.EventLog
import Fdir.Keys
import Fdir.Replay
import Fdir.Ground
import Fdir.Quarantine
import Fdir.Aftermath
import Fdir.Policy
import Fdir.Scan
import Fdir.InStep
import Fdir.Foundation.Cells
import Fdir.Arrays
import Fdir.InRange
import Fdir.Hooks
import Fdir.Stretches
import Fdir.Rebind
import Fdir.Dialogue
import Fdir.Foundation.Tally
import Fdir.Accounts
import Fdir.Exhaustion
import Fdir.Foundation.Condition
import Fdir.Foundation.Channel
import Fdir.Filecopy.JobQueue
import Fdir.Vigil
import Fdir.Returns
import Fdir.Wear
import Fdir.Containment
import Fdir.Deferral
import Fdir.Settling
import Fdir.Foundation.Wrapped
import Fdir.Timeline
import Fdir.Shares
import Fdir.Isolation
import Fdir.Foundation.Format
import Fdir.Overflow
