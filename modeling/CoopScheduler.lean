import CoopScheduler.Proofs.Agreement
import CoopScheduler.Proofs.Aliasing
import CoopScheduler.Proofs.Arming
import CoopScheduler.Proofs.Delivery
import CoopScheduler.Proofs.EventHistory
import CoopScheduler.Proofs.EventRecords
import CoopScheduler.Proofs.Host
import CoopScheduler.Proofs.Ideal
import CoopScheduler.Proofs.Latest
import CoopScheduler.Proofs.LiveEvents
import CoopScheduler.Proofs.Occupancy
import CoopScheduler.Proofs.Order
import CoopScheduler.Proofs.Overdue
import CoopScheduler.Proofs.Readings
import CoopScheduler.Proofs.Records
import CoopScheduler.Proofs.Releases
import CoopScheduler.Proofs.Requests
import CoopScheduler.Proofs.Sections
import CoopScheduler.Proofs.Timeline
import CoopScheduler.Proofs.TrueTime
import CoopScheduler.Proofs.WakeUp
import CoopScheduler.Simulation.Errand
import CoopScheduler.Proofs.Leftovers
import CoopScheduler.Proofs.Reissue
import CoopScheduler.Proofs.Early
import CoopScheduler.Proofs.Interleaved
import CoopScheduler.Proofs.Pending
import CoopScheduler.Proofs.Countdowns
import CoopScheduler.Proofs.Justified
import CoopScheduler.Proofs.Starvation
import CoopScheduler.Proofs.Dispatches
import CoopScheduler.Proofs.Custody
import CoopScheduler.Proofs.Executions
import CoopScheduler.Proofs.Progress
import CoopScheduler.Proofs.Stopping
import CoopScheduler.Proofs.Rulings
import CoopScheduler.Proofs.Conservation
import CoopScheduler.Proofs.PriorityList
import CoopScheduler.Proofs.Stale
import CoopScheduler.Proofs.FiniteMap
import CoopScheduler.Proofs.Freshness
import CoopScheduler.Proofs.Locality
import CoopScheduler.Proofs.Precedence
import CoopScheduler.Proofs.Refusals
import CoopScheduler.Proofs.Accounts
