import CoopScheduler.Arena

/-!
# The event queue

The event tasks that were sent and have not run yet, first in, first out. The queue has room
for `capacity` of them from the start, and as long as `hasRoom` holds a push needs no more
memory than that, which is what lets interrupt handlers push.
-/

namespace CoopScheduler

/-- Event tasks that wait to run, the oldest first. -/
structure EventQueue where
  /-- How many tasks there is room for. -/
  capacity : Nat
  /-- The tasks that wait. -/
  pending : List Key := []

namespace EventQueue

/-- Whether a push stays within the room there is. -/
def hasRoom (q : EventQueue) : Bool :=
  q.pending.length < q.capacity

/-- Puts a task at the end of the queue. -/
def push (q : EventQueue) (key : Key) : EventQueue :=
  { q with pending := q.pending ++ [key] }

/-- Takes the oldest task off the queue. -/
def pop (q : EventQueue) : Option Key × EventQueue :=
  match q.pending with
  | [] => (none, q)
  | key :: rest => (some key, { q with pending := rest })

/-- Whether a task waits in the queue. -/
def contains (q : EventQueue) (key : Key) : Bool :=
  q.pending.contains key

/-- Takes the first occurrence of a task off the queue. -/
def erase (q : EventQueue) (key : Key) : EventQueue :=
  { q with pending := q.pending.erase key }

/-- How many tasks wait. -/
def length (q : EventQueue) : Nat :=
  q.pending.length

/-- Whether no task waits. -/
def isEmpty (q : EventQueue) : Bool :=
  q.pending.isEmpty

end EventQueue

end CoopScheduler
