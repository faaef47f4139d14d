import CoopScheduler.Arena
import CoopScheduler.Saturating
import CoopScheduler.Tick

/-!
# The timer queue

The countdowns of the queued timer tasks, the next one due in front. Deadlines lie on a
wrapping timeline, so none is before another by itself; a countdown compares a deadline with
its own by distances from its origin. A tick falls at or after the deadline of a countdown
when it is at least one period away from the origin (`Countdown.dueNoLaterThan`).

* A new countdown goes behind every one that is due no later, so equal deadlines keep the
  order in which they were queued (`TimerQueue.insert`).
* `Countdown.remaining` reads a clock against a countdown: zero once the deadline has passed,
  and more than the period if the clock was read before the countdown began.
-/

namespace CoopScheduler

/-- A countdown of a queued timer task. -/
structure Countdown where
  /-- The task. -/
  key : Key
  /-- When the countdown began. -/
  origin : Tick
  /-- How many microseconds it takes. -/
  period : UInt32
deriving DecidableEq

namespace Countdown

/-- When the countdown is over. -/
def deadline (c : Countdown) : Tick :=
  c.origin.advance c.period

/-- A distance beyond this one reads as behind instead of far ahead. -/
def halfRange : UInt32 := 2147483647

/-- Microseconds left at the reading `now`. A reading from before the origin counts as a
countdown that has not begun, not as one that is long over. -/
def remaining (c : Countdown) (now : Tick) : UInt32 :=
  let elapsed := now.elapsedSince c.origin
  if c.period < elapsed ∧ halfRange < elapsed then
    Saturating.add c.period (c.origin.elapsedSince now)
  else
    Saturating.sub c.period elapsed

/-- Whether `tick` falls at or after the deadline. -/
def dueNoLaterThan (c : Countdown) (tick : Tick) : Bool :=
  c.period ≤ tick.elapsedSince c.origin

/-- Each countdown is due at its own deadline. -/
@[simp]
theorem dueNoLaterThan_deadline (c : Countdown) : c.dueNoLaterThan c.deadline = true := by
  simp [dueNoLaterThan, deadline]

/-- At its origin the whole period is left. -/
@[simp]
theorem remaining_origin (c : Countdown) : c.remaining c.origin = c.period := by
  rw [remaining, Tick.elapsedSince_self, if_neg (fun h => absurd h.2 (by decide)),
    ← UInt32.toNat_inj, Saturating.toNat_sub]
  simp

end Countdown

/-- The countdowns of the queued timer tasks, the next one due in front. -/
structure TimerQueue where
  /-- The countdowns in the order in which they are due. -/
  entries : List Countdown := []

namespace TimerQueue

/-- Puts a countdown behind every one that is due no later. -/
def insert (q : TimerQueue) (c : Countdown) : TimerQueue :=
  let due (queued : Countdown) := queued.dueNoLaterThan c.deadline
  ⟨q.entries.takeWhile due ++ c :: q.entries.dropWhile due⟩

/-- Whether a countdown would become the head of the queue. -/
def wouldLead (q : TimerQueue) (c : Countdown) : Bool :=
  match q.entries with
  | [] => true
  | head :: _ => !head.dueNoLaterThan c.deadline

/-- The first countdown of a task. -/
def find? (q : TimerQueue) (key : Key) : Option Countdown :=
  q.entries.find? (·.key = key)

/-- Takes the first countdown of a task off the queue. -/
def erase (q : TimerQueue) (key : Key) : TimerQueue :=
  ⟨q.entries.eraseP (·.key = key)⟩

/-- The next countdown due. -/
def peek? (q : TimerQueue) : Option Countdown :=
  q.entries.head?

/-- Takes the next countdown due off the queue. -/
def pop (q : TimerQueue) : Option Countdown × TimerQueue :=
  match q.entries with
  | [] => (none, q)
  | head :: rest => (some head, ⟨rest⟩)

/-- Microseconds until the next countdown is due, if there is one. -/
def remaining? (q : TimerQueue) (now : Tick) : Option UInt32 :=
  q.peek?.map (·.remaining now)

/-- How many countdowns are queued. -/
def length (q : TimerQueue) : Nat :=
  q.entries.length

/-- Whether each countdown is due no later than the next one. -/
def isSorted (q : TimerQueue) : Bool :=
  (q.entries.zip q.entries.tail).all fun (a, b) => a.dueNoLaterThan b.deadline

/-- The countdown inserted is the head exactly when it was said to become it. -/
theorem peek?_insert (q : TimerQueue) (c : Countdown) :
    (q.insert c).peek? = if q.wouldLead c then some c else q.peek? := by
  rcases q with ⟨_ | ⟨head, rest⟩⟩
  · simp [insert, wouldLead, peek?]
  · cases h : head.dueNoLaterThan c.deadline <;> simp [insert, wouldLead, peek?, h]

/-- An insertion adds one countdown. -/
theorem perm_insert (q : TimerQueue) (c : Countdown) :
    (q.insert c).entries.Perm (c :: q.entries) := by
  refine List.perm_middle.trans ?_
  rw [List.takeWhile_append_dropWhile]

theorem mem_insert {q : TimerQueue} {c d : Countdown} :
    d ∈ (q.insert c).entries ↔ d = c ∨ d ∈ q.entries := by
  rw [(perm_insert q c).mem_iff, List.mem_cons]

@[simp]
theorem length_insert (q : TimerQueue) (c : Countdown) :
    (q.insert c).length = q.length + 1 := by
  simp only [insert, length, List.length_append, List.length_cons, Nat.add_succ]
  rw [← List.length_append, List.takeWhile_append_dropWhile]

end TimerQueue

end CoopScheduler
