import CoopScheduler.Config

/-!
# Room

A scheduler takes the memory of its tasks when it is made, for as many as its limits allow, and
never asks for more. Each arena lies in one block, and no block is larger than
`Room.largestBlock`, so there are limits with which no scheduler can be made.

* `Room.fault?` finds the arenas that no block can hold (`Room.fault?_eq_none_iff`). A smaller
  arena fits where a larger one does (`Room.fault?_eq_none_of_le`).
* `Config.roomFault?` finds the configurations with such limits. Limits of up to `2 ^ 32` tasks
  have room (`Config.roomFault?_eq_none_of_le`).

The queues and the lists of vacant slots take less for each task than its slot does, so they
fit where the slots fit.
-/

namespace CoopScheduler

namespace Room

/-- The most bytes that a block of memory can have: rounded up to whole words of eight bytes,
its size still is a signed number of 64 bits. -/
def largestBlock : Nat :=
  0x7ffffffffffffff8

/-- Bytes of a slot of an arena. The generation and the mark of a vacancy share one word, and
the value follows. -/
def slotBytes (valueBytes : Nat) : Nat :=
  8 + valueBytes

/-- Bytes of a timer task. -/
def timerTaskBytes : Nat :=
  32

/-- Bytes of an event task. -/
def eventTaskBytes : Nat :=
  24

/-- What is wrong with an arena for so many values of so many bytes each. -/
def fault? (capacity valueBytes : Nat) : Option String :=
  if capacity * slotBytes valueBytes ≤ largestBlock then none else some "capacity overflow"

/-- An arena is faultless exactly if one block can hold its slots. -/
theorem fault?_eq_none_iff {capacity valueBytes : Nat} :
    fault? capacity valueBytes = none ↔ capacity * slotBytes valueBytes ≤ largestBlock := by
  unfold fault?
  split <;> simp_all

/-- A smaller arena fits where a larger one does. -/
theorem fault?_eq_none_of_le {capacity capacity' valueBytes : Nat} (hle : capacity' ≤ capacity)
    (h : fault? capacity valueBytes = none) : fault? capacity' valueBytes = none :=
  fault?_eq_none_iff.2 (Nat.le_trans (Nat.mul_le_mul_right _ hle) (fault?_eq_none_iff.1 h))

end Room

namespace Config

/-- What is wrong with limits for which there is no room. -/
def roomFault? (c : Config) : Option String :=
  (Room.fault? c.maxTimerTasks Room.timerTaskBytes).or
    (Room.fault? c.maxEventTasks Room.eventTaskBytes)

/-- There is room exactly if there is room for the timer tasks and for the event tasks. -/
theorem roomFault?_eq_none_iff {c : Config} :
    c.roomFault? = none ↔
      Room.fault? c.maxTimerTasks Room.timerTaskBytes = none ∧
        Room.fault? c.maxEventTasks Room.eventTaskBytes = none :=
  Option.or_eq_none_iff

/-- There is room for as many tasks as the indices of 32 bits can number. -/
theorem roomFault?_eq_none_of_le {c : Config} (htimers : c.maxTimerTasks ≤ UInt32.size)
    (hevents : c.maxEventTasks ≤ UInt32.size) : c.roomFault? = none :=
  roomFault?_eq_none_iff.2
    ⟨Room.fault?_eq_none_of_le htimers (by decide), Room.fault?_eq_none_of_le hevents (by decide)⟩

end Config

end CoopScheduler
