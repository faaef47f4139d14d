import CoopScheduler.Duration
import CoopScheduler.Saturating

/-!
# Periods

A **period** is how long a timer task counts before it is due: some 32-bit number of
microseconds, or for ever. A length beyond the 32 bits counts as the longest one there is.
-/

namespace CoopScheduler

/-- How long a timer task counts before it is due. -/
inductive Period where
  /-- The task exists but stays out of the queue. -/
  | never
  /-- The task is due `micros` microseconds after its countdown began. -/
  | after (micros : UInt32)
deriving DecidableEq

namespace Period

/-- A period of `n` milliseconds, or the longest one. -/
def ofMillis (n : Nat) : Period :=
  .after (Saturating.ofNat (n * 1000))

/-- The whole microseconds of a duration, or the longest period. -/
def ofDuration (d : Duration) : Period :=
  .after (Saturating.ofNat d.micros)

/-- The length in microseconds, if there is one. -/
def micros? : Period → Option UInt32
  | never => none
  | after micros => some micros

/-- Whether a task of this period stays out of the queue. -/
def isNever : Period → Bool
  | never => true
  | after _ => false

/-- A period is written `never`, or as its microseconds with the unit `us`. -/
def text : Period → String
  | never => "never"
  | after micros => s!"{micros.toNat}us"

theorem micros?_eq_none_iff {p : Period} : p.micros? = none ↔ p = never := by
  cases p <;> simp [micros?]

theorem micros?_eq_some_iff {p : Period} {n : UInt32} : p.micros? = some n ↔ p = after n := by
  cases p <;> simp [micros?]

end Period

end CoopScheduler
