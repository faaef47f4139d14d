/-!
# Ticks

A **tick** is a point on a microsecond timeline that starts over after `2 ^ 32` of them, some
71 minutes. Two ticks have no order of their own: the only way to compare them is the
distance from one to the other, which stays right across the end of the range.

* `Tick.advance` and `Tick.elapsedSince` undo each other
  (`elapsedSince_advance`, `advance_elapsedSince`).
* Both wrap: their values are sums and differences modulo `2 ^ 32`
  (`toNat_advance`, `toNat_elapsedSince`).
-/

namespace CoopScheduler

/-- A point on the wrapping microsecond timeline. -/
structure Tick where
  /-- Microseconds since the origin, modulo `2 ^ 32`. -/
  micros : UInt32
deriving DecidableEq

namespace Tick

/-- The origin of the timeline. -/
def zero : Tick := ⟨0⟩

/-- The tick `micros` microseconds later. -/
def advance (t : Tick) (micros : UInt32) : Tick :=
  ⟨t.micros + micros⟩

/-- Microseconds from `reference` forward to `t`. -/
def elapsedSince (t reference : Tick) : UInt32 :=
  t.micros - reference.micros

/-- A tick is written as its count of microseconds with the unit `us`. -/
def text (t : Tick) : String :=
  s!"{t.micros.toNat}us"

@[simp]
theorem elapsedSince_self (t : Tick) : t.elapsedSince t = 0 :=
  UInt32.sub_self _

@[simp]
theorem elapsedSince_advance (t : Tick) (d : UInt32) : (t.advance d).elapsedSince t = d := by
  simp only [advance, elapsedSince]
  rw [UInt32.add_comm, UInt32.add_sub_cancel]

@[simp]
theorem advance_elapsedSince (t reference : Tick) :
    reference.advance (t.elapsedSince reference) = t := by
  cases t
  simp only [advance, elapsedSince, mk.injEq]
  rw [UInt32.add_comm, UInt32.sub_add_cancel]

theorem toNat_advance (t : Tick) (d : UInt32) :
    (t.advance d).micros.toNat = (t.micros.toNat + d.toNat) % UInt32.size :=
  UInt32.toNat_add _ _

theorem toNat_elapsedSince (t reference : Tick) :
    (t.elapsedSince reference).toNat
      = (UInt32.size - reference.micros.toNat + t.micros.toNat) % UInt32.size :=
  UInt32.toNat_sub _ _

end Tick

end CoopScheduler
