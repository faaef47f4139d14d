import CoopScheduler.TimerQueue

/-!
# True time

A tick is what a clock shows of a **true time**, a natural number without bound: its remainder
modulo `2 ^ 32` (`Tick.ofTime`). An `Arming` is the start of a countdown on the line of true
times. Its deadline `Arming.due` is a number, and the countdown that the queue gets to see,
`Arming.countdown`, is what is left of it on the wrapping timeline.

Both questions that a queue asks a countdown have exact answers as long as the times involved
are close enough together, however often the clock has wrapped:

* `Arming.dueNoLaterThan_iff`: whether another deadline falls behind this one, if it falls into
  the one turn of the clock that begins with the countdown.
* `Arming.remaining_of_age_le`: how long until the deadline, if the countdown began no more
  than half a turn ago; `Arming.remaining_eq_zero_iff`: when nothing is left.
-/

namespace CoopScheduler

/-- What a clock shows at a true time. -/
def Tick.ofTime (time : Nat) : Tick :=
  ⟨UInt32.ofNat time⟩

@[simp]
theorem Tick.toNat_ofTime (time : Nat) : (ofTime time).micros.toNat = time % UInt32.size :=
  UInt32.toNat_ofNat'

/-- The distance of two ticks is that of the true times, up to whole turns of the clock. -/
theorem Tick.toNat_elapsedSince_ofTime {since now : Nat} (hle : since ≤ now) :
    ((ofTime now).elapsedSince (ofTime since)).toNat = (now - since) % UInt32.size := by
  rw [toNat_elapsedSince, toNat_ofTime, toNat_ofTime, UInt32.size]
  omega

/-- A deadline shows what the clock will show by then. -/
theorem Tick.advance_ofTime (time : Nat) (micros : UInt32) :
    (ofTime time).advance micros = ofTime (time + micros.toNat) := by
  have h : ((ofTime time).advance micros).micros = (ofTime (time + micros.toNat)).micros := by
    rw [← UInt32.toNat_inj, toNat_advance, toNat_ofTime, toNat_ofTime]
    exact Nat.mod_add_mod _ _ _
  rw [← mk.injEq] at h
  exact h

@[simp]
theorem Countdown.toNat_halfRange : halfRange.toNat = 2147483647 :=
  rfl

theorem Countdown.remaining_of_not_stale {c : Countdown} {now : Tick}
    (h : ¬(c.period < now.elapsedSince c.origin ∧ halfRange < now.elapsedSince c.origin)) :
    c.remaining now = Saturating.sub c.period (now.elapsedSince c.origin) :=
  if_neg h

/-- The start of a countdown. -/
structure Arming where
  /-- The task. -/
  key : Key
  /-- The true time of the clock reading from which the countdown runs. -/
  since : Nat
  /-- How many microseconds it takes. -/
  period : UInt32
deriving DecidableEq

namespace Arming

/-- The true deadline. -/
def due (a : Arming) : Nat :=
  a.since + a.period.toNat

/-- What the timer queue is given. -/
def countdown (a : Arming) : Countdown :=
  ⟨a.key, .ofTime a.since, a.period⟩

@[simp]
theorem countdown_key (a : Arming) : a.countdown.key = a.key :=
  rfl

theorem since_le_due (a : Arming) : a.since ≤ a.due :=
  Nat.le_add_right _ _

theorem countdown_deadline (a : Arming) : a.countdown.deadline = .ofTime a.due :=
  Tick.advance_ofTime _ _

/-- Less than a turn of the clock apart, armings of one countdown are one. -/
theorem eq_of_countdown_eq {a b : Arming} (h : a.countdown = b.countdown)
    (hab : a.since < b.since + UInt32.size) (hba : b.since < a.since + UInt32.size) : a = b := by
  obtain ⟨key, since, period⟩ := a
  obtain ⟨key', since', period'⟩ := b
  simp only [countdown, Countdown.mk.injEq] at h
  obtain ⟨rfl, htick, rfl⟩ := h
  have hmod : since % UInt32.size = since' % UInt32.size := by
    rw [← Tick.toNat_ofTime, ← Tick.toNat_ofTime, htick]
  have heq : since = since' := by
    simp only [UInt32.size] at hab hba hmod
    omega
  rw [heq]

/-- Until the clock has made a turn, the distance from the origin is the age. -/
theorem elapsedSince_origin {a : Arming} {now : Nat} (hle : a.since ≤ now)
    (hlt : now < a.since + UInt32.size) :
    ((Tick.ofTime now).elapsedSince a.countdown.origin).toNat = now - a.since := by
  have h : now - a.since < UInt32.size := by omega
  rw [← Nat.mod_eq_of_lt h]
  exact Tick.toNat_elapsedSince_ofTime hle

/-- **The order test is exact** for a deadline within one turn of the clock from the beginning
of the countdown. -/
theorem dueNoLaterThan_iff {q a : Arming} (hle : q.since ≤ a.due)
    (hlt : a.due < q.since + UInt32.size) :
    q.countdown.dueNoLaterThan a.countdown.deadline = true ↔ q.due ≤ a.due := by
  rw [countdown_deadline, Countdown.dueNoLaterThan, decide_eq_true_eq, UInt32.le_iff_toNat_le,
    elapsedSince_origin hle hlt]
  change q.period.toNat ≤ _ ↔ q.since + q.period.toNat ≤ _
  omega

/-- A countdown that began no more than half a turn of the clock ago has as much left as there
is until its deadline. -/
theorem remaining_of_age_le {a : Arming} {now : Nat} (hle : a.since ≤ now)
    (hage : now ≤ a.since + Countdown.halfRange.toNat) :
    (a.countdown.remaining (.ofTime now)).toNat = a.due - now := by
  rw [Countdown.toNat_halfRange] at hage
  have hturn : a.since + 2147483647 < a.since + UInt32.size := Nat.add_lt_add_left (by decide) _
  have helapsed := elapsedSince_origin hle (Nat.lt_of_le_of_lt hage hturn)
  rw [Countdown.remaining_of_not_stale, Saturating.toNat_sub, helapsed]
  · change a.period.toNat - _ = a.since + a.period.toNat - _
    omega
  · rintro ⟨-, hstale⟩
    rw [UInt32.lt_iff_toNat_lt, helapsed, Countdown.toNat_halfRange] at hstale
    omega

/-- A reading less than a quarter of a turn of the clock away from the beginning of a short
countdown, before it or behind it, tells how much is left until the deadline. -/
theorem remaining_of_near {a : Arming} {now : Nat} (hperiod : a.period.toNat < 1073741824)
    (hage : now < a.since + 1073741824) (hstale : a.since < now + 1073741824) :
    (a.countdown.remaining (.ofTime now)).toNat = a.due - now := by
  rcases Nat.lt_or_ge now a.since with hbefore | hafter
  · have hbehind := Tick.toNat_elapsedSince_ofTime (Nat.le_of_lt hbefore)
    have helapsed := Tick.toNat_elapsedSince (.ofTime now) (.ofTime a.since)
    rw [Tick.toNat_ofTime, Tick.toNat_ofTime] at helapsed
    have hdue : a.due = a.since + a.period.toNat := rfl
    simp only [Countdown.remaining, countdown, UInt32.lt_iff_toNat_lt, Countdown.toNat_halfRange,
      UInt32.size] at *
    -- The distance from the origin is that of a reading from the turn before.
    rw [if_pos (by omega), Saturating.toNat_add, Saturating.top]
    omega
  · exact remaining_of_age_le hafter (by rw [Countdown.toNat_halfRange]; omega)

/-- Nothing is left of a countdown at its very deadline, and from then on until half a turn of
the clock after it began. -/
theorem remaining_eq_zero {a : Arming} {now : Nat} (hdue : a.due ≤ now)
    (hage : now = a.due ∨ now ≤ a.since + Countdown.halfRange.toNat) :
    a.countdown.remaining (.ofTime now) = 0 := by
  rw [← UInt32.toNat_inj]
  rcases hage with rfl | hage
  · have hturn : a.due < a.since + UInt32.size := Nat.add_lt_add_left a.period.toNat_lt _
    -- At the deadline the age is the period, whatever that is.
    have helapsed : ((Tick.ofTime a.due).elapsedSince a.countdown.origin).toNat
        = a.countdown.period.toNat :=
      (elapsedSince_origin a.since_le_due hturn).trans (Nat.add_sub_cancel_left _ _)
    rw [Countdown.remaining_of_not_stale, Saturating.toNat_sub, helapsed, Nat.sub_self]
    · rfl
    · rintro ⟨hover, -⟩
      rw [UInt32.lt_iff_toNat_lt, helapsed] at hover
      exact Nat.lt_irrefl _ hover
  · rw [remaining_of_age_le (Nat.le_trans a.since_le_due hdue) hage, Nat.sub_eq_zero_of_le hdue]
    rfl

/-- **When nothing is left** in the half turn of the clock after the deadline: at the very
deadline, and until half a turn after the countdown began. -/
theorem remaining_eq_zero_iff {a : Arming} {now : Nat} (hdue : a.due ≤ now)
    (hlt : now < a.due + 2147483648) :
    a.countdown.remaining (.ofTime now) = 0 ↔
      now = a.due ∨ now ≤ a.since + Countdown.halfRange.toNat := by
  refine ⟨fun hzero => ?_, remaining_eq_zero hdue⟩
  have hperiod := a.period.toNat_lt
  have hsince : a.since + a.period.toNat = a.due := rfl
  have helapsed := Tick.toNat_elapsedSince_ofTime (Nat.le_trans a.since_le_due hdue)
  have hbehind := Tick.toNat_elapsedSince (.ofTime a.since) (.ofTime now)
  rw [Tick.toNat_ofTime, Tick.toNat_ofTime] at hbehind
  rw [← UInt32.toNat_inj, UInt32.toNat_zero, Countdown.remaining] at hzero
  simp only [countdown, UInt32.lt_iff_toNat_lt, Countdown.toNat_halfRange, UInt32.size] at *
  split at hzero
  · -- A reading taken for a stale one leaves the period and more.
    rw [Saturating.toNat_add, Saturating.top] at hzero
    omega
  · rw [Saturating.toNat_sub] at hzero
    omega

end Arming

end CoopScheduler
