import CoopScheduler.Proofs.Requests

/-!
# Sound records of timer tasks

A record is **sound** if its task is running in case it is marked as released
(`TimerTask.Sound`). Each section keeps all records sound, provided that it does not queue a
task that was released while it ran; so do requests (`Scheduler.perform_sound`) and the steps of
a pass (`Scheduler.resume_sound`), and with them each step of a host (`Host.step_sound`).
-/

namespace CoopScheduler

variable {κ : Type}

/-- A task marked as released is running. -/
def TimerTask.Sound (t : TimerTask κ) : Prop :=
  t.released = true → t.phase = .running

/-- Whether a request queues a task that was released while it ran. -/
def Scheduler.revivesReleased (s : Scheduler κ) : Operation κ → Bool
  | .reschedule handle _ | .rearm handle =>
    s.owns handle.owner && (s.state.timers.get? handle.key).any (·.released)
  | _ => false

namespace State

/-- Every record is sound. -/
def Sound (s : State κ) : Prop :=
  s.timers.All TimerTask.Sound

variable {s s' : State κ} {key : Key}

theorem Sound.not_queued (h : s.Sound) {task : TimerTask κ} (hget : s.timers.get? key = some task)
    (hreleased : task.released = true) : task.phase ≠ .queued := by
  rw [h hget hreleased]
  exact nofun

theorem Sound.modify {f : TimerTask κ → TimerTask κ} (h : s.Sound) (key : Key)
    (hf : ∀ t, s.timers.get? key = some t → t.Sound → (f t).Sound) :
    Sound { s with timers := s.timers.modify key f } :=
  Arena.All.modify h hf

theorem Sound.removeTimer (h : s.Sound) (key : Key) : (s.removeTimer key).Sound := by
  unfold State.removeTimer
  split
  · exact h
  · next task hget =>
    split
    · next hphase =>
      refine h.modify key fun t ht _ hreleased => ?_
      obtain rfl : task = t := Option.some.inj (hget.symm.trans ht)
      exact absurd hphase (h.not_queued hget hreleased)
    · exact h.modify key fun _ _ hsound => hsound
    · exact h

theorem Sound.of_timers_eq (h : s.Sound) (heq : s'.timers = s.timers) : s'.Sound := by
  rw [Sound, heq]
  exact h

/-- The task, if it exists, is not marked as released. -/
def Unreleased (s : State κ) (key : Key) : Prop :=
  ∀ ⦃task⦄, s.timers.get? key = some task → task.released = false

theorem Unreleased.modify {f : TimerTask κ → TimerTask κ} (h : s.Unreleased key)
    (hf : ∀ t, (f t).released = t.released) :
    Unreleased { s with timers := s.timers.modify key f } key := by
  intro task hget
  rw [Arena.get?_modify, if_pos rfl] at hget
  obtain ⟨t, ht, rfl⟩ := Option.map_eq_some_iff.mp hget
  rw [hf]
  exact h ht

theorem Unreleased.removeTimer (h : s.Unreleased key) : (s.removeTimer key).Unreleased key := by
  unfold State.removeTimer
  split
  · exact h
  · split
    · exact h.modify fun _ => rfl
    · exact h.modify fun _ => rfl
    · exact h

theorem Sound.queueTimer (h : s.Sound) (hkey : s.Unreleased key) (origin : Tick)
    (period : UInt32) : (s.queueTimer key origin period).Sound := by
  refine Arena.All.modify h fun t ht _ hreleased => ?_
  rw [hkey ht] at hreleased
  cases hreleased

theorem Sound.addTimer {callback : κ} {period : Period} {autoRepeat wake : Bool} {now : Tick}
    (h : s.Sound) (hadd : s.addTimer callback period autoRepeat now = .ok (key, wake, s')) :
    s'.Sound := by
  obtain ⟨timers, hinsert, hqueued⟩ := addTimer_cases hadd
  have hstored : Sound { s with timers := timers } := Arena.All.insert h hinsert nofun
  rcases hqueued with ⟨-, rfl⟩ | ⟨micros, leads, -, rfl⟩
  · exact hstored
  · have hkey : Unreleased { s with timers := timers } key := by
      intro task hget
      rw [Arena.get?_insert_of_ok hinsert, if_pos rfl] at hget
      cases hget
      rfl
    exact (hstored.queueTimer hkey now micros).of_timers_eq (wakeIf_timers ..)

theorem Sound.rescheduleTimer {period : Period} {wake : Bool} {now : Tick} (h : s.Sound)
    (hkey : s.Unreleased key) (hres : s.rescheduleTimer key period now = some (wake, s')) :
    s'.Sound := by
  obtain ⟨task, updated, -, rfl, hqueued⟩ := rescheduleTimer_cases hres
  have hupdated := (h.removeTimer key).modify key
    (f := fun t => { t with period := period, origin := now }) fun _ _ hsound => hsound
  have hunreleased := hkey.removeTimer.modify
    (f := fun t => { t with period := period, origin := now }) fun _ => rfl
  rcases hqueued with ⟨-, rfl⟩ | ⟨micros, -, rfl⟩
  · exact hupdated
  · exact (hupdated.queueTimer hunreleased now micros).of_timers_eq (wakeIf_timers ..)

theorem Sound.rearmTimer {wake : Bool} {now : Tick} (h : s.Sound) (hkey : s.Unreleased key)
    (hrearm : s.rearmTimer key now = some (wake, s')) : s'.Sound := by
  obtain ⟨-, rfl⟩ | ⟨task, updated, -, -, rfl, hqueued⟩ := rearmTimer_cases hrearm
  · exact h
  · have hupdated := (h.removeTimer key).modify key
      (f := fun t => { t with origin := now }) fun _ _ hsound => hsound
    have hunreleased := hkey.removeTimer.modify (f := fun t => { t with origin := now })
      fun _ => rfl
    rcases hqueued with ⟨-, rfl⟩ | ⟨micros, leads, -, rfl⟩
    · exact hupdated
    · exact (hupdated.queueTimer hunreleased now micros).of_timers_eq (wakeIf_timers ..)

theorem Sound.releaseTimer (h : s.Sound) (key : Key) : (s.releaseTimer key).2.Sound := by
  unfold State.releaseTimer
  split
  · exact h
  · next task hget =>
    split
    · next hphase =>
      refine h.modify key fun t ht _ _ => ?_
      obtain rfl : task = t := Option.some.inj (hget.symm.trans ht)
      exact hphase
    · exact Arena.All.remove (h.removeTimer key)

theorem Sound.startTimer (h : s.Sound) (key : Key) : (s.startTimer key).Sound :=
  Arena.All.modify h fun _ _ _ _ => rfl

theorem Sound.evaluate (h : s.Sound) (c : Config) (now : Tick) : (s.evaluate c now).2.Sound := by
  by_cases hpending : s.eventQueue.pending = []
  · rw [evaluate_of_idle hpending]
    rcases s.popTimer_cases now with ⟨rest, -, heq⟩ | ⟨head, rest, task, -, -, -, heq⟩
    · rw [heq]
      exact h.of_timers_eq rfl
    · rw [heq]
      exact (h.startTimer head.key).of_timers_eq rfl
  · rw [evaluate_of_pending hpending]
    exact h.of_timers_eq rfl

theorem Sound.settleTimer (h : s.Sound) (hkey : s.Unreleased key) (task : TimerTask κ)
    (after : Tick) : (s.settleTimer key task after).Sound := by
  unfold State.settleTimer
  split
  · have hmoved := h.modify key (f := fun t => { t with origin := after })
      fun _ _ hsound => hsound
    exact hmoved.queueTimer (hkey.modify fun _ => rfl) after _
  · refine h.modify key fun t ht _ hreleased => ?_
    rw [hkey ht] at hreleased
    cases hreleased

theorem Sound.finishTimer (h : s.Sound) (key : Key) (callback : Option κ) (after : Tick) :
    (s.finishTimer key callback after).2.Sound := by
  unfold State.finishTimer
  split
  · exact h
  · next task hget =>
    split
    · exact Arena.All.remove h
    · next hreleased =>
      have hkey : s.Unreleased key := fun t ht => by
        obtain rfl : task = t := Option.some.inj (hget.symm.trans ht)
        simpa using hreleased
      have hreturned := h.modify key (f := fun t => { t with callback := callback })
        fun _ _ hsound => hsound
      refine Sound.modify ?_ key fun _ _ hsound => hsound
      split
      · exact hreturned.settleTimer (hkey.modify fun _ => rfl) task after
      · exact hreturned

end State

namespace Scheduler

variable {s : Scheduler κ}

/-- **Requests keep the records sound.** -/
theorem perform_sound (h : s.state.Sound) {op : Operation κ}
    (hunreleased : s.revivesReleased op = false) (now : Tick) :
    (s.perform op now).2.state.Sound := by
  cases op with
  | addTimer callback period autoRepeat =>
    simp only [perform, addTimer]
    cases hadd : s.state.addTimer callback period autoRepeat now with
    | error refusal => cases refusal <;> exact h
    | ok stored => exact h.addTimer hadd
  | reschedule handle period =>
    simp only [perform, reschedule]
    split
    · next howns =>
      have hkey : s.state.Unreleased handle.key := fun task hget => by
        simpa [revivesReleased, howns, hget] using hunreleased
      split
      · exact h
      · next hres => exact h.rescheduleTimer hkey hres
    · exact h
  | removeTimer handle =>
    simp only [perform, removeTimer]
    split
    · exact h.removeTimer handle.key
    · exact h
  | rearm handle =>
    simp only [perform, rearm]
    split
    · next howns =>
      have hkey : s.state.Unreleased handle.key := fun task hget => by
        simpa [revivesReleased, howns, hget] using hunreleased
      split
      · exact h
      · next hrearm => exact h.rearmTimer hkey hrearm
    · exact h
  | releaseTimer handle =>
    simp only [perform, releaseTimer]
    split
    · exact h.releaseTimer handle.key
    · exact h
  | createEvent callback => exact h.of_timers_eq (s.createEvent_timersKept callback).timers_eq
  | send handle source => exact h.of_timers_eq (s.send_timersKept handle source).timers_eq
  | releaseEvent handle => exact h.of_timers_eq (s.releaseEvent_timersKept handle).timers_eq

/-- **Passes keep the records sound.** -/
theorem resume_sound (h : s.state.Sound) (activation : Activation κ) :
    (s.resume activation).2.state.Sound := by
  cases activation with
  | drain events =>
    rw [resume_drain_state]
    exact h.of_timers_eq (State.popEvent_timersKept _).timers_eq
  | eventReturned events key callback =>
    exact h.of_timers_eq (State.finishEvent_timersKept ..).timers_eq
  | evaluate events now =>
    rw [resume_evaluate_state]
    exact h.evaluate s.config now
  | timerReturned events key callback => exact h
  | settle events key callback after => exact h.finishTimer key callback after
  | woken events wait => exact h.of_timers_eq rfl
  | ended pass => exact h

end Scheduler

namespace Host

/-- No task is queued again once it was released in its own callback. -/
abbrev Unrevived : Condition κ :=
  fun _ s m _ => ∀ request ∈ s.performed? m, s.scheduler.revivesReleased request.1 = false

theorem step_sound {s s' : Host κ} {m : Move κ} (h : s.step m = some s')
    (hsound : s.scheduler.state.Sound)
    (hok : ∀ request ∈ s.performed? m, s.scheduler.revivesReleased request.1 = false) :
    s'.scheduler.state.Sound := by
  rcases step_scheduler h with ⟨op, readAt, hperformed, -, heq⟩ | ⟨activation, readAt, -, -, heq⟩ |
    ⟨-, -, heq⟩
  · rw [heq]
    exact Scheduler.perform_sound hsound (hok _ hperformed) _
  · rw [heq]
    exact Scheduler.resume_sound hsound activation
  · rw [heq]
    exact hsound

end Host

end CoopScheduler
