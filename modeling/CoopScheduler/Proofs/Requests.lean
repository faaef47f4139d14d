import CoopScheduler.Proofs.Sections

/-!
# What requests and passes do to the timer queue

The laws of the critical sections, carried over to the requests and the steps of a pass that
enter them, and to the steps of a host.

* `Scheduler.perform_timerSection`: which sections on timer tasks there are for a request.
* `Host.step_revised`: as long as the timer queue holds countdowns of queued tasks only, and no
  task that was released is queued, a step ends the countdown of `Host.disarmed?` and starts
  that of `Host.arming?`, and nothing else happens to the queue.
* `Host.step_kept`: in any case a step takes countdowns off the queue (`Host.kept`), and then
  inserts that of `Host.arming?`.
-/

namespace CoopScheduler

variable {κ : Type}

/-- Whether a request is about events. -/
def Operation.onEvents : Operation κ → Bool
  | .createEvent _ | .send .. | .releaseEvent _ => true
  | _ => false

/-- The sections that a request may enter on timer tasks. -/
inductive State.TimerSection (s : State κ) : State κ → Prop where
  | none {s' : State κ} (htimers : s'.timers = s.timers) (hqueue : s'.timerQueue = s.timerQueue) :
      TimerSection s s'
  | addTimer {callback : κ} {period : Period} {autoRepeat wake : Bool} {now : Tick} {key : Key}
      {s' : State κ} (h : s.addTimer callback period autoRepeat now = .ok (key, wake, s')) :
      TimerSection s s'
  | rescheduleTimer {key : Key} {period : Period} {wake : Bool} {now : Tick} {s' : State κ}
      (h : s.rescheduleTimer key period now = some (wake, s')) : TimerSection s s'
  | removeTimer (key : Key) : TimerSection s (s.removeTimer key)
  | rearmTimer {key : Key} {wake : Bool} {now : Tick} {s' : State κ}
      (h : s.rearmTimer key now = some (wake, s')) : TimerSection s s'
  | releaseTimer (key : Key) : TimerSection s (s.releaseTimer key).2

namespace Scheduler

/-! ### Requests -/

section Timers

variable (s : Scheduler κ) (handle : TimerHandle) (since : Nat)

theorem addTimer_revised (callback : κ) (period : Period) (autoRepeat : Bool) :
    s.state.Revised (s.addTimer callback period autoRepeat (.ofTime since)).2.state none
      (s.arming? (.addTimer callback period autoRepeat) since) := by
  cases hadd : s.state.addTimer callback period autoRepeat (.ofTime since) with
  | error refusal =>
    cases refusal <;> cases period <;> simp only [addTimer, arming?, hadd] <;>
      exact .of_timers_eq rfl rfl
  | ok stored =>
    obtain ⟨key, wake, state⟩ := stored
    have hrevised := State.Revised.addTimer hadd
    cases period <;>
      simpa only [addTimer, arming?, hadd, Period.micros?, Option.map_some, Option.map_none]
        using hrevised

theorem reschedule_revised (period : Period) :
    s.state.Revised (s.reschedule handle period (.ofTime since)).2.state
      (s.disarmed? (.reschedule handle period)) (s.arming? (.reschedule handle period) since) := by
  by_cases howns : s.owns handle.owner = true
  · cases hresult : s.state.rescheduleTimer handle.key period (.ofTime since) with
    | none =>
      have hget : s.state.timers.get? handle.key = none := by
        unfold State.rescheduleTimer at hresult
        split at hresult
        · assumption
        · split at hresult <;> cases hresult
      have hqueued : s.state.isTimerQueued handle.key = false := by
        simp [State.isTimerQueued, hget]
      cases period <;> simp only [reschedule, disarmed?, arming?, howns, hresult, hget] <;>
        exact (State.revised_some_iff hqueued).mpr (.of_timers_eq rfl rfl)
    | some result =>
      have hget : (s.state.timers.get? handle.key).isSome = true := by
        unfold State.rescheduleTimer at hresult
        split at hresult
        · cases hresult
        · next hget => rw [hget]; rfl
      have hrevised := State.Revised.rescheduleTimer hresult
      cases period <;>
        simpa [reschedule, disarmed?, arming?, howns, hresult, hget, Period.micros?]
          using hrevised
  · cases period <;> simp only [reschedule, disarmed?, arming?, howns] <;>
      exact .of_timers_eq rfl rfl

theorem removeTimer_revised :
    s.state.Revised (s.removeTimer handle).2.state (s.disarmed? (.removeTimer handle)) none := by
  by_cases howns : s.owns handle.owner = true
  · simpa only [removeTimer, disarmed?, howns, if_true] using State.Revised.removeTimer _ _
  · simp only [removeTimer, disarmed?, howns]
    exact .of_timers_eq rfl rfl

theorem rearm_revised :
    s.state.Revised (s.rearm handle (.ofTime since)).2.state none
      (s.arming? (.rearm handle) since) := by
  by_cases howns : s.owns handle.owner = true
  · cases hresult : s.state.rearmTimer handle.key (.ofTime since) with
    | none =>
      have hqueued := State.rearmTimer_eq_none_iff.mp hresult
      simp only [rearm, arming?, howns, hresult, hqueued]
      exact .of_timers_eq rfl rfl
    | some result =>
      have hqueued : s.state.isTimerQueued handle.key = false := by
        refine Bool.eq_false_iff.mpr fun hqueued => ?_
        simp [State.rearmTimer_eq_none_iff.mpr hqueued] at hresult
      have hrevised := State.Revised.rearmTimer hresult
      simpa only [rearm, arming?, howns, hresult, hqueued, and_self, if_true] using hrevised
  · simp only [rearm, arming?, howns]
    exact .of_timers_eq rfl rfl

theorem releaseTimer_revised :
    s.state.Revised (s.releaseTimer handle).2.state (s.disarmed? (.releaseTimer handle))
      none := by
  by_cases howns : s.owns handle.owner = true
  · simpa only [releaseTimer, disarmed?, howns, if_true] using State.Revised.releaseTimer _ _
  · simp only [releaseTimer, disarmed?, howns]
    exact .of_timers_eq rfl rfl

end Timers

section EventsAlone

variable (s : Scheduler κ) (handle : EventHandle)

theorem createEvent_timersKept (callback : κ) :
    s.state.TimersKept (s.createEvent callback).2.state := by
  cases hcreate : s.state.createEvent callback with
  | error refusal => cases refusal <;> simp only [createEvent, hcreate] <;> exact ⟨rfl, rfl, rfl⟩
  | ok stored => simpa only [createEvent, hcreate] using State.createEvent_timersKept hcreate

theorem createEvent_eventQueue (callback : κ) :
    (s.createEvent callback).2.state.eventQueue = s.state.eventQueue := by
  cases hcreate : s.state.createEvent callback with
  | error refusal => cases refusal <;> simp only [createEvent, hcreate]
  | ok stored =>
    obtain ⟨key, state⟩ := stored
    obtain ⟨events, -, rfl⟩ := State.createEvent_eq hcreate
    simp only [createEvent, hcreate]

theorem send_timersKept (source : WakeSource) :
    s.state.TimersKept (s.send handle source).2.state := by
  unfold send
  split
  · exact State.sendEvent_timersKept _ _
  · exact ⟨rfl, rfl, rfl⟩

theorem releaseEvent_timersKept : s.state.TimersKept (s.releaseEvent handle).2.state := by
  unfold releaseEvent
  split
  · exact State.releaseEvent_timersKept _ _
  · exact ⟨rfl, rfl, rfl⟩

end EventsAlone

/-- **Every request** enters one of the sections on timer tasks, or none of them. -/
theorem perform_timerSection (s : Scheduler κ) (op : Operation κ) (now : Tick) :
    s.state.TimerSection (s.perform op now).2.state := by
  cases op with
  | addTimer callback period autoRepeat =>
    simp only [perform, addTimer]
    cases hadd : s.state.addTimer callback period autoRepeat now with
    | error refusal => cases refusal <;> exact .none rfl rfl
    | ok stored => exact .addTimer hadd
  | reschedule handle period =>
    simp only [perform, reschedule]
    split
    · split
      · exact .none rfl rfl
      · next hresult => exact .rescheduleTimer hresult
    · exact .none rfl rfl
  | removeTimer handle =>
    simp only [perform, removeTimer]
    split
    · exact .removeTimer handle.key
    · exact .none rfl rfl
  | rearm handle =>
    simp only [perform, rearm]
    split
    · split
      · exact .none rfl rfl
      · next hresult => exact .rearmTimer hresult
    · exact .none rfl rfl
  | releaseTimer handle =>
    simp only [perform, releaseTimer]
    split
    · exact .releaseTimer handle.key
    · exact .none rfl rfl
  | createEvent callback =>
    have hkept := s.createEvent_timersKept callback
    exact .none hkept.timers_eq hkept.timerQueue_eq
  | send handle source =>
    have hkept := s.send_timersKept handle source
    exact .none hkept.timers_eq hkept.timerQueue_eq
  | releaseEvent handle =>
    have hkept := s.releaseEvent_timersKept handle
    exact .none hkept.timers_eq hkept.timerQueue_eq

/-- **What a request does to the timer queue.** -/
theorem perform_revised (s : Scheduler κ) (op : Operation κ) (since : Nat) :
    s.state.Revised (s.perform op (.ofTime since)).2.state (s.disarmed? op)
      (s.arming? op since) := by
  cases op with
  | addTimer callback period autoRepeat => exact s.addTimer_revised ..
  | reschedule handle period => exact s.reschedule_revised ..
  | removeTimer handle => exact s.removeTimer_revised ..
  | rearm handle => exact s.rearm_revised ..
  | releaseTimer handle => exact s.releaseTimer_revised ..
  | createEvent callback => exact (s.createEvent_timersKept callback).revised
  | send handle source => exact (s.send_timersKept handle source).revised
  | releaseEvent handle => exact (s.releaseEvent_timersKept handle).revised

section TimersAlone

variable (s : Scheduler κ) (handle : TimerHandle) (now : Tick)

theorem addTimer_eventsKept (callback : κ) (period : Period) (autoRepeat : Bool) :
    s.state.EventsKept (s.addTimer callback period autoRepeat now).2.state := by
  cases hadd : s.state.addTimer callback period autoRepeat now with
  | error refusal => cases refusal <;> simp only [addTimer, hadd] <;> exact ⟨rfl, rfl, rfl⟩
  | ok stored => simpa only [addTimer, hadd] using State.addTimer_eventsKept hadd

theorem reschedule_eventsKept (period : Period) :
    s.state.EventsKept (s.reschedule handle period now).2.state := by
  unfold reschedule
  split
  · split
    · exact ⟨rfl, rfl, rfl⟩
    · next hresult => exact State.rescheduleTimer_eventsKept hresult
  · exact ⟨rfl, rfl, rfl⟩

theorem removeTimer_eventsKept : s.state.EventsKept (s.removeTimer handle).2.state := by
  unfold removeTimer
  split
  · exact State.removeTimer_eventsKept _ _
  · exact ⟨rfl, rfl, rfl⟩

theorem rearm_eventsKept : s.state.EventsKept (s.rearm handle now).2.state := by
  unfold rearm
  split
  · split
    · exact ⟨rfl, rfl, rfl⟩
    · next hresult => exact State.rearmTimer_eventsKept hresult
  · exact ⟨rfl, rfl, rfl⟩

theorem releaseTimer_eventsKept : s.state.EventsKept (s.releaseTimer handle).2.state := by
  unfold releaseTimer
  split
  · exact State.releaseTimer_eventsKept _ _
  · exact ⟨rfl, rfl, rfl⟩

/-- What a request about timers leaves alone. -/
theorem perform_eventsKept {op : Operation κ} (hop : op.onEvents = false) :
    s.state.EventsKept (s.perform op now).2.state := by
  cases op with
  | addTimer callback period autoRepeat =>
    exact s.addTimer_eventsKept now callback period autoRepeat
  | reschedule handle period => exact s.reschedule_eventsKept handle now period
  | removeTimer handle => exact s.removeTimer_eventsKept handle
  | rearm handle => exact s.rearm_eventsKept handle now
  | releaseTimer handle => exact s.releaseTimer_eventsKept handle
  | createEvent callback => cases hop
  | send handle source => cases hop
  | releaseEvent handle => cases hop

end TimersAlone

/-- Requests neither put the context to sleep nor say that it has woken up. -/
theorem perform_sleeping (s : Scheduler κ) (op : Operation κ) (now : Tick) :
    (s.perform op now).2.state.sleeping = s.state.sleeping := by
  cases op with
  | addTimer callback period autoRepeat => exact (s.addTimer_eventsKept ..).sleeping_eq
  | reschedule handle period => exact (s.reschedule_eventsKept ..).sleeping_eq
  | removeTimer handle => exact (s.removeTimer_eventsKept ..).sleeping_eq
  | rearm handle => exact (s.rearm_eventsKept ..).sleeping_eq
  | releaseTimer handle => exact (s.releaseTimer_eventsKept ..).sleeping_eq
  | createEvent callback => exact (s.createEvent_timersKept callback).sleeping_eq
  | send handle source => exact (s.send_timersKept handle source).sleeping_eq
  | releaseEvent handle => exact (s.releaseEvent_timersKept handle).sleeping_eq

/-! ### The countdowns that requests start -/

/-- What is known of a countdown that a request starts: it runs from the reading of the
request, and its task was not queued or is not any more. -/
theorem of_arming? {s : Scheduler κ} {op : Operation κ} {since : Nat} {a : Arming}
    (h : s.arming? op since = some a) :
    a.since = since ∧ s.readsClock op = true ∧
      (s.disarmed? op = some a.key ∨ s.state.isTimerQueued a.key = false) := by
  unfold arming? at h
  split at h
  · next callback micros autoRepeat =>
    split at h
    · next handle hreply =>
      cases h
      refine ⟨rfl, rfl, .inr ?_⟩
      cases hadd : s.state.addTimer callback (.after micros) autoRepeat (.ofTime since) with
      | error refusal => cases refusal <;> simp [addTimer, hadd] at hreply
      | ok stored =>
        simp only [addTimer, hadd, Reply.timer.injEq] at hreply
        subst hreply
        exact State.isTimerQueued_of_addTimer hadd
    · cases h
  · next handle micros =>
    split at h
    · next howns =>
      cases h
      exact ⟨rfl, howns.1, .inl (if_pos howns.1)⟩
    · cases h
  · next handle =>
    split at h
    · next howns =>
      obtain ⟨task, -, hmap⟩ := Option.bind_eq_some_iff.mp h
      obtain ⟨micros, -, rfl⟩ := Option.map_eq_some_iff.mp hmap
      exact ⟨rfl, howns.1, .inr howns.2⟩
    · cases h
  · cases h

/-! ### Steps of a pass -/

@[simp]
theorem resume_drain_state (s : Scheduler κ) (events : Nat) :
    (s.resume (.drain events)).2.state = s.state.popEvent.2 := by
  simp only [resume]
  rcases s.state.popEvent with ⟨_ | ⟨key, callback⟩, state⟩ <;> rfl

@[simp]
theorem resume_evaluate_state (s : Scheduler κ) (events : Nat) (now : Tick) :
    (s.resume (.evaluate events now)).2.state = (s.state.evaluate s.config now).2 := by
  simp only [resume]
  rcases s.state.evaluate s.config now with ⟨_ | _ | _, state⟩ <;> rfl

@[simp]
theorem resume_settle_state (s : Scheduler κ) (events : Nat) (key : Key) (callback : Option κ)
    (after : Tick) :
    (s.resume (.settle events key callback after)).2.state
      = (s.state.finishTimer key callback after).2 :=
  rfl

/-- What a step of a pass other than its decision and the return of a timer does to the timer
queue, which is nothing. -/
theorem resume_revised (s : Scheduler κ) {activation : Activation κ}
    (hevaluate : ∀ events now, activation ≠ .evaluate events now)
    (hsettle : ∀ events key callback after, activation ≠ .settle events key callback after) :
    s.state.Revised (s.resume activation).2.state none none := by
  cases activation with
  | drain events =>
    rw [resume_drain_state]
    exact (State.popEvent_timersKept _).revised
  | eventReturned events key callback => exact (State.finishEvent_timersKept ..).revised
  | evaluate events now => exact absurd rfl (hevaluate events now)
  | timerReturned events key callback => exact .of_timers_eq rfl rfl
  | settle events key callback after => exact absurd rfl (hsettle events key callback after)
  | woken events wait => exact .of_timers_eq rfl rfl
  | ended pass => exact .of_timers_eq rfl rfl

end Scheduler

namespace Host

/-! ### Steps of a host -/

variable {s s' : Host κ} {m : Move κ} {c : Config}

/-- The steps as far as timers are concerned: a request, the decision of a pass, the return of
a timer, and all the others. -/
theorem step_timers (hwf : s.WellFormed c) (h : s.step m = some s') :
    (∃ op readAt, s.performed? m = some (op, readAt) ∧ s.resumed? m = none ∧
      s'.scheduler = (s.scheduler.perform op (.ofTime readAt)).2) ∨
    (∃ events readAt, s.performed? m = none ∧
      s.resumed? m = some (.evaluate events (.ofTime readAt), readAt) ∧
      s'.scheduler.state = (s.scheduler.state.evaluate c (.ofTime readAt)).2) ∨
    (∃ events key callback readAt, s.performed? m = none ∧
      s.resumed? m = some (.settle events key callback (.ofTime readAt), readAt) ∧
      s'.scheduler.state = (s.scheduler.state.finishTimer key callback (.ofTime readAt)).2) ∨
    (s.arming? m = none ∧ s.disarmed? m = none ∧
      s.scheduler.state.Revised s'.scheduler.state none none) := by
  rcases step_scheduler h with ⟨op, readAt, hperformed, hresumed, heq⟩ |
    ⟨activation, readAt, hperformed, hresumed, heq⟩ | ⟨hperformed, hresumed, heq⟩
  · exact .inl ⟨op, readAt, hperformed, hresumed, heq⟩
  · obtain ⟨-, rest, hpasses⟩ := resumed?_eq_some hresumed
    -- The reading of a decision or of a return is in the activation.
    cases hwf.passes _ (hpasses ▸ List.mem_cons_self) with
    | evaluate events _ hread =>
      refine .inr (.inl ⟨events, readAt, hperformed, hresumed, ?_⟩)
      rw [heq, Scheduler.resume_evaluate_state, hwf.config_eq]
    | settle events key callback _ hread =>
      refine .inr (.inr (.inl ⟨events, key, callback, readAt, hperformed, hresumed, ?_⟩))
      rw [heq, Scheduler.resume_settle_state]
    | _ =>
      refine .inr (.inr (.inr ⟨by simp [arming?, hperformed, hresumed],
        by simp [disarmed?, hperformed, hresumed], ?_⟩))
      rw [heq]
      exact s.scheduler.resume_revised (by simp) (by simp)
  · refine .inr (.inr (.inr ⟨by simp [arming?, hperformed, hresumed],
      by simp [disarmed?, hperformed, hresumed], ?_⟩))
    rw [heq]
    exact .of_timers_eq rfl rfl

/-- **What a step does to the timer queue**, if that holds countdowns of queued tasks only and no
task that was released is queued. -/
theorem step_revised (hwf : s.WellFormed c) (h : s.step m = some s')
    (hqueued : ∀ c ∈ s.scheduler.state.timerQueue.entries,
      s.scheduler.state.isTimerQueued c.key = true)
    (hreleased : ∀ key task, s.scheduler.state.timers.get? key = some task →
      task.released = true → task.phase ≠ .queued) :
    s.scheduler.state.Revised s'.scheduler.state (s.disarmed? m) (s.arming? m) := by
  rcases step_timers hwf h with ⟨op, readAt, hperformed, -, heq⟩ |
    ⟨events, readAt, hperformed, hresumed, heq⟩ |
    ⟨events, key, callback, readAt, hperformed, hresumed, heq⟩ | ⟨harming, hdisarmed, hrevised⟩
  · rw [heq]
    simpa only [arming?, disarmed?, hperformed] using s.scheduler.perform_revised op readAt
  · rw [heq]
    simpa only [arming?, disarmed?, hperformed, hresumed, hwf.config_eq]
      using State.Revised.evaluate hqueued c (.ofTime readAt)
  · rw [heq]
    simpa only [arming?, disarmed?, hperformed, hresumed]
      using State.Revised.finishTimer (hreleased key)
  · rwa [harming, hdisarmed]

/-- How many countdowns a move takes off the front of the queue: those that a pass passes over, and
the one that it fires. -/
def takenOff (s : Host κ) (m : Move κ) : Nat :=
  match s.resumed? m with
  | some (.evaluate _ now, _) => s.scheduler.state.timerQueue.length
      - (s.scheduler.state.evaluate s.scheduler.config now).2.timerQueue.length
  | _ => 0

/-- What a move leaves of a list that has an item for each countdown in the queue, in the order of
the queue: a request strikes out the item of one task, and a pass takes items off the front. -/
def kept {α : Type} (s : Host κ) (m : Move κ) (keyOf : α → Key) (l : List α) : List α :=
  match s.performed? m with
  | some (op, _) => s.scheduler.state.strike keyOf l (s.scheduler.disarmed? op)
  | none => l.drop (s.takenOff m)

theorem kept_sublist {α : Type} (s : Host κ) (m : Move κ) (keyOf : α → Key) (l : List α) :
    (s.kept m keyOf l).Sublist l := by
  unfold kept
  split
  · exact State.strike_sublist ..
  · exact List.drop_sublist _ _

/-- What is left of the armings in the queue tells what is left of their countdowns. -/
theorem kept_map (s : Host κ) (m : Move κ) (l : List Arming) :
    s.kept m Countdown.key (l.map Arming.countdown)
      = (s.kept m Arming.key l).map Arming.countdown := by
  unfold kept
  split
  · exact State.strike_map ..
  · exact List.map_drop.symm

/-- A decision takes countdowns off the front of the queue. -/
private theorem step_takenOff (h : s.step m = some s') {events readAt : Nat} {now : Tick}
    (hresumed : s.resumed? m = some (.evaluate events now, readAt)) :
    s.performed? m = none ∧ s'.scheduler.state.timerQueue.entries
      = s.scheduler.state.timerQueue.entries.drop (s.takenOff m) := by
  rcases step_scheduler h with ⟨op, readAt', -, hnone, -⟩ |
    ⟨activation, readAt', hperformed, hsome, heq⟩ | ⟨-, hnone, -⟩
  · cases hresumed.symm.trans hnone
  · cases hresumed.symm.trans hsome
    refine ⟨hperformed, ?_⟩
    rw [heq, Scheduler.resume_evaluate_state]
    simp only [takenOff, hresumed]
    exact List.suffix_iff_eq_drop.mp (State.evaluate_timerQueue ..)
  · cases hresumed.symm.trans hnone

/-- **What a step does to the timer queue** in any case. -/
theorem step_kept (hwf : s.WellFormed c) (h : s.step m = some s') :
    s'.scheduler.state.timerQueue = match s.arming? m with
      | none => ⟨s.kept m Countdown.key s.scheduler.state.timerQueue.entries⟩
      | some a =>
        TimerQueue.insert ⟨s.kept m Countdown.key s.scheduler.state.timerQueue.entries⟩
          a.countdown := by
  by_cases hevaluate : ∃ events now readAt, s.resumed? m = some (.evaluate events now, readAt)
  · obtain ⟨events, now, readAt, hresumed⟩ := hevaluate
    obtain ⟨hperformed, hentries⟩ := step_takenOff h hresumed
    simp only [arming?, kept, hperformed, hresumed, ← hentries]
  have htaken : s.takenOff m = 0 := by
    unfold takenOff
    split
    · next hresumed => exact absurd ⟨_, _, _, hresumed⟩ hevaluate
    · rfl
  rcases step_timers hwf h with ⟨op, readAt, hperformed, -, heq⟩ |
    ⟨events, readAt, -, hresumed, -⟩ |
    ⟨events, key, callback, readAt, hperformed, hresumed, heq⟩ | ⟨harming, hdisarmed, hrevised⟩
  · rw [heq, (s.scheduler.perform_revised op readAt).timerQueue_eq, State.revisedQueue_eq_strike]
    cases harming : s.scheduler.arming? op readAt <;> simp only [arming?, kept, hperformed, harming]
  · exact absurd ⟨_, _, _, hresumed⟩ hevaluate
  · rw [heq, State.finishTimer_timerQueue, State.revisedQueue_eq_strike]
    cases harming : s.scheduler.state.putBack? key readAt <;>
      simp only [arming?, kept, State.strike, hperformed, hresumed, htaken, List.drop_zero, harming]
  · have hkept : s.kept m Countdown.key s.scheduler.state.timerQueue.entries
        = s.scheduler.state.timerQueue.entries := by
      unfold kept
      split
      · next op readAt hperformed =>
        simp only [disarmed?, hperformed] at hdisarmed
        rw [hdisarmed, State.strike]
      · rw [htaken, List.drop_zero]
    rw [harming, hkept]
    exact hrevised.timerQueue_eq

/-- A step takes countdowns off the queue, and inserts one at most. -/
theorem step_entries (hwf : s.WellFormed c) (h : s.step m = some s') :
    ∃ kept, kept.Sublist s.scheduler.state.timerQueue.entries ∧
      s'.scheduler.state.timerQueue = match s.arming? m with
        | none => ⟨kept⟩
        | some a => TimerQueue.insert ⟨kept⟩ a.countdown :=
  ⟨_, kept_sublist .., step_kept hwf h⟩

end Host

end CoopScheduler
