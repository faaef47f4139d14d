import CoopScheduler.Proofs.Freshness

/-!
# Requests stay with their task

A request about a task names it by a handle (`Operation.target?`). Whatever it does, it does to this
task.

* `State.Beside`: what two states have in common apart from one task. The sections on timers and
  on events are put together from parts that each leave all other tasks alone, and so do they
  (`Scheduler.perform_beside`).
* `Scheduler.perform_of_absent`: with a handle of another scheduler, or of a task that does not
  exist, a request does nothing at all.
* `Host.requests_stay_local`: **a request touches only the task that it names**, and none if that
  was freed, whatever has come into its slot since.
-/

namespace CoopScheduler

variable {κ : Type}

namespace TimerQueue

/-- To take a countdown off the queue leaves those of other tasks in their order. -/
theorem filter_erase (q : TimerQueue) (key : Key) {p : Countdown → Bool}
    (hp : ∀ c : Countdown, c.key = key → p c = false) :
    (q.erase key).entries.filter p = q.entries.filter p := by
  obtain ⟨entries⟩ := q
  simp only [erase]
  induction entries with
  | nil => rfl
  | cons c rest ih =>
    by_cases hkey : c.key = key
    · have hout := hp c hkey
      rw [List.eraseP_cons_of_pos (by simpa using hkey), List.filter_cons_of_neg (by simp [hout])]
    · rw [List.eraseP_cons_of_neg (by simpa using hkey), List.filter_cons, List.filter_cons, ih]

/-- To queue a countdown leaves those of other tasks in their order. -/
theorem filter_insert (q : TimerQueue) {c : Countdown} {p : Countdown → Bool} (hp : p c = false) :
    (q.insert c).entries.filter p = q.entries.filter p := by
  rw [insert, List.filter_append, List.filter_cons_of_neg (by simp [hp]), ← List.filter_append,
    List.takeWhile_append_dropWhile]

end TimerQueue

/-- To take an event off the queue leaves the others in their order. -/
theorem EventQueue.filter_erase (q : EventQueue) {key : Key} {p : Key → Bool}
    (hp : p key = false) : (q.erase key).pending.filter p = q.pending.filter p := by
  rw [erase, ← List.erase_filter, List.erase_of_not_mem]
  simp [hp]

namespace State

/-! ### All but one task -/

/-- Apart from one task, the two states have the same tasks, with the same countdowns and the same
pending events in the same order. -/
structure Beside (s s' : State κ) (task : TaskKey) : Prop where
  timers : ∀ key, .timer key ≠ task → s'.timers.get? key = s.timers.get? key
  events : ∀ key, .event key ≠ task → s'.events.get? key = s.events.get? key
  countdowns : s'.timerQueue.entries.filter (fun c => TaskKey.timer c.key ≠ task)
    = s.timerQueue.entries.filter fun c => TaskKey.timer c.key ≠ task
  pending : s'.eventQueue.pending.filter (fun key => TaskKey.event key ≠ task)
    = s.eventQueue.pending.filter fun key => TaskKey.event key ≠ task

variable {s s' s'' : State κ} {task : TaskKey} {key : Key}

theorem Beside.refl (s : State κ) (task : TaskKey) : s.Beside s task :=
  ⟨fun _ _ => rfl, fun _ _ => rfl, rfl, rfl⟩

theorem Beside.trans (h : s.Beside s' task) (h' : s'.Beside s'' task) : s.Beside s'' task where
  timers key hkey := (h'.timers key hkey).trans (h.timers key hkey)
  events key hkey := (h'.events key hkey).trans (h.events key hkey)
  countdowns := h'.countdowns.trans h.countdowns
  pending := h'.pending.trans h.pending

theorem Beside.wakeIf (h : s.Beside s' task) (cause : Bool) :
    s.Beside (s'.wakeIf cause).2 task where
  timers := by simpa using h.timers
  events := by simpa using h.events
  countdowns := by simpa using h.countdowns
  pending := by simpa using h.pending

/-! ### Sections on timers -/

theorem Beside.of_timers {timers : Arena (TimerTask κ)}
    (h : ∀ other, other ≠ key → timers.get? other = s.timers.get? other) :
    s.Beside { s with timers := timers } (.timer key) where
  timers other hother := h other fun heq => hother (congrArg TaskKey.timer heq)
  events _ _ := rfl
  countdowns := rfl
  pending := rfl

theorem beside_modifyTimer (s : State κ) (key : Key) (f : TimerTask κ → TimerTask κ) :
    s.Beside { s with timers := s.timers.modify key f } (.timer key) :=
  .of_timers fun other hne => by rw [Arena.get?_modify, if_neg hne]

theorem beside_freeTimer (s : State κ) (key : Key) :
    s.Beside { s with timers := (s.timers.remove key).2 } (.timer key) :=
  .of_timers fun other hne => by rw [Arena.get?_remove, if_neg hne]

theorem beside_eraseTimer (s : State κ) (key : Key) :
    s.Beside { s with timerQueue := s.timerQueue.erase key } (.timer key) where
  timers _ _ := rfl
  events _ _ := rfl
  countdowns := s.timerQueue.filter_erase key (by rintro c rfl; simp)
  pending := rfl

theorem beside_queueTimer (s : State κ) (key : Key) (origin : Tick) (period : UInt32) :
    s.Beside (s.queueTimer key origin period) (.timer key) :=
  (s.beside_modifyTimer key _).trans
    { timers := fun _ _ => rfl
      events := fun _ _ => rfl
      countdowns := TimerQueue.filter_insert _ (by simp)
      pending := rfl }

theorem beside_removeTimer (s : State κ) (key : Key) :
    s.Beside (s.removeTimer key) (.timer key) := by
  unfold removeTimer
  split
  · exact .refl s _
  · split
    · exact (s.beside_modifyTimer key _).trans (beside_eraseTimer _ key)
    · exact s.beside_modifyTimer key _
    · exact .refl s _

theorem beside_rescheduleTimer {period : Period} {wake : Bool} {now : Tick}
    (h : s.rescheduleTimer key period now = some (wake, s')) : s.Beside s' (.timer key) := by
  obtain ⟨task, updated, -, hupdated, hs'⟩ := rescheduleTimer_cases h
  have hbeside : s.Beside updated (.timer key) :=
    hupdated ▸ (s.beside_removeTimer key).trans (beside_modifyTimer _ key _)
  rcases hs' with ⟨-, rfl⟩ | ⟨micros, -, rfl⟩
  · exact hbeside
  · exact (hbeside.trans (beside_queueTimer ..)).wakeIf true

theorem beside_rearmTimer {wake : Bool} {now : Tick}
    (h : s.rearmTimer key now = some (wake, s')) : s.Beside s' (.timer key) := by
  obtain ⟨-, rfl⟩ | ⟨task, updated, -, -, hupdated, hs'⟩ := rearmTimer_cases h
  · exact .refl _ _
  · have hbeside : s.Beside updated (.timer key) :=
      hupdated ▸ (s.beside_removeTimer key).trans (beside_modifyTimer _ key _)
    rcases hs' with ⟨-, rfl⟩ | ⟨micros, leads, -, rfl⟩
    · exact hbeside
    · exact (hbeside.trans (beside_queueTimer ..)).wakeIf leads

theorem beside_releaseTimer (s : State κ) (key : Key) :
    s.Beside (s.releaseTimer key).2 (.timer key) := by
  unfold releaseTimer
  split
  · exact .refl s _
  · split
    · exact s.beside_modifyTimer key _
    · exact (s.beside_removeTimer key).trans (beside_freeTimer _ key)

/-! ### Sections on events -/

theorem Beside.of_events {events : Arena (EventTask κ)}
    (h : ∀ other, other ≠ key → events.get? other = s.events.get? other) :
    s.Beside { s with events := events } (.event key) where
  timers _ _ := rfl
  events other hother := h other fun heq => hother (congrArg TaskKey.event heq)
  countdowns := rfl
  pending := rfl

theorem beside_modifyEvent (s : State κ) (key : Key) (f : EventTask κ → EventTask κ) :
    s.Beside { s with events := s.events.modify key f } (.event key) :=
  .of_events fun other hne => by rw [Arena.get?_modify, if_neg hne]

theorem beside_freeEvent (s : State κ) (key : Key) :
    s.Beside { s with events := (s.events.remove key).2 } (.event key) :=
  .of_events fun other hne => by rw [Arena.get?_remove, if_neg hne]

theorem beside_eraseEvent (s : State κ) (key : Key) :
    s.Beside { s with eventQueue := s.eventQueue.erase key } (.event key) where
  timers _ _ := rfl
  events _ _ := rfl
  countdowns := rfl
  pending := s.eventQueue.filter_erase (by simp)

theorem beside_pushEvent (s : State κ) (key : Key) :
    s.Beside { s with eventQueue := s.eventQueue.push key } (.event key) where
  timers _ _ := rfl
  events _ _ := rfl
  countdowns := rfl
  pending := by simp [EventQueue.push]

theorem beside_sendEvent (s : State κ) (key : Key) : s.Beside (s.sendEvent key).2 (.event key) := by
  unfold sendEvent
  split
  · exact ((s.beside_modifyEvent key _).trans (beside_pushEvent _ key)).wakeIf true
  · exact .refl s _

theorem beside_releaseEvent (s : State κ) (key : Key) :
    s.Beside (s.releaseEvent key).2 (.event key) := by
  have hremoved : s.Beside (s.removeEvent key) (.event key) := by
    unfold removeEvent
    split
    · exact (s.beside_modifyEvent key _).trans (beside_eraseEvent _ key)
    · exact .refl s _
  unfold releaseEvent
  split
  · exact .refl s _
  · split
    · exact hremoved.trans (beside_modifyEvent _ key _)
    · exact hremoved.trans (beside_freeEvent _ key)

end State

/-! ### Requests -/

/-- The task that a request names, and the scheduler whose task it is to be. -/
def Operation.target? : Operation κ → Option (SchedulerId × TaskKey)
  | .reschedule handle _ | .removeTimer handle | .rearm handle | .releaseTimer handle =>
    some (handle.owner, .timer handle.key)
  | .send handle _ | .releaseEvent handle => some (handle.owner, .event handle.key)
  | .addTimer .. | .createEvent _ => none

namespace Scheduler

variable {op : Operation κ} {owner : SchedulerId} {task : TaskKey}

/-- **A request leaves all tasks alone but the one that it names.** -/
theorem perform_beside (s : Scheduler κ) (htarget : op.target? = some (owner, task)) (now : Tick) :
    s.state.Beside (s.perform op now).2.state task := by
  cases op with
  | addTimer callback period autoRepeat | createEvent callback => cases htarget
  | reschedule handle period =>
    cases htarget
    simp only [perform, reschedule]
    split
    · split
      · exact .refl ..
      · next hresult => exact State.beside_rescheduleTimer hresult
    · exact .refl ..
  | removeTimer handle =>
    cases htarget
    simp only [perform, removeTimer]
    split
    · exact s.state.beside_removeTimer handle.key
    · exact .refl ..
  | rearm handle =>
    cases htarget
    simp only [perform, rearm]
    split
    · split
      · exact .refl ..
      · next hresult => exact State.beside_rearmTimer hresult
    · exact .refl ..
  | releaseTimer handle =>
    cases htarget
    simp only [perform, releaseTimer]
    split
    · exact s.state.beside_releaseTimer handle.key
    · exact .refl ..
  | send handle source =>
    cases htarget
    simp only [perform, send]
    split
    · exact s.state.beside_sendEvent handle.key
    · exact .refl ..
  | releaseEvent handle =>
    cases htarget
    simp only [perform, releaseEvent]
    split
    · exact s.state.beside_releaseEvent handle.key
    · exact .refl ..

/-- **A request does nothing** if its task belongs to another scheduler or does not exist. -/
theorem perform_of_absent (s : Scheduler κ) (htarget : op.target? = some (owner, task))
    (habsent : owner ≠ s.id ∨ s.state.callback? task = none) (now : Tick) :
    s.perform op now = ({}, s) := by
  cases hown : s.owns owner with
  | false => cases op <;> cases htarget <;>
      simp [perform, reschedule, removeTimer, rearm, releaseTimer, send, releaseEvent, hown]
  | true =>
    have hgone : s.state.callback? task = none :=
      habsent.resolve_left (not_not_intro (by simpa [owns] using hown))
    cases op with
    | addTimer callback period autoRepeat | createEvent callback => cases htarget
    | reschedule handle period | removeTimer handle | rearm handle | releaseTimer handle =>
      cases htarget
      have hget : s.state.timers.get? handle.key = none := by simpa [State.callback?] using hgone
      simp [perform, reschedule, removeTimer, rearm, releaseTimer, hown, State.rescheduleTimer,
        State.removeTimer, State.rearmTimer, State.releaseTimer, hget, threadWake]
    | send handle source | releaseEvent handle =>
      cases htarget
      have hget : s.state.events.get? handle.key = none := by simpa [State.callback?] using hgone
      simp [perform, send, releaseEvent, hown, State.sendEvent, State.acceptsSend,
        State.releaseEvent, hget]

end Scheduler

namespace Host

variable {c : Config} {ok : Condition κ} {past : History κ} {s : Host κ} {owner : SchedulerId}
  {task : TaskKey}

/-- A task whose slot was freed does not exist, whatever is in the slot. -/
theorem Run.callback?_eq_none (h : Run c ok past s) (hfreed : task.key ∈ vacated past task)
    (hfew : frees past task < UInt32.size) : s.scheduler.state.callback? task = none := by
  have hgone := (h.taskLedger task).gone hfreed (by rwa [timesFreed_vacated])
  rwa [State.isSome_get?_slots, Option.isSome_eq_false_iff, Option.isNone_iff_eq_none] at hgone

/-- A handle of this owner and this task is as good as none. -/
structure Ignores (s : Host κ) (owner : SchedulerId) (task : TaskKey) : Prop where
  /-- A request leaves the scheduler as it is, and nothing is left to do but to reply that it is
  done. -/
  perform : ∀ {op : Operation κ} (now : Tick), op.target? = some (owner, task) →
    s.scheduler.perform op now = ({}, s.scheduler)
  /-- Hence it is over at once and does not wake the context. -/
  step : ∀ {i readAt : Nat} {op : Operation κ}, s.inFlight[i]? = some (.asked op readAt) →
    op.target? = some (owner, task) →
    s.step (.perform i) = some { s with inFlight := s.inFlight.eraseIdx i }
  timers : ∀ {key}, task = .timer key → s.scheduler.isTimerQueued ⟨owner, key⟩ = false ∧
    s.scheduler.timerDeadline ⟨owner, key⟩ = none
  events : ∀ {key}, task = .event key → s.scheduler.isEventPending ⟨owner, key⟩ = false

theorem ignores_of_absent
    (habsent : owner ≠ s.scheduler.id ∨ s.scheduler.state.callback? task = none) :
    s.Ignores owner task := by
  have hperform {op : Operation κ} (now : Tick) (htarget : op.target? = some (owner, task)) :
      s.scheduler.perform op now = ({}, s.scheduler) :=
    s.scheduler.perform_of_absent htarget habsent now
  refine ⟨hperform, fun {i readAt op} hi htarget => ?_, ?_, ?_⟩
  · simp only [Host.step, hi, performAt, hperform (.ofTime readAt) htarget]
  · rintro key rfl
    rcases habsent with hforeign | hgone
    · simp [Scheduler.isTimerQueued, Scheduler.timerDeadline, Scheduler.owns, hforeign]
    · have hget : s.scheduler.state.timers.get? key = none := by
        simpa [State.callback?] using hgone
      simp [Scheduler.isTimerQueued, Scheduler.timerDeadline, State.isTimerQueued,
        State.timerDeadline, hget]
  · rintro key rfl
    rcases habsent with hforeign | hgone
    · simp [Scheduler.isEventPending, Scheduler.owns, hforeign]
    · have hget : s.scheduler.state.events.get? key = none := by
        simpa [State.callback?] using hgone
      simp [Scheduler.isEventPending, State.isEventPending, hget]

/-- **A request touches only the task that it names.** If that belongs to another scheduler, or its
slot was freed (though fewer than `2 ^ 32` times), then a request does nothing, and questions are
answered as if there was no task. In any case the other tasks keep their records, their countdowns
and pending events, and the order of these. -/
theorem requests_stay_local (h : Run c ok past s) (owner : SchedulerId) (task : TaskKey) :
    (owner ≠ s.scheduler.id ∨
      task.key ∈ vacated past task ∧ frees past task < UInt32.size → s.Ignores owner task) ∧
    ∀ {op : Operation κ} (now : Tick), op.target? = some (owner, task) →
      s.scheduler.state.Beside (s.scheduler.perform op now).2.state task := by
  refine ⟨fun hstale => ignores_of_absent (hstale.imp id ?_),
    fun now htarget => s.scheduler.perform_beside htarget now⟩
  rintro ⟨hfreed, hfew⟩
  exact h.callback?_eq_none hfreed hfew

/-- An event is released, and another one that gets its slot is sent. The handle of the first one
sends nothing and asks in vain, and a release of the second one does not concern the first. -/
theorem requests_stay_local_slot_reused :
    ∃ (past : History Nat) (s : Host Nat), Run {} (fun _ _ _ _ => True) past s ∧
      s.scheduler.isEventPending ⟨⟨0⟩, ⟨0, 1⟩⟩ = true ∧
      s.scheduler.isEventPending ⟨⟨0⟩, ⟨0, 0⟩⟩ = false ∧
      s.scheduler.perform (.send ⟨⟨0⟩, ⟨0, 0⟩⟩ .interrupt) ⟨0⟩ = ({}, s.scheduler) ∧
      s.scheduler.state.Beside
        (s.scheduler.perform (.releaseEvent ⟨⟨0⟩, ⟨0, 1⟩⟩) ⟨0⟩).2.state (.event ⟨0, 1⟩) := by
  obtain ⟨past, s, h, hlength, hvacated, hpending⟩ :
      ∃ (past : History Nat) (s : Host Nat), Run {} (fun _ _ _ _ => True) past s ∧
        past.length = 8 ∧ vacated past (.event ⟨0, 0⟩) = [⟨0, 0⟩] ∧
        s.scheduler.isEventPending ⟨⟨0⟩, ⟨0, 1⟩⟩ = true :=
    ⟨_, _, Run.of_play ⟨0⟩ 0
      [.ask (.createEvent 10), .perform 0, .ask (.releaseEvent ⟨⟨0⟩, ⟨0, 0⟩⟩), .perform 0,
       .ask (.createEvent 20), .perform 0, .ask (.send ⟨⟨0⟩, ⟨0, 1⟩⟩ .thread), .perform 0] rfl, rfl,
     rfl, rfl⟩
  have hfew : frees past (.event ⟨0, 0⟩) < UInt32.size :=
    Nat.lt_of_le_of_lt (frees_le_length past _) (by rw [hlength]; decide)
  have hignores := (requests_stay_local h ⟨0⟩ (.event ⟨0, 0⟩)).1
    (.inr ⟨by simp [hvacated, TaskKey.key], hfew⟩)
  exact ⟨past, s, h, hpending, hignores.events rfl, hignores.perform ⟨0⟩ rfl,
    (requests_stay_local h ⟨0⟩ (.event ⟨0, 1⟩)).2 ⟨0⟩ rfl⟩

end Host

end CoopScheduler
