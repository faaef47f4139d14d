import CoopScheduler.Proofs.Passes
import CoopScheduler.Proofs.Pending
import CoopScheduler.Proofs.TimerRecords

/-!
# Where callbacks are

The callback of a task is in the slot of the task (`State.callback?`), or it is **out** with a pass
that has taken the task off its queue and not put it back yet (`Host.out`). A task can be taken
again while its callback is out, so the passes in progress may have several activations of one
task: its **stack** (`Host.stack`).

* `Scheduler.perform_handling`: a request gives a callback to a new task, has it refused, frees a
  task, or leaves all callbacks where they are.
* `Host.step_handling`: **all that a step may do with the callback of a task**, by one constructor
  of `Host.Handling` for each way: what the slot and the stack of the task are before and after, and
  which callback was registered for the task or dropped.
* `Host.step_returning`: what becomes of the callback that an activation has.
-/

namespace CoopScheduler

variable {κ : Type}

/-- Addresses a task of either kind. -/
inductive TaskKey where
  | event (key : Key)
  | timer (key : Key)
deriving DecidableEq

/-- What belongs to a task, out of something that belongs to some task. -/
def TaskKey.own? {α : Type} (task : TaskKey) (entry : TaskKey × α) : Option α :=
  if entry.1 = task then some entry.2 else none

@[simp]
theorem TaskKey.own?_self {α : Type} (task : TaskKey) (a : α) : task.own? (task, a) = some a :=
  if_pos rfl

theorem TaskKey.own?_of_ne {α : Type} {task other : TaskKey} (h : other ≠ task) (a : α) :
    task.own? (other, a) = none :=
  if_neg h

theorem TaskKey.own?_eq_some_iff {α : Type} {task : TaskKey} {entry : TaskKey × α} {a : α} :
    task.own? entry = some a ↔ entry = (task, a) := by
  obtain ⟨other, b⟩ := entry
  by_cases h : other = task <;> simp [own?, h]

namespace TimerTask

@[simp]
theorem unqueued_callback (t : TimerTask κ) : t.unqueued.callback = t.callback := by
  unfold unqueued
  cases t.phase <;> rfl

@[simp]
theorem restarted_callback (t : TimerTask κ) (period : Period) (now : Tick) :
    (t.restarted period now).callback = t.callback :=
  t.unqueued_callback

@[simp]
theorem settled_callback (t : TimerTask κ) (callback : Option κ) (after : Tick) :
    (t.settled callback after).callback = callback := by
  unfold settled
  split
  · split <;> rfl
  · rfl

end TimerTask

/-! ### Callbacks that tasks hold -/

namespace State

variable {s s' : State κ} {key : Key} {task : TaskKey} {held : Option (Option κ)}

/-- The callback that a task holds, if the task exists. -/
def callback? (s : State κ) : TaskKey → Option (Option κ)
  | .event key => (s.events.get? key).map (·.callback)
  | .timer key => (s.timers.get? key).map (·.callback)

/-- Whether a task exists and is not marked as released. -/
def unreleased (s : State κ) : TaskKey → Bool
  | .event key => (s.events.get? key).any (!·.released)
  | .timer key => (s.timers.get? key).any (!·.released)

/-- Every task holds in the second state what it held in the first. -/
def SameCallbacks (s s' : State κ) : Prop :=
  ∀ task, s'.callback? task = s.callback? task

/-- The task holds `held` in the second state, and every other task what it held in the first. -/
def SetsCallback (s s' : State κ) (task : TaskKey) (held : Option (Option κ)) : Prop :=
  ∀ other, s'.callback? other = if other = task then held else s.callback? other

theorem SetsCallback.at_task (h : s.SetsCallback s' task held) : s'.callback? task = held := by
  rw [h, if_pos rfl]

theorem SetsCallback.at_other (h : s.SetsCallback s' task held) {other : TaskKey}
    (hne : other ≠ task) : s'.callback? other = s.callback? other := by
  rw [h, if_neg hne]

theorem SetsCallback.same (h : s.SetsCallback s' task held) (hheld : s.callback? task = held) :
    s.SameCallbacks s' := by
  intro other
  rw [h]
  split
  · next heq => rw [heq, hheld]
  · rfl

theorem SetsCallback.of_event {t? : Option (EventTask κ)} (htimers : s'.timers = s.timers)
    (hevents : ∀ other, s'.events.get? other = if other = key then t? else s.events.get? other) :
    s.SetsCallback s' (.event key) (t?.map (·.callback)) := by
  intro other
  cases other with
  | event other =>
    simp only [callback?, hevents, TaskKey.event.injEq]
    split <;> rfl
  | timer other => simp [callback?, htimers]

theorem SetsCallback.of_timer {t? : Option (TimerTask κ)} (hevents : s'.events = s.events)
    (htimers : ∀ other, s'.timers.get? other = if other = key then t? else s.timers.get? other) :
    s.SetsCallback s' (.timer key) (t?.map (·.callback)) := by
  intro other
  cases other with
  | event other => simp [callback?, hevents]
  | timer other =>
    simp only [callback?, htimers, TaskKey.timer.injEq]
    split <;> rfl

theorem sameCallbacks_of_eq (hevents : s'.events = s.events) (htimers : s'.timers = s.timers) :
    s.SameCallbacks s'
  | .event key => by rw [callback?, callback?, hevents]
  | .timer key => by rw [callback?, callback?, htimers]

/-! ### Requests about timers -/

theorem callback?_of_addTimer {callback : κ} {period : Period} {autoRepeat wake : Bool} {now : Tick}
    (h : s.addTimer callback period autoRepeat now = .ok (key, wake, s')) :
    s.callback? (.timer key) = none ∧
      s.SetsCallback s' (.timer key) (some (some callback)) := by
  obtain ⟨timers, hinsert, -⟩ := addTimer_cases h
  refine ⟨by simp [callback?, Arena.get?_eq_none_of_insert hinsert], ?_⟩
  exact .of_timer (addTimer_eventsKept h).events_eq (addTimer_get? h)

theorem insert_of_addTimer_error {callback : κ} {period : Period} {autoRepeat : Bool} {now : Tick}
    {refusal : Arena.Refusal (TimerTask κ)}
    (h : s.addTimer callback period autoRepeat now = .error refusal) :
    s.timers.insert ⟨some callback, period, autoRepeat, now, .inert, false, false⟩
      = .error refusal := by
  unfold addTimer at h
  split at h
  · next hinsert =>
    cases h
    exact hinsert
  · split at h <;> cases h

theorem sameCallbacks_removeTimer (s : State κ) (key : Key) :
    s.SameCallbacks (s.removeTimer key) := by
  have hset := SetsCallback.of_timer (removeTimer_eventsKept s key).events_eq
    (s.removeTimer_get? key)
  exact hset.same (by simp [callback?, Option.map_map, Function.comp_def])

theorem sameCallbacks_rescheduleTimer {period : Period} {wake : Bool} {now : Tick}
    (h : s.rescheduleTimer key period now = some (wake, s')) : s.SameCallbacks s' := by
  obtain ⟨task, hget, hafter⟩ := rescheduleTimer_get? h
  have hset := SetsCallback.of_timer (rescheduleTimer_eventsKept h).events_eq hafter
  exact hset.same (by simp [callback?, hget])

theorem sameCallbacks_rearmTimer {wake : Bool} {now : Tick}
    (h : s.rearmTimer key now = some (wake, s')) : s.SameCallbacks s' := by
  rcases rearmTimer_get? h with ⟨-, htimers⟩ | ⟨task, hget, -, hafter⟩
  · exact sameCallbacks_of_eq (rearmTimer_eventsKept h).events_eq htimers
  · have hset := SetsCallback.of_timer (rearmTimer_eventsKept h).events_eq hafter
    exact hset.same (by simp [callback?, hget])

/-- A release frees its task and hands its callback out, or all callbacks stay where they are. -/
theorem callback?_of_releaseTimer (s : State κ) (key : Key) :
    ((s.releaseTimer key).1 = none ∧ s.SameCallbacks (s.releaseTimer key).2) ∨
      s.callback? (.timer key) = some (s.releaseTimer key).1 ∧
        s.SetsCallback (s.releaseTimer key).2 (.timer key) none := by
  cases hget : s.timers.get? key with
  | none =>
    have hsame : s.releaseTimer key = (none, s) := by simp [releaseTimer, hget]
    rw [hsame]
    exact .inl ⟨rfl, fun _ => rfl⟩
  | some task =>
    have hset := SetsCallback.of_timer (releaseTimer_eventsKept s key).events_eq
      (releaseTimer_get? hget)
    by_cases hphase : task.phase = .running
    · rw [if_pos hphase] at hset
      refine .inl ⟨by simp [releaseTimer, hget, hphase], hset.same ?_⟩
      simp [callback?, hget]
    · rw [if_neg hphase] at hset
      exact .inr ⟨by simp [callback?, releaseTimer, hget, hphase], hset⟩

/-! ### Requests about events -/

theorem callback?_of_createEvent {callback : κ} (h : s.createEvent callback = .ok (key, s')) :
    s.callback? (.event key) = none ∧
      s.SetsCallback s' (.event key) (some (some callback)) := by
  obtain ⟨events, hinsert, rfl⟩ := createEvent_eq h
  have hset : s.SetsCallback { s with events := events } (.event key) _ :=
    .of_event rfl (Arena.get?_insert_of_ok hinsert)
  exact ⟨by simp [callback?, Arena.get?_eq_none_of_insert hinsert], hset⟩

theorem insert_of_createEvent_error {callback : κ} {refusal : Arena.Refusal (EventTask κ)}
    (h : s.createEvent callback = .error refusal) :
    s.events.insert ⟨some callback, false, false, false⟩ = .error refusal := by
  unfold createEvent at h
  cases hinsert : s.events.insert ⟨some callback, false, false, false⟩ with
  | error refused =>
    rw [hinsert] at h
    cases h
    rfl
  | ok stored => simp [hinsert, Except.map] at h

theorem sameCallbacks_sendEvent (s : State κ) (key : Key) :
    s.SameCallbacks (s.sendEvent key).2 := by
  cases haccepts : s.acceptsSend key with
  | false =>
    rw [sendEvent_of_refuses haccepts]
    exact fun _ => rfl
  | true =>
    have hset : s.SetsCallback (s.sendEvent key).2 (.event key) _ :=
      .of_event (sendEvent_timersKept s key).timers_eq fun other => by
        rw [(sendEvent_of_accepts haccepts).2, Arena.get?_modify]
    exact hset.same (by simp [callback?, Option.map_map, Function.comp_def])

/-- A release frees its task and hands its callback out, or all callbacks stay where they are. -/
theorem callback?_of_releaseEvent (s : State κ) (key : Key) :
    ((s.releaseEvent key).1 = none ∧ s.SameCallbacks (s.releaseEvent key).2) ∨
      s.callback? (.event key) = some (s.releaseEvent key).1 ∧
        s.SetsCallback (s.releaseEvent key).2 (.event key) none := by
  cases hget : s.events.get? key with
  | none =>
    have hsame : s.releaseEvent key = (none, s) := by simp [releaseEvent, hget]
    rw [hsame]
    exact .inl ⟨rfl, fun _ => rfl⟩
  | some task =>
    have hset := SetsCallback.of_event (releaseEvent_timersKept s key).timers_eq
      (releaseEvent_get? hget)
    cases hrunning : task.running with
    | true =>
      rw [hrunning, if_pos rfl] at hset
      refine .inl ⟨by simp [releaseEvent, hget, hrunning], hset.same ?_⟩
      simp [callback?, hget]
    | false =>
      rw [hrunning, if_neg Bool.false_ne_true] at hset
      exact .inr ⟨by simp [callback?, releaseEvent, hget, hrunning], hset⟩

/-! ### Callbacks that passes take and put back -/

/-- An event that is popped comes with the callback that its task holds. -/
theorem callback?_of_popEvent {callback : Option κ} (hagree : s.EventsAgree)
    (hpop : s.popEvent = (some (key, callback), s')) :
    s.callback? (.event key) = some callback ∧ s.SetsCallback s' (.event key) (some none) := by
  cases hpending : s.eventQueue.pending with
  | nil => simp [popEvent_of_nil hpending] at hpop
  | cons head rest =>
    obtain ⟨task, hget, heq⟩ := hagree.popEvent_eq hpending
    rw [heq] at hpop
    cases hpop
    have hset : s.SetsCallback (startEvent { s with eventQueue.pending := rest } key)
        (.event key) _ :=
      .of_event rfl fun other => by rw [startEvent, Arena.get?_modify]
    rw [hget] at hset
    exact ⟨by simp [callback?, hget], hset⟩

theorem sameCallbacks_popEvent (hagree : s.EventsAgree) (hpop : s.popEvent = (none, s')) :
    s.SameCallbacks s' := by
  cases hpending : s.eventQueue.pending with
  | nil =>
    rw [popEvent_of_nil hpending] at hpop
    cases hpop
    exact fun _ => rfl
  | cons head rest =>
    obtain ⟨task, hget, heq⟩ := hagree.popEvent_eq hpending
    rw [heq] at hpop
    cases hpop

/-- A timer that is fired comes with the callback that its task holds. -/
theorem callback?_of_evaluate {c : Config} {now : Tick} {callback : Option κ}
    (hdecision : s.evaluate c now = (.fire key callback, s')) :
    s.callback? (.timer key) = some callback ∧ s.SetsCallback s' (.timer key) (some none) := by
  by_cases hpending : s.eventQueue.pending = []
  · rw [evaluate_of_idle hpending] at hdecision
    rcases s.popTimer_cases now with ⟨rest, -, heq⟩ | ⟨head, rest, task, -, -, hget, heq⟩
    · rw [heq] at hdecision
      cases hdecision
    · rw [heq] at hdecision
      cases hdecision
      have hset : s.SetsCallback (startTimer { s with timerQueue := ⟨rest⟩ } head.key)
          (.timer head.key) _ :=
        .of_timer rfl fun other => by rw [startTimer, Arena.get?_modify]
      rw [hget] at hset
      exact ⟨by simp [callback?, hget], hset⟩
  · rw [evaluate_of_pending hpending] at hdecision
    cases hdecision

theorem sameCallbacks_evaluate (s : State κ) (c : Config) (now : Tick)
    (hfired : (s.evaluate c now).1.fired? = none) : s.SameCallbacks (s.evaluate c now).2
  | .event key => by rw [callback?, callback?, (evaluate_events s c now).1]
  | .timer key => by simp [callback?, evaluate_get?, hfired]

/-- An event has its callback again once it has run, unless it was released meanwhile. -/
theorem callback?_of_finishEvent (s : State κ) (key : Key) (callback : Option κ) :
    s.SetsCallback (s.finishEvent key callback).2 (.event key)
        (if s.unreleased (.event key) then some callback else none) ∧
      (s.finishEvent key callback).1
        = if s.unreleased (.event key) then none else callback := by
  cases hget : s.events.get? key with
  | none =>
    have hsame : s.finishEvent key callback = (callback, s) := by simp [finishEvent, hget]
    have hgone : s.unreleased (.event key) = false := by simp [unreleased, hget]
    rw [hsame, hgone]
    refine ⟨fun other => ?_, rfl⟩
    split
    · next heq => simp [heq, callback?, hget]
    · rfl
  | some task =>
    have hset := SetsCallback.of_event (finishEvent_timersKept s key callback).timers_eq
      (finishEvent_get? hget callback)
    cases hreleased : task.released with
    | true =>
      have hgone : s.unreleased (.event key) = false := by simp [unreleased, hget, hreleased]
      rw [hreleased] at hset
      rw [hgone]
      exact ⟨hset, by simp [finishEvent, hget, hreleased]⟩
    | false =>
      have hkept : s.unreleased (.event key) = true := by simp [unreleased, hget, hreleased]
      rw [hreleased] at hset
      rw [hkept]
      exact ⟨hset, by simp [finishEvent, hget, hreleased]⟩

/-- A timer has its callback again once it has run, unless it was released meanwhile. -/
theorem callback?_of_finishTimer (s : State κ) (key : Key) (callback : Option κ) (after : Tick) :
    s.SetsCallback (s.finishTimer key callback after).2 (.timer key)
        (if s.unreleased (.timer key) then some callback else none) ∧
      (s.finishTimer key callback after).1
        = if s.unreleased (.timer key) then none else callback := by
  cases hget : s.timers.get? key with
  | none =>
    have hsame : s.finishTimer key callback after = (callback, s) := by simp [finishTimer, hget]
    have hgone : s.unreleased (.timer key) = false := by simp [unreleased, hget]
    rw [hsame, hgone]
    refine ⟨fun other => ?_, rfl⟩
    split
    · next heq => simp [heq, callback?, hget]
    · rfl
  | some task =>
    have hset := SetsCallback.of_timer (finishTimer_eventsKept s key callback after).events_eq
      (finishTimer_get? hget callback after)
    cases hreleased : task.released with
    | true =>
      have hgone : s.unreleased (.timer key) = false := by simp [unreleased, hget, hreleased]
      rw [hreleased] at hset
      rw [hgone]
      exact ⟨hset, by simp [finishTimer, hget, hreleased]⟩
    | false =>
      have hkept : s.unreleased (.timer key) = true := by simp [unreleased, hget, hreleased]
      rw [hreleased, if_neg Bool.false_ne_true, Option.map_some, TimerTask.settled_callback] at hset
      rw [hkept]
      exact ⟨hset, by simp [finishTimer, hget, hreleased]⟩

end State

/-! ### Requests -/

/-- The callback that a request passes on. -/
def Operation.callback? : Operation κ → Option κ
  | .addTimer callback _ _ | .createEvent callback => some callback
  | _ => none

/-- The task that a request is to free. -/
def Operation.releases? : Operation κ → Option TaskKey
  | .releaseTimer handle => some (.timer handle.key)
  | .releaseEvent handle => some (.event handle.key)
  | _ => none

/-- The new task that the caller of a request is told. -/
def Reply.task? : Reply → Option TaskKey
  | .timer handle => some (.timer handle.key)
  | .event handle => some (.event handle.key)
  | _ => none

namespace Scheduler

/-- The ways in which a request may handle callbacks, if `outcome` comes of it and it leads to the
state `s'`. -/
inductive Handling (s : Scheduler κ) (op : Operation κ) (outcome : Outcome κ) (s' : State κ) :
    Prop where
  | kept (hcallback : op.callback? = none) (hreply : outcome.reply.task? = none)
      (hdropped : outcome.dropped? = none) (hsame : s.state.SameCallbacks s')
  /-- No task is created for the callback. -/
  | refused (callback : κ) (hcallback : op.callback? = some callback)
      (hreleases : op.releases? = none) (hreply : outcome.reply.task? = none)
      (hdropped : outcome.dropped? = some callback) (hsame : s.state.SameCallbacks s')
  | registered (task : TaskKey) (callback : κ) (hcallback : op.callback? = some callback)
      (hreply : outcome.reply.task? = some task) (hdropped : outcome.dropped? = none)
      (hnew : s.state.callback? task = none)
      (hset : s.state.SetsCallback s' task (some (some callback)))
  | freed (task : TaskKey) (hcallback : op.callback? = none) (hreleases : op.releases? = some task)
      (hreply : outcome.reply.task? = none)
      (hheld : s.state.callback? task = some outcome.dropped?)
      (hset : s.state.SetsCallback s' task none)

theorem addTimer_handling (s : Scheduler κ) (callback : κ) (period : Period) (autoRepeat : Bool)
    (now : Tick) :
    s.Handling (.addTimer callback period autoRepeat) (s.addTimer callback period autoRepeat now).1
      (s.addTimer callback period autoRepeat now).2.state := by
  unfold addTimer
  cases hadd : s.state.addTimer callback period autoRepeat now with
  | ok stored =>
    obtain ⟨hnew, hset⟩ := State.callback?_of_addTimer hadd
    exact .registered (.timer stored.1) callback rfl rfl rfl hnew hset
  | error refusal =>
    obtain rfl | rfl := Arena.refusal_of_insert (State.insert_of_addTimer_error hadd) <;>
      exact .refused callback rfl rfl rfl rfl fun _ => rfl

theorem createEvent_handling (s : Scheduler κ) (callback : κ) :
    s.Handling (.createEvent callback) (s.createEvent callback).1
      (s.createEvent callback).2.state := by
  unfold createEvent
  cases hcreate : s.state.createEvent callback with
  | ok stored =>
    obtain ⟨hnew, hset⟩ := State.callback?_of_createEvent hcreate
    exact .registered (.event stored.1) callback rfl rfl rfl hnew hset
  | error refusal =>
    obtain rfl | rfl := Arena.refusal_of_insert (State.insert_of_createEvent_error hcreate) <;>
      exact .refused callback rfl rfl rfl rfl fun _ => rfl

theorem releaseTimer_handling (s : Scheduler κ) (handle : TimerHandle) :
    s.Handling (.releaseTimer handle) (s.releaseTimer handle).1
      (s.releaseTimer handle).2.state := by
  unfold releaseTimer
  split
  · rcases s.state.callback?_of_releaseTimer handle.key with ⟨hdropped, hsame⟩ | ⟨hheld, hset⟩
    · exact .kept rfl rfl hdropped hsame
    · exact .freed (.timer handle.key) rfl rfl rfl hheld hset
  · exact .kept rfl rfl rfl fun _ => rfl

theorem releaseEvent_handling (s : Scheduler κ) (handle : EventHandle) :
    s.Handling (.releaseEvent handle) (s.releaseEvent handle).1
      (s.releaseEvent handle).2.state := by
  unfold releaseEvent
  split
  · rcases s.state.callback?_of_releaseEvent handle.key with ⟨hdropped, hsame⟩ | ⟨hheld, hset⟩
    · exact .kept rfl rfl hdropped hsame
    · exact .freed (.event handle.key) rfl rfl rfl hheld hset
  · exact .kept rfl rfl rfl fun _ => rfl

/-- **All that a request does with callbacks.** -/
theorem perform_handling (s : Scheduler κ) (op : Operation κ) (now : Tick) :
    s.Handling op (s.perform op now).1 (s.perform op now).2.state := by
  cases op with
  | addTimer callback period autoRepeat => exact s.addTimer_handling callback period autoRepeat now
  | reschedule handle period =>
    simp only [perform, reschedule]
    split
    · split
      · exact .kept rfl rfl rfl fun _ => rfl
      · next hresult => exact .kept rfl rfl rfl (State.sameCallbacks_rescheduleTimer hresult)
    · exact .kept rfl rfl rfl fun _ => rfl
  | removeTimer handle =>
    simp only [perform, removeTimer]
    split
    · exact .kept rfl rfl rfl (s.state.sameCallbacks_removeTimer handle.key)
    · exact .kept rfl rfl rfl fun _ => rfl
  | rearm handle =>
    simp only [perform, rearm]
    split
    · split
      · exact .kept rfl rfl rfl fun _ => rfl
      · next hresult => exact .kept rfl rfl rfl (State.sameCallbacks_rearmTimer hresult)
    · exact .kept rfl rfl rfl fun _ => rfl
  | releaseTimer handle => exact s.releaseTimer_handling handle
  | createEvent callback => exact s.createEvent_handling callback
  | send handle source =>
    simp only [perform, send]
    split
    · exact .kept rfl rfl rfl (s.state.sameCallbacks_sendEvent handle.key)
    · exact .kept rfl rfl rfl fun _ => rfl
  | releaseEvent handle => exact s.releaseEvent_handling handle

/-- A callback for which no task is created is refused with an error, as long as the slots are in
order. -/
theorem exists_refused (s : Scheduler κ) (htimers : s.state.timers.shape.Valid)
    (hevents : s.state.events.shape.Valid) {op : Operation κ} {callback : κ} {now : Tick}
    (hcallback : op.callback? = some callback) (hreply : (s.perform op now).1.reply.task? = none) :
    ∃ error, (s.perform op now).1.reply = .refused error := by
  cases op with
  | addTimer callback period autoRepeat =>
    simp only [perform, addTimer] at hreply ⊢
    cases hadd : s.state.addTimer callback period autoRepeat now with
    | ok stored => simp [hadd, Reply.task?] at hreply
    | error refusal =>
      cases htimers.refusal_eq (State.insert_of_addTimer_error hadd)
      exact ⟨_, rfl⟩
  | createEvent callback =>
    simp only [perform, createEvent] at hreply ⊢
    cases hcreate : s.state.createEvent callback with
    | ok stored => simp [hcreate, Reply.task?] at hreply
    | error refusal =>
      cases hevents.refusal_eq (State.insert_of_createEvent_error hcreate)
      exact ⟨_, rfl⟩
  | _ => cases hcallback

end Scheduler

/-! ### Callbacks that are out -/

/-- The task that a pass has taken off its queue and not put back, with the callback it held. -/
def Activation.out? : Activation κ → Option (TaskKey × Option κ)
  | .eventReturned _ key callback => some (.event key, callback)
  | .timerReturned _ key callback | .settle _ key callback _ => some (.timer key, callback)
  | _ => none

/-- The callback that has to be dropped before a pass goes on. -/
def Effect.discarded? : Effect κ → Option κ
  | .discard callback _ => callback
  | _ => none

namespace Host

/-- The task that a pass has taken off its queue and not put back, with the callback it held. -/
def Frame.out? : Frame κ → Option (TaskKey × Option κ)
  | .reading next => (next (.ofTime 0)).out?
  | .parking _ next _ | .ready next _ => next.out?

/-- The tasks that passes in progress have taken off their queues and not put back, each with the
callback it held, the one of the innermost pass first. -/
def out (s : Host κ) : List (TaskKey × Option κ) :=
  s.passes.flatMap (·.out?.toList)

/-- The activations of a task, the innermost first, each by the callback that it has. -/
def stack (s : Host κ) (task : TaskKey) : List (Option κ) :=
  s.out.filterMap task.own?

/-- The task that a move takes off its queue. -/
def taken? (s : Host κ) (m : Move κ) : Option TaskKey :=
  ((s.popped? m).map .event).or ((s.firedKey? m).map .timer)

/-- The task that a move registers, with its callback. -/
def registered? (s : Host κ) (m : Move κ) : Option (TaskKey × κ) :=
  match s.performed? m with
  | some (op, readAt) =>
    (s.scheduler.perform op (.ofTime readAt)).1.reply.task?.bind fun task =>
      op.callback?.map fun callback => (task, callback)
  | none => none

/-- The callback that a move drops. -/
def drops? (s : Host κ) (m : Move κ) : Option κ :=
  match s.performed? m, s.resumed? m with
  | some (op, readAt), _ => (s.scheduler.perform op (.ofTime readAt)).1.dropped?
  | none, some (activation, _) => (s.scheduler.resume activation).1.discarded?
  | none, none => none

/-- The activation that is over when a move is made: its task, which is put back if that is
possible, and the callback that it has. -/
def returning? (s : Host κ) (m : Move κ) : Option (TaskKey × Option κ) :=
  match s.resumed? m with
  | some (.eventReturned _ key callback, _) => some (.event key, callback)
  | some (.settle _ key callback _, _) => some (.timer key, callback)
  | _ => none

/-- The task that a move is to free or to put back. -/
def closes? (s : Host κ) (m : Move κ) : Option TaskKey :=
  match s.performed? m with
  | some (op, _) => op.releases?
  | none => (s.returning? m).map Prod.fst

/-- The task that has lost its callback when a move drops it. -/
def dropped? (s : Host κ) (m : Move κ) : Option (TaskKey × κ) :=
  (s.closes? m).bind fun task => (s.drops? m).map fun callback => (task, callback)

/-- The ways in which a move may handle the callback of a task, by what the slot of the task and its
stack are before and after. -/
inductive Handling (s : Host κ) (m : Move κ) (task : TaskKey) :
    Option (Option κ) → List (Option κ) → Option (Option κ) → List (Option κ) → Prop where
  /-- The move does not concern the task. -/
  | kept (slot : Option (Option κ)) (stack : List (Option κ))
      (hregistered : (s.registered? m).bind task.own? = none)
      (hdropped : (s.dropped? m).bind task.own? = none) : Handling s m task slot stack slot stack
  | registered (callback : κ) (stack : List (Option κ))
      (hregistered : s.registered? m = some (task, callback))
      (hdropped : (s.dropped? m).bind task.own? = none) :
      Handling s m task none stack (some (some callback)) stack
  | freed (callback : Option κ) (stack : List (Option κ))
      (hregistered : (s.registered? m).bind task.own? = none)
      (hdropped : (s.dropped? m).bind task.own? = callback) :
      Handling s m task (some callback) stack none stack
  | taken (callback : Option κ) (stack : List (Option κ)) (htaken : s.taken? m = some task)
      (hregistered : (s.registered? m).bind task.own? = none)
      (hdropped : (s.dropped? m).bind task.own? = none) :
      Handling s m task (some callback) stack (some none) (callback :: stack)
  | putBack (slot : Option (Option κ)) (callback : Option κ) (stack : List (Option κ))
      (hregistered : (s.registered? m).bind task.own? = none)
      (hdropped : (s.dropped? m).bind task.own? = none) :
      Handling s m task slot (callback :: stack) (some callback) stack
  /-- The task was released while it ran. -/
  | lost (slot : Option (Option κ)) (callback : Option κ) (stack : List (Option κ))
      (hregistered : (s.registered? m).bind task.own? = none)
      (hdropped : (s.dropped? m).bind task.own? = callback) :
      Handling s m task slot (callback :: stack) none stack

variable {c : Config} {s s' : Host κ} {m : Move κ} {task other : TaskKey} {callback : Option κ}

theorem mem_stack : callback ∈ s.stack task ↔ (task, callback) ∈ s.out := by
  simp [stack, List.mem_filterMap, TaskKey.own?_eq_some_iff]

theorem stack_ne_nil_iff : s.stack task ≠ [] ↔ task ∈ s.out.map Prod.fst := by
  rw [ne_eq, List.eq_nil_iff_forall_not_mem]
  simp [mem_stack]

/-- A move that leaves all callbacks where they are. -/
private theorem Handling.of_same (hsame : s.scheduler.state.SameCallbacks s'.scheduler.state)
    (hout : s'.out = s.out) (hregistered : s.registered? m = none) (hdropped : s.dropped? m = none)
    (task : TaskKey) :
    s.Handling m task (s.scheduler.state.callback? task) (s.stack task)
      (s'.scheduler.state.callback? task) (s'.stack task) := by
  rw [hsame, stack, stack, hout]
  exact .kept _ _ (by simp [hregistered]) (by simp [hdropped])

/-- A pass takes a task off its queue. -/
private theorem Handling.of_taken (htaken : s.taken? m = some other)
    (hcallback : s.scheduler.state.callback? other = some callback ∧
      s.scheduler.state.SetsCallback s'.scheduler.state other (some none))
    (hout : s'.out = (other, callback) :: s.out) (hregistered : s.registered? m = none)
    (hdropped : s.dropped? m = none) (task : TaskKey) :
    s.Handling m task (s.scheduler.state.callback? task) (s.stack task)
      (s'.scheduler.state.callback? task) (s'.stack task) := by
  obtain ⟨hheld, hset⟩ := hcallback
  by_cases heq : other = task
  · subst heq
    rw [hset.at_task, hheld, stack, stack, hout, List.filterMap_cons, TaskKey.own?_self]
    exact .taken callback _ htaken (by simp [hregistered]) (by simp [hdropped])
  · rw [hset.at_other (Ne.symm heq), stack, stack, hout, List.filterMap_cons,
      TaskKey.own?_of_ne heq]
    exact .kept _ _ (by simp [hregistered]) (by simp [hdropped])

/-- The innermost activation is over. -/
private theorem Handling.of_returned
    (hset : s.scheduler.state.SetsCallback s'.scheduler.state other
      (if s.scheduler.state.unreleased other then some callback else none))
    (hout : s.out = (other, callback) :: s'.out) (hregistered : s.registered? m = none)
    (hdropped : s.dropped? m = if s.scheduler.state.unreleased other then none
      else callback.map fun f => (other, f)) (task : TaskKey) :
    s.Handling m task (s.scheduler.state.callback? task) (s.stack task)
      (s'.scheduler.state.callback? task) (s'.stack task) := by
  by_cases heq : other = task
  · subst heq
    rw [hset.at_task, stack, stack, hout, List.filterMap_cons, TaskKey.own?_self]
    cases hunreleased : s.scheduler.state.unreleased other with
    | true => exact .putBack _ callback _ (by simp [hregistered]) (by simp [hdropped, hunreleased])
    | false =>
      refine .lost _ callback _ (by simp [hregistered]) ?_
      cases callback <;> simp [hdropped, hunreleased]
  · rw [hset.at_other (Ne.symm heq), stack, stack, hout, List.filterMap_cons,
      TaskKey.own?_of_ne heq]
    refine .kept _ _ (by simp [hregistered]) ?_
    rw [hdropped]
    split
    · rfl
    · cases callback
      · rfl
      · exact TaskKey.own?_of_ne heq _

/-! ### Steps -/

/-- **What becomes of a callback that was out**: once its activation is over, its task has it again,
unless that is gone or marked as released; then it is dropped. No other task gets it. -/
theorem step_returning (h : s.step m = some s')
    (hreturning : s.returning? m = some (task, callback)) :
    s.out = (task, callback) :: s'.out ∧
      s.scheduler.state.SetsCallback s'.scheduler.state task
        (if s.scheduler.state.unreleased task then some callback else none) ∧
      s.drops? m = if s.scheduler.state.unreleased task then none else callback := by
  unfold returning? at hreturning
  split at hreturning
  · next events key held readAt hresumed =>
    cases hreturning
    obtain ⟨rfl, rest, hpasses⟩ := resumed?_eq_some hresumed
    obtain ⟨hset, hleftover⟩ := s.scheduler.state.callback?_of_finishEvent key callback
    simp only [step, hpasses, Option.some.injEq] at h
    subst h
    refine ⟨?_, hset, ?_⟩
    · simp [out, hpasses, resumeFrame, Scheduler.resume, framesAfter, Frame.out?, Activation.out?]
    · rw [← hleftover, drops?, hresumed]
      rfl
  · next events key held after readAt hresumed =>
    cases hreturning
    obtain ⟨rfl, rest, hpasses⟩ := resumed?_eq_some hresumed
    obtain ⟨hset, hleftover⟩ := s.scheduler.state.callback?_of_finishTimer key callback after
    simp only [step, hpasses, Option.some.injEq] at h
    subst h
    refine ⟨?_, hset, ?_⟩
    · simp [out, hpasses, resumeFrame, Scheduler.resume, framesAfter, Frame.out?, Activation.out?]
    · rw [← hleftover, drops?, hresumed]
      rfl
  · cases hreturning

/-- A request. -/
private theorem Handling.of_performed {op : Operation κ} {readAt : Nat}
    (hperformed : s.performed? m = some (op, readAt)) (hout : s'.out = s.out)
    (hscheduler : s'.scheduler = (s.scheduler.perform op (.ofTime readAt)).2) (task : TaskKey) :
    s.Handling m task (s.scheduler.state.callback? task) (s.stack task)
      (s'.scheduler.state.callback? task) (s'.stack task) := by
  have hstack : s'.stack task = s.stack task := by rw [stack, stack, hout]
  rw [hstack, hscheduler]
  cases s.scheduler.perform_handling op (.ofTime readAt) with
  | kept hcallback hreply hdropped hsame =>
    rw [hsame]
    exact .kept _ _ (by simp [registered?, hperformed, hreply])
      (by simp [dropped?, drops?, hperformed, hdropped])
  | refused callback hcallback hreleases hreply hdropped hsame =>
    rw [hsame]
    exact .kept _ _ (by simp [registered?, hperformed, hreply])
      (by simp [dropped?, closes?, hperformed, hreleases])
  | registered new callback hcallback hreply hdropped hnew hset =>
    have hregistered : s.registered? m = some (new, callback) := by
      simp [registered?, hperformed, hreply, hcallback]
    have hnone : (s.dropped? m).bind task.own? = none := by
      simp [dropped?, drops?, hperformed, hdropped]
    by_cases heq : new = task
    · subst heq
      rw [hset.at_task, hnew]
      exact .registered callback _ hregistered hnone
    · rw [hset.at_other (Ne.symm heq)]
      refine .kept _ _ ?_ hnone
      rw [hregistered]
      exact TaskKey.own?_of_ne heq _
  | freed gone hcallback hreleases hreply hheld hset =>
    have hregistered : s.registered? m = none := by simp [registered?, hperformed, hreply]
    have hdropped : s.dropped? m
        = (s.scheduler.perform op (.ofTime readAt)).1.dropped?.map fun f => (gone, f) := by
      simp [dropped?, closes?, drops?, hperformed, hreleases]
    by_cases heq : gone = task
    · subst heq
      rw [hset.at_task, hheld]
      refine .freed _ _ (by simp [hregistered]) ?_
      rw [hdropped]
      cases (s.scheduler.perform op (.ofTime readAt)).1.dropped? <;> simp
    · rw [hset.at_other (Ne.symm heq)]
      refine .kept _ _ (by simp [hregistered]) ?_
      rw [hdropped]
      cases (s.scheduler.perform op (.ofTime readAt)).1.dropped? with
      | none => rfl
      | some f => exact TaskKey.own?_of_ne heq f

/-- A step of a pass. -/
private theorem Handling.of_resumed {activation : Activation κ} {readAt : Nat}
    {rest : List (Frame κ)} (hagree : s.scheduler.state.EventsAgree)
    (hpasses : s.passes = .ready activation readAt :: rest) (h : s.step .resume = some s')
    (task : TaskKey) :
    s.Handling .resume task (s.scheduler.state.callback? task) (s.stack task)
      (s'.scheduler.state.callback? task) (s'.stack task) := by
  have hresumed : s.resumed? .resume = some (activation, readAt) := by simp [resumed?, hpasses]
  have hregistered : s.registered? .resume = none := rfl
  cases hreturning : s.returning? .resume with
  | some returning =>
    obtain ⟨other, callback⟩ := returning
    obtain ⟨hout, hset, hdrops⟩ := step_returning h hreturning
    refine .of_returned hset hout hregistered ?_ task
    simp only [dropped?, closes?, performed?, hreturning, hdrops]
    split <;> simp
  | none =>
    have hdropped : s.dropped? .resume = none := by
      simp [dropped?, closes?, performed?, hreturning]
    simp only [step, hpasses, Option.some.injEq] at h
    subst h
    cases activation with
    | drain events =>
      rcases hpop : s.scheduler.state.popEvent with ⟨_ | ⟨key, callback⟩, state⟩
      · refine .of_same ?_ ?_ hregistered hdropped task
        · simpa [resumeFrame, Scheduler.resume, hpop] using State.sameCallbacks_popEvent hagree hpop
        · simp [out, resumeFrame, Scheduler.resume, hpop, hpasses, framesAfter, Frame.out?,
            Activation.out?]
      · have htaken : s.taken? .resume = some (.event key) := by
          simp [taken?, popped?, hresumed, hpop]
        have hcallback := State.callback?_of_popEvent hagree hpop
        refine .of_taken htaken (by simpa [resumeFrame, Scheduler.resume, hpop] using hcallback) ?_
          hregistered hdropped task
        simp [out, resumeFrame, Scheduler.resume, hpop, hpasses, Frame.out?, Activation.out?]
    | evaluate events now =>
      rcases hdecision : s.scheduler.state.evaluate s.scheduler.config now with
        ⟨⟨key, callback⟩ | _ | wait, state⟩
      · have htaken : s.taken? .resume = some (.timer key) := by
          simp [taken?, popped?, hresumed, firedKey?_of_evaluate hresumed, hdecision,
            Decision.fired?]
        have hcallback := State.callback?_of_evaluate hdecision
        refine .of_taken htaken
          (by simpa [resumeFrame, Scheduler.resume, hdecision] using hcallback) ?_
          hregistered hdropped task
        simp [out, resumeFrame, Scheduler.resume, hdecision, hpasses, Frame.out?, Activation.out?]
      all_goals
        have hsame := s.scheduler.state.sameCallbacks_evaluate s.scheduler.config now
          (by simp [hdecision, Decision.fired?])
        rw [hdecision] at hsame
        refine .of_same (by simpa [resumeFrame, Scheduler.resume, hdecision] using hsame) ?_
          hregistered hdropped task
        simp [out, resumeFrame, Scheduler.resume, hdecision, hpasses, framesAfter, Frame.out?,
          Activation.out?]
    | eventReturned _ _ _ | settle _ _ _ _ => simp [returning?, hresumed] at hreturning
    | timerReturned _ _ _ | woken _ _ | ended _ =>
      refine .of_same ?_ ?_ hregistered hdropped task
      · exact fun _ => rfl
      · simp [out, resumeFrame, Scheduler.resume, hpasses, framesAfter, Frame.out?, Activation.out?]

/-- **All that a step does with the callback of a task.** -/
theorem step_handling (hwf : s.WellFormed c) (hagree : s.scheduler.state.EventsAgree)
    (h : s.step m = some s') (task : TaskKey) :
    s.Handling m task (s.scheduler.state.callback? task) (s.stack task)
      (s'.scheduler.state.callback? task) (s'.stack task) := by
  cases Step.of_step h with
  | @perform i op readAt hi =>
    have hperformed : s.performed? (.perform i) = some (op, readAt) := by simp [performed?, hi]
    refine .of_performed hperformed ?_ ?_ task
    · rfl
    · rfl
  | goOn hpasses => exact .of_resumed hagree hpasses h task
  | read hpasses =>
    refine .of_same ?_ ?_ ?_ ?_ task
    · exact fun _ => rfl
    · cases hwf.passes _ (hpasses ▸ List.mem_cons_self) with
      | readEvaluate | readSettle => simp [out, hpasses, Frame.out?, Activation.out?]
    · rfl
    · simp [dropped?, drops?, performed?, resumed?, hpasses]
  | unparked hpasses =>
    refine .of_same ?_ ?_ ?_ ?_ task
    · exact fun _ => rfl
    · simp [out, hpasses, Frame.out?]
    · rfl
    · simp [dropped?, drops?, performed?, resumed?, hpasses]
  | enter =>
    refine .of_same ?_ ?_ rfl rfl task
    · exact fun _ => rfl
    · simp [out, Frame.out?, Activation.start, Activation.out?]
  | _ =>
    refine .of_same ?_ rfl rfl rfl task
    exact fun _ => rfl

end Host

end CoopScheduler
