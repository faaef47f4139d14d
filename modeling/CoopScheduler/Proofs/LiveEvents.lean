import CoopScheduler.Proofs.EventRecords

/-!
# Live events

An event is **live** if it was created and has not been released since. On any run, nested passes
or not, the live events are those whose tasks exist and bear no mark of a release
(`Host.Run.eventLive_iff`): a run of the event neither frees its task nor brings it back.
-/

namespace CoopScheduler

variable {κ : Type}

namespace State

/-- The event task exists and was not released. -/
def EventLive (s : State κ) (key : Key) : Prop :=
  ∃ task, s.events.get? key = some task ∧ task.released = false

variable {s s' : State κ} {key other : Key}

theorem eventLive_congr (h : s'.events = s.events) : s'.EventLive key ↔ s.EventLive key := by
  rw [EventLive, h, EventLive]

/-- What changes no mark of a release leaves the live events as they are. -/
theorem eventLive_of_modify {f : EventTask κ → EventTask κ}
    (h : s'.events = s.events.modify key f) (hf : ∀ t, (f t).released = t.released) :
    s'.EventLive other ↔ s.EventLive other := by
  rw [EventLive, h, EventLive, Arena.get?_modify]
  by_cases heq : other = key
  · rw [if_pos heq, heq]
    constructor
    · rintro ⟨task, hget, hreleased⟩
      obtain ⟨t, ht, rfl⟩ := Option.map_eq_some_iff.mp hget
      exact ⟨t, ht, by rwa [hf] at hreleased⟩
    · rintro ⟨task, hget, hreleased⟩
      exact ⟨f task, by rw [hget]; rfl, by rwa [hf]⟩
  · rw [if_neg heq]

theorem eventLive_createEvent {callback : κ} (h : s.createEvent callback = .ok (key, s')) :
    s'.EventLive other ↔ other = key ∨ s.EventLive other := by
  obtain ⟨events, hinsert, rfl⟩ := createEvent_eq h
  simp only [EventLive, Arena.get?_insert_of_ok hinsert]
  by_cases heq : other = key <;> simp [heq]

theorem eventLive_sendEvent (s : State κ) (key other : Key) :
    (s.sendEvent key).2.EventLive other ↔ s.EventLive other := by
  cases haccepts : s.acceptsSend key with
  | false => rw [sendEvent_of_refuses haccepts]
  | true => exact eventLive_of_modify (sendEvent_of_accepts haccepts).2 fun _ => rfl

/-- A release ends the life of its event, whether the task runs or not. -/
theorem eventLive_releaseEvent (s : State κ) (key other : Key) :
    (s.releaseEvent key).2.EventLive other ↔ other ≠ key ∧ s.EventLive other := by
  cases hget : s.events.get? key with
  | none =>
    have hsame : s.releaseEvent key = (none, s) := by simp [releaseEvent, hget]
    rw [hsame]
    constructor
    · rintro ⟨task, htask, hreleased⟩
      refine ⟨?_, task, htask, hreleased⟩
      rintro rfl
      rw [hget] at htask
      cases htask
    · exact And.right
  | some task =>
    simp only [EventLive, releaseEvent_get? hget]
    by_cases heq : other = key
    · cases task.running <;> simp [heq]
    · simp [heq]

theorem eventLive_popEvent (s : State κ) (key : Key) :
    s.popEvent.2.EventLive key ↔ s.EventLive key := by
  rw [popEvent]
  generalize s.eventQueue.pending = pending
  induction pending with
  | nil => exact Iff.rfl
  | cons head rest ih =>
    cases hget : s.events.get? head with
    | none => simpa [popEventFrom, hget] using ih
    | some task =>
      rw [popEventFrom, hget]
      exact eventLive_of_modify rfl fun _ => rfl

theorem eventLive_finishEvent (s : State κ) (key : Key) (callback : Option κ) (other : Key) :
    (s.finishEvent key callback).2.EventLive other ↔ s.EventLive other := by
  cases hget : s.events.get? key with
  | none => simp [finishEvent, hget]
  | some task =>
    simp only [EventLive, finishEvent_get? hget]
    by_cases heq : other = key
    · -- A task that is freed was not live any more.
      cases hreleased : task.released <;> simp [heq, hget, hreleased]
    · simp [heq]

end State

namespace Host

/-- The event that a move creates, with its callback. -/
def created? (s : Host κ) (m : Move κ) : Option (Key × κ) :=
  match s.performed? m with
  | some (.createEvent callback, _) =>
    match (s.scheduler.createEvent callback).1.reply with
    | .event handle => some (handle.key, callback)
    | _ => none
  | _ => none

/-- The event that a move releases. -/
def released? (s : Host κ) (m : Move κ) : Option Key :=
  match s.performed? m with
  | some (.releaseEvent handle, _) =>
    if s.scheduler.owns handle.owner = true then some handle.key else none
  | _ => none

/-- An event that was created and has not been released since. -/
def Live (past : History κ) (key : Key) : Prop :=
  ∃ before s m later callback, past = before ++ (s, m) :: later ∧
    s.created? m = some (key, callback) ∧ key ∉ log released? later

variable {c : Config} {ok : Condition κ} {past : History κ} {s s' : Host κ} {m : Move κ}
  {key : Key}

/-- A move makes an event live by creating it, and keeps it so unless it releases it. -/
theorem live_concat : Live (past ++ [(s, m)]) key ↔
    (∃ callback, s.created? m = some (key, callback)) ∨
      Live past key ∧ s.released? m ≠ some key := by
  constructor
  · rintro ⟨before, s₀, m₀, later, callback, heq, hcreated, hlater⟩
    rcases later.eq_nil_or_concat with rfl | ⟨later, step, rfl⟩
    · obtain ⟨rfl, hlast⟩ := List.append_inj' heq rfl
      cases hlast
      exact .inl ⟨callback, hcreated⟩
    · rw [List.concat_eq_append, ← List.cons_append, ← List.append_assoc] at heq
      obtain ⟨rfl, hlast⟩ := List.append_inj' heq rfl
      cases hlast
      rw [List.concat_eq_append, log_concat, List.mem_append, not_or] at hlater
      exact .inr ⟨⟨before, s₀, m₀, later, callback, rfl, hcreated, hlater.1⟩, by
        simpa using hlater.2⟩
  · rintro (⟨callback, hcreated⟩ |
      ⟨⟨before, s₀, m₀, later, callback, rfl, hcreated, hlater⟩, hkept⟩)
    · exact ⟨past, s, m, [], callback, rfl, hcreated, by simp [log]⟩
    · refine ⟨before, s₀, m₀, later ++ [(s, m)], callback, by simp, hcreated, ?_⟩
      rw [log_concat, List.mem_append, not_or]
      exact ⟨hlater, by simpa using hkept⟩

/-- A request to create an event creates one, or changes nothing. -/
theorem created?_cases {callback : κ} {readAt : Nat}
    (hperformed : s.performed? m = some (.createEvent callback, readAt)) :
    (s.created? m = none ∧ (s.scheduler.createEvent callback).2.state = s.scheduler.state) ∨
      ∃ key, s.created? m = some (key, callback) ∧
        s.scheduler.state.createEvent callback
          = .ok (key, (s.scheduler.createEvent callback).2.state) := by
  cases hcreate : s.scheduler.state.createEvent callback with
  | error refusal =>
    cases refusal <;> simp [created?, hperformed, Scheduler.createEvent, hcreate]
  | ok stored =>
    obtain ⟨key, state⟩ := stored
    exact .inr ⟨key, by simp [created?, hperformed, Scheduler.createEvent, hcreate],
      by simp [Scheduler.createEvent, hcreate]⟩

/-- A request about timers neither creates an event nor releases one. -/
theorem created?_released?_of_not_onEvents {op : Operation κ} {readAt : Nat}
    (hperformed : s.performed? m = some (op, readAt)) (hop : op.onEvents = false) :
    s.created? m = none ∧ s.released? m = none := by
  cases op <;> simp_all [Operation.onEvents, created?, released?]

private theorem perform_eventLive {op : Operation κ} {readAt : Nat}
    (hperformed : s.performed? m = some (op, readAt))
    (hscheduler : s'.scheduler = (s.scheduler.perform op (.ofTime readAt)).2) :
    s'.scheduler.state.EventLive key ↔
      (∃ callback, s.created? m = some (key, callback)) ∨
        s.scheduler.state.EventLive key ∧ s.released? m ≠ some key := by
  cases hop : op.onEvents with
  | false =>
    have hevents := (s.scheduler.perform_eventsKept (.ofTime readAt) hop).events_eq
    obtain ⟨hcreated, hreleased⟩ := created?_released?_of_not_onEvents hperformed hop
    rw [hscheduler, State.eventLive_congr hevents]
    simp [hcreated, hreleased]
  | true =>
    cases op with
    | createEvent callback =>
      have hreleased : s.released? m = none := by simp [released?, hperformed]
      have hcreate : s'.scheduler.state = (s.scheduler.createEvent callback).2.state := by
        rw [hscheduler]
        rfl
      rw [hcreate]
      rcases created?_cases hperformed with ⟨hcreated, hsame⟩ | ⟨new, hcreated, hnew⟩
      · simp [hsame, hcreated, hreleased]
      · rw [State.eventLive_createEvent hnew, hcreated, hreleased]
        simp [eq_comm]
    | send handle source =>
      have hboth : s.created? m = none ∧ s.released? m = none := by
        simp [created?, released?, hperformed]
      simp only [hscheduler, Scheduler.perform, Scheduler.send]
      split
      · simp [State.eventLive_sendEvent, hboth]
      · simp [hboth]
    | releaseEvent handle =>
      have hcreated : s.created? m = none := by simp [created?, hperformed]
      simp only [hscheduler, Scheduler.perform, Scheduler.releaseEvent]
      split
      · next howns =>
        simp [State.eventLive_releaseEvent, hcreated, released?, hperformed, howns, and_comm,
          eq_comm]
      · next howns => simp [hcreated, released?, hperformed, howns]
    | _ => cases hop

private theorem resume_eventLive (s : Scheduler κ) (activation : Activation κ) :
    (s.resume activation).2.state.EventLive key ↔ s.state.EventLive key := by
  cases activation with
  | drain events =>
    rw [s.resume_drain_state events]
    exact s.state.eventLive_popEvent key
  | eventReturned events other callback => exact s.state.eventLive_finishEvent other callback key
  | evaluate events now =>
    rw [s.resume_evaluate_state events now]
    exact State.eventLive_congr (s.state.evaluate_events s.config now).1
  | settle events other callback after =>
    exact State.eventLive_congr (s.state.finishTimer_eventsKept other callback after).events_eq
  | timerReturned events other callback => exact State.eventLive_congr rfl
  | woken events wait => exact State.eventLive_congr rfl
  | ended pass => exact State.eventLive_congr rfl

theorem step_eventLive (hstep : s.step m = some s') : s'.scheduler.state.EventLive key ↔
    (∃ callback, s.created? m = some (key, callback)) ∨
      s.scheduler.state.EventLive key ∧ s.released? m ≠ some key := by
  rcases step_scheduler hstep with ⟨op, readAt, hperformed, -, hscheduler⟩ |
    ⟨activation, readAt, hperformed, -, hscheduler⟩ | ⟨hperformed, -, hscheduler⟩
  · exact perform_eventLive hperformed hscheduler
  · rw [hscheduler, resume_eventLive]
    simp [created?, released?, hperformed]
  · rw [hscheduler]
    simp [created?, released?, hperformed]

/-- **The live events** are those whose tasks exist without a mark of a release. -/
theorem Run.eventLive_iff (h : Run c ok past s) (key : Key) :
    s.scheduler.state.EventLive key ↔ Live past key := by
  refine h.invariant (I := fun past s => s.scheduler.state.EventLive key ↔ Live past key)
    (fun id time => ?_) fun hI hstep _ => ?_
  · constructor
    · rintro ⟨task, hget, -⟩
      simp [create, Scheduler.create, State.ofConfig, Arena.get?] at hget
    · rintro ⟨before, s, m, later, callback, heq, -⟩
      simp at heq
  · rw [step_eventLive hstep, live_concat, hI]

end Host

end CoopScheduler
