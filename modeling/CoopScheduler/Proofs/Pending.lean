import CoopScheduler.Proofs.EventHistory
import CoopScheduler.Proofs.Occupancy

/-!
# Pending events

An event task that was sent waits in the event queue, and its record says so. The mark in the
record guards the queue: a send looks at the mark alone. `State.EventsAgree` says that queue and
records say the same: no task waits twice, a task waits exactly if it exists and is marked as
queued, and then it was not released.

* `Host.step_eventSection`: a step enters at most one of the sections on event tasks, whatever
  passes are nested in one another. Each of these sections keeps records and queue in agreement
  (`State.EventsAgree.eventSection`), and their stores in order (`State.EventsStored.eventSection`).
* `Host.pending_events`: hence, **on every run**, no more events wait than exist, each event that
  is sent finds room in the queue, and each event that is taken off the queue exists.
-/

namespace CoopScheduler

variable {κ : Type}

namespace State

/-! ### The sections on event tasks -/

/-- The sections that a step may enter on event tasks. -/
inductive EventSection (s : State κ) : State κ → Prop where
  | none {s' : State κ} (hevents : s'.events = s.events) (hqueue : s'.eventQueue = s.eventQueue) :
      EventSection s s'
  | createEvent {callback : κ} {key : Key} {s' : State κ}
      (h : s.createEvent callback = .ok (key, s')) : EventSection s s'
  | sendEvent (key : Key) : EventSection s (s.sendEvent key).2
  | releaseEvent (key : Key) : EventSection s (s.releaseEvent key).2
  | popEvent : EventSection s s.popEvent.2
  | finishEvent (key : Key) (callback : Option κ) : EventSection s (s.finishEvent key callback).2

theorem EventsKept.eventSection {s s' : State κ} (h : s.EventsKept s') : s.EventSection s' :=
  .none h.events_eq h.eventQueue_eq

/-! ### Records and queue -/

/-- The records of the event tasks and the event queue say the same. -/
structure EventsAgree (s : State κ) : Prop where
  nodup : s.eventQueue.pending.Nodup
  /-- The tasks that wait are those whose records say so. -/
  mem_iff : ∀ key, key ∈ s.eventQueue.pending ↔ s.isEventPending key = true
  /-- A task that waits was not released. -/
  unreleased : s.events.All fun t => t.queued = true → t.released = false

variable {s s' : State κ} {key : Key}

theorem isEventPending_iff : s.isEventPending key = true ↔
    ∃ task, s.events.get? key = some task ∧ task.queued = true := by
  cases hget : s.events.get? key <;> simp [isEventPending, hget]

theorem EventsAgree.of_events_eq (h : s.EventsAgree) (hevents : s'.events = s.events)
    (hqueue : s'.eventQueue = s.eventQueue) : s'.EventsAgree := by
  obtain ⟨hnodup, hmem, hunreleased⟩ := h
  refine ⟨by rwa [hqueue], fun key => ?_, by rwa [hevents]⟩
  rw [hqueue, hmem, isEventPending, isEventPending, hevents]

/-- What changes neither the marks of a record nor the queue. -/
theorem EventsAgree.modify {f : EventTask κ → EventTask κ} (h : s.EventsAgree) (key : Key)
    (hqueued : ∀ t, (f t).queued = t.queued)
    (hreleased : ∀ t, s.events.get? key = some t → t.queued = true → (f t).released = false) :
    EventsAgree { s with events := s.events.modify key f } := by
  refine ⟨h.nodup, fun other => ?_, Arena.All.modify h.unreleased fun t ht _ hpending => ?_⟩
  · rw [h.mem_iff, isEventPending, isEventPending, Arena.get?_modify]
    split
    · next heq => simp [heq, Option.any_map, hqueued]
    · rfl
  · rw [hqueued] at hpending
    exact hreleased t ht hpending

/-- Freeing a task that does not wait. -/
theorem EventsAgree.remove (h : s.EventsAgree) (hkey : s.isEventPending key = false) :
    EventsAgree { s with events := (s.events.remove key).2 } := by
  refine ⟨h.nodup, fun other => ?_, Arena.All.remove h.unreleased⟩
  rw [h.mem_iff, isEventPending, isEventPending, Arena.get?_remove]
  split
  · next heq =>
    rw [isEventPending] at hkey
    simp [heq, hkey]
  · rfl

/-- A new task does not wait. -/
theorem EventsAgree.createEvent {callback : κ} (h : s.EventsAgree)
    (hcreate : s.createEvent callback = .ok (key, s')) : s'.EventsAgree := by
  obtain ⟨events, hinsert, rfl⟩ := createEvent_eq hcreate
  refine ⟨h.nodup, fun other => ?_, Arena.All.insert h.unreleased hinsert (by simp)⟩
  rw [h.mem_iff, isEventPending, isEventPending, Arena.get?_insert_of_ok hinsert]
  split
  · next heq => simp [heq, Arena.get?_eq_none_of_insert hinsert]
  · rfl

theorem EventsAgree.sendEvent (h : s.EventsAgree) (key : Key) :
    (s.sendEvent key).2.EventsAgree := by
  cases haccepts : s.acceptsSend key with
  | false =>
    rw [sendEvent_of_refuses haccepts]
    exact h
  | true =>
    obtain ⟨hpending, hevents⟩ := sendEvent_of_accepts haccepts
    obtain ⟨task, hget, hqueued, hreleased⟩ := acceptsSend_iff.mp haccepts
    have hout : key ∉ s.eventQueue.pending := by
      rw [h.mem_iff, isEventPending_iff]
      rintro ⟨t, ht, hwaits⟩
      obtain rfl : task = t := Option.some.inj (hget.symm.trans ht)
      simp [hqueued] at hwaits
    refine ⟨?_, fun other => ?_, ?_⟩
    · rw [hpending, ← List.concat_eq_append]
      exact h.nodup.concat hout
    · rw [hpending, List.mem_append, List.mem_singleton, h.mem_iff, isEventPending,
        isEventPending, hevents, Arena.get?_modify]
      by_cases heq : other = key <;> simp [heq, hget]
    · rw [hevents]
      refine Arena.All.modify h.unreleased fun t ht _ _ => ?_
      obtain rfl : task = t := Option.some.inj (hget.symm.trans ht)
      exact hreleased

/-- A task that is taken off the queue does not wait any more. -/
theorem EventsAgree.removeEvent (h : s.EventsAgree) (key : Key) :
    (s.removeEvent key).EventsAgree ∧ (s.removeEvent key).isEventPending key = false := by
  unfold State.removeEvent
  split
  · have hfree (other : Key) : State.isEventPending { s with
        events := s.events.modify key fun t => { t with queued := false }
        eventQueue := s.eventQueue.erase key } other
          = if other = key then false else s.isEventPending other := by
      rw [isEventPending, isEventPending, Arena.get?_modify]
      split
      · cases s.events.get? key <;> rfl
      · rfl
    refine ⟨⟨h.nodup.erase key, fun other => ?_, ?_⟩, by rw [hfree, if_pos rfl]⟩
    · rw [hfree]
      split
      · next heq => simpa [EventQueue.erase, heq] using h.nodup.not_mem_erase
      · next hne =>
        rw [← h.mem_iff]
        exact List.mem_erase_of_ne hne
    · exact Arena.All.modify h.unreleased (by simp)
  · next hfree => exact ⟨h, Bool.eq_false_iff.mpr hfree⟩

theorem EventsAgree.releaseEvent (h : s.EventsAgree) (key : Key) :
    (s.releaseEvent key).2.EventsAgree := by
  obtain ⟨hremoved, hfree⟩ := h.removeEvent key
  unfold State.releaseEvent
  split
  · exact h
  · dsimp only
    split
    · refine hremoved.modify key (fun _ => rfl) fun t ht hwaits => ?_
      simp [isEventPending, ht, hwaits] at hfree
    · exact hremoved.remove hfree

/-- The oldest task that waits exists, and it is the one that a pass takes. -/
theorem EventsAgree.popEvent_eq {rest : List Key} (h : s.EventsAgree)
    (hpending : s.eventQueue.pending = key :: rest) :
    ∃ task, s.events.get? key = some task ∧ s.popEvent = (some (key, task.callback),
      startEvent { s with eventQueue.pending := rest } key) := by
  have hmem : key ∈ s.eventQueue.pending := by simp [hpending]
  obtain ⟨task, hget, -⟩ := isEventPending_iff.mp ((h.mem_iff key).mp hmem)
  exact ⟨task, hget, by rw [popEvent, hpending, popEventFrom, hget]⟩

theorem EventsAgree.popEvent (h : s.EventsAgree) : s.popEvent.2.EventsAgree := by
  cases hpending : s.eventQueue.pending with
  | nil =>
    rw [popEvent_of_nil hpending]
    exact h
  | cons key rest =>
    obtain ⟨task, hget, heq⟩ := h.popEvent_eq hpending
    obtain ⟨hnodup, hmem, hunreleased⟩ := h
    rw [hpending] at hnodup hmem
    obtain ⟨hout, hnodup⟩ := List.nodup_cons.mp hnodup
    rw [heq]
    refine ⟨hnodup, fun other => ?_,
      Arena.All.modify hunreleased (by simp)⟩
    rw [isEventPending, startEvent, Arena.get?_modify]
    by_cases hkey : other = key
    · simp [hkey, hout, hget]
    · have hother := hmem other
      rw [List.mem_cons, or_iff_right hkey, isEventPending] at hother
      simpa [hkey] using hother

theorem EventsAgree.finishEvent (h : s.EventsAgree) (key : Key) (callback : Option κ) :
    (s.finishEvent key callback).2.EventsAgree := by
  unfold State.finishEvent
  split
  · exact h
  · next task hget =>
    have hended : EventsAgree { s with
        events := s.events.modify key fun t => { t with running := false } } :=
      h.modify key (fun _ => rfl) fun t ht hwaits =>
        show t.released = false from h.unreleased ht hwaits
    dsimp only
    split
    · next hreleased =>
      refine hended.remove (Bool.eq_false_iff.mpr fun hwaits => ?_)
      -- A task that waits was not released, so it is not freed here.
      obtain ⟨t, ht, hqueued⟩ := isEventPending_iff.mp hwaits
      rw [Arena.get?_modify, if_pos rfl, hget] at ht
      cases ht
      simp [h.unreleased hget hqueued] at hreleased
    · exact hended.modify key (fun _ => rfl) fun t ht hwaits =>
        show t.released = false from hended.unreleased ht hwaits

/-- **Every section on event tasks** keeps records and queue in agreement. -/
theorem EventsAgree.eventSection (h : s.EventsAgree) (hsection : s.EventSection s') :
    s'.EventsAgree := by
  cases hsection with
  | none hevents hqueue => exact h.of_events_eq hevents hqueue
  | createEvent hcreate => exact h.createEvent hcreate
  | sendEvent key => exact h.sendEvent key
  | releaseEvent key => exact h.releaseEvent key
  | popEvent => exact h.popEvent
  | finishEvent key callback => exact h.finishEvent key callback

/-! ### Stores -/

theorem popEvent_shape (s : State κ) : s.popEvent.2.events.shape = s.events.shape ∧
    s.popEvent.2.eventQueue.capacity = s.eventQueue.capacity := by
  rw [State.popEvent]
  generalize s.eventQueue.pending = pending
  induction pending with
  | nil => exact ⟨rfl, rfl⟩
  | cons head rest ih =>
    cases hget : s.events.get? head with
    | none => simpa [popEventFrom, hget] using ih
    | some task => simp [popEventFrom, hget, startEvent]

theorem removeEvent_shape (s : State κ) (key : Key) :
    (s.removeEvent key).events.shape = s.events.shape ∧
      (s.removeEvent key).eventQueue.capacity = s.eventQueue.capacity := by
  unfold State.removeEvent
  split
  · exact ⟨Arena.shape_modify .., rfl⟩
  · exact ⟨rfl, rfl⟩

/-- The task that a release frees at once. -/
def eventFreedNow? (s : State κ) (key : Key) : Option Key :=
  if (s.events.get? key).any (!·.running) then some key else none

/-- The task that the end of its run frees. -/
def eventFreedAfterRun? (s : State κ) (key : Key) : Option Key :=
  if (s.events.get? key).any (·.released) then some key else none

theorem reshaped_releaseEvent (s : State κ) (key : Key) :
    s.events.shape.Reshaped (s.releaseEvent key).2.events.shape (s.eventFreedNow? key) := by
  unfold State.releaseEvent eventFreedNow?
  cases hget : s.events.get? key with
  | none => exact .kept rfl
  | some task =>
    cases hrunning : task.running with
    | true =>
      simp only [Option.any_some, hrunning, Bool.not_true, Bool.false_eq_true, if_false, if_true]
      refine .kept ?_
      rw [Arena.shape_modify, (s.removeEvent_shape key).1]
    | false =>
      simp only [Option.any_some, hrunning, Bool.not_false, Bool.false_eq_true, if_false, if_true]
      refine .freed (by simp [hget]) ?_
      rw [Arena.shape_remove, (s.removeEvent_shape key).1]

theorem reshaped_finishEvent (s : State κ) (key : Key) (callback : Option κ) :
    s.events.shape.Reshaped (s.finishEvent key callback).2.events.shape
      (s.eventFreedAfterRun? key) := by
  unfold State.finishEvent eventFreedAfterRun?
  cases hget : s.events.get? key with
  | none => exact .kept rfl
  | some task =>
    cases hreleased : task.released with
    | true =>
      simp only [Option.any_some, hreleased, if_true]
      refine .freed (by simp [hget]) ?_
      rw [Arena.shape_remove, Arena.shape_modify]
    | false =>
      simp only [Option.any_some, hreleased, Bool.false_eq_true, if_false]
      refine .kept ?_
      rw [Arena.shape_modify, Arena.shape_modify]

theorem shape_sendEvent (s : State κ) (key : Key) :
    (s.sendEvent key).2.events.shape = s.events.shape := by
  cases haccepts : s.acceptsSend key with
  | false => rw [sendEvent_of_refuses haccepts]
  | true => rw [(sendEvent_of_accepts haccepts).2, Arena.shape_modify]

/-- **Every section on event tasks** stores one of them, frees one, or leaves the slots as they
are. -/
theorem reshaped_of_eventSection (h : s.EventSection s') :
    ∃ freed?, s.events.shape.Reshaped s'.events.shape freed? := by
  cases h with
  | none hevents _ => exact ⟨none, .kept (by rw [hevents])⟩
  | createEvent hcreate =>
    obtain ⟨events, hinsert, rfl⟩ := createEvent_eq hcreate
    exact ⟨none, .stored (Arena.shape_insert hinsert)⟩
  | sendEvent key => exact ⟨none, .kept (s.shape_sendEvent key)⟩
  | releaseEvent key => exact ⟨_, s.reshaped_releaseEvent key⟩
  | popEvent => exact ⟨none, .kept s.popEvent_shape.1⟩
  | finishEvent key callback => exact ⟨_, s.reshaped_finishEvent key callback⟩

theorem EventSection.room_eq (h : s.EventSection s') :
    s'.eventQueue.capacity = s.eventQueue.capacity := by
  cases h with
  | none _ hqueue => rw [hqueue]
  | createEvent hcreate =>
    obtain ⟨events, -, rfl⟩ := createEvent_eq hcreate
    rfl
  | sendEvent key =>
    unfold State.sendEvent
    split
    · rw [wakeIf_eventQueue]
      rfl
    · rfl
  | releaseEvent key =>
    unfold State.releaseEvent
    split
    · rfl
    · dsimp only
      split <;> exact (s.removeEvent_shape key).2
  | popEvent => exact s.popEvent_shape.2
  | finishEvent key callback => rw [finishEvent_eventQueue]

/-- The slots of the event tasks are in order, and the queue has room for all of them. -/
structure EventsStored (c : Config) (s : State κ) : Prop where
  valid : s.events.shape.Valid
  capacity_eq : s.events.shape.capacity = c.maxEventTasks
  room_eq : s.eventQueue.capacity = c.maxEventTasks

variable {c : Config}

theorem EventsStored.eventSection (h : s.EventsStored c) (hsection : s.EventSection s') :
    s'.EventsStored c := by
  obtain ⟨freed?, hreshaped⟩ := reshaped_of_eventSection hsection
  exact ⟨hreshaped.valid h.valid, hreshaped.capacity_eq.trans h.capacity_eq,
    hsection.room_eq.trans h.room_eq⟩

/-- The size counts the tasks that exist. -/
theorem EventsStored.size_eq (h : s.EventsStored c) : s.events.size = s.events.keys.length := by
  rw [← s.events.keys_shape, h.valid.length_keys]
  rfl

theorem EventsStored.size_le (h : s.EventsStored c) : s.events.size ≤ c.maxEventTasks := by
  rw [← h.capacity_eq]
  exact h.valid.size_le

/-- No more tasks wait than exist. -/
theorem EventsStored.length_pending_le (h : s.EventsStored c) (hagree : s.EventsAgree) :
    s.eventQueue.pending.length ≤ s.events.size := by
  refine h.valid.length_le_size hagree.nodup fun key hmem => ?_
  obtain ⟨task, hget, -⟩ := isEventPending_iff.mp ((hagree.mem_iff key).mp hmem)
  simp [hget]

/-- **A send that is accepted finds room in the queue**, as its task exists and does not wait. -/
theorem EventsStored.hasRoom (h : s.EventsStored c) (hagree : s.EventsAgree)
    (haccepts : s.acceptsSend key = true) : s.eventQueue.hasRoom = true := by
  have hafter := (h.eventSection (.sendEvent key)).length_pending_le (hagree.sendEvent key)
  have hsize := (h.eventSection (.sendEvent key)).size_le
  rw [(sendEvent_of_accepts haccepts).1, List.length_append, List.length_singleton] at hafter
  simp only [EventQueue.hasRoom, h.room_eq, decide_eq_true_eq]
  omega

end State

/-! ### Requests and passes -/

namespace Scheduler

/-- **Every request** enters at most one of the sections on event tasks. -/
theorem perform_eventSection (s : Scheduler κ) (op : Operation κ) (now : Tick) :
    s.state.EventSection (s.perform op now).2.state := by
  cases hop : op.onEvents with
  | false => exact (s.perform_eventsKept now hop).eventSection
  | true =>
    cases op with
    | createEvent callback =>
      simp only [perform, createEvent]
      cases hcreate : s.state.createEvent callback with
      | error refusal => cases refusal <;> exact .none rfl rfl
      | ok stored => exact .createEvent hcreate
    | send handle source =>
      simp only [perform, send]
      split
      · exact .sendEvent handle.key
      · exact .none rfl rfl
    | releaseEvent handle =>
      simp only [perform, releaseEvent]
      split
      · exact .releaseEvent handle.key
      · exact .none rfl rfl
    | _ => cases hop

/-- **Every step of a pass** enters at most one of the sections on event tasks. -/
theorem resume_eventSection (s : Scheduler κ) (activation : Activation κ) :
    s.state.EventSection (s.resume activation).2.state := by
  cases activation with
  | drain events =>
    rw [s.resume_drain_state events]
    exact .popEvent
  | eventReturned events key callback => exact .finishEvent key callback
  | evaluate events now =>
    rw [s.resume_evaluate_state events now]
    exact .none (s.state.evaluate_events s.config now).1 (s.state.evaluate_events s.config now).2
  | settle events key callback after =>
    exact (s.state.finishTimer_eventsKept key callback after).eventSection
  | timerReturned events key callback => exact .none rfl rfl
  | woken events wait => exact .none rfl rfl
  | ended pass => exact .none rfl rfl

end Scheduler

namespace Host

variable {c : Config} {ok : Condition κ} {past : History κ} {s s' : Host κ} {m : Move κ}

theorem step_eventSection (hstep : s.step m = some s') :
    s.scheduler.state.EventSection s'.scheduler.state := by
  rcases step_scheduler hstep with ⟨op, readAt, -, -, hscheduler⟩ |
    ⟨activation, readAt, -, -, hscheduler⟩ | ⟨-, -, hscheduler⟩
  · rw [hscheduler]
    exact s.scheduler.perform_eventSection op _
  · rw [hscheduler]
    exact s.scheduler.resume_eventSection activation
  · rw [hscheduler]
    exact .none rfl rfl

/-- On any run, the records of the event tasks and the event queue say the same. -/
theorem Run.eventsAgree (h : Run c ok past s) : s.scheduler.state.EventsAgree := by
  refine h.invariant (I := fun _ s => s.scheduler.state.EventsAgree) (fun id time => ?_)
    fun hagree hstep _ => hagree.eventSection (step_eventSection hstep)
  refine ⟨List.nodup_nil, fun key => ?_, fun key task hget => ?_⟩
  · simp [create, Scheduler.create, State.ofConfig, State.isEventPending, Arena.get?]
  · simp [create, Scheduler.create, State.ofConfig, Arena.get?] at hget

/-- On any run, the stores of the event tasks are in order. -/
theorem Run.eventsStored (h : Run c ok past s) : s.scheduler.state.EventsStored c := by
  refine h.invariant (I := fun _ s => s.scheduler.state.EventsStored c) (fun id time => ?_)
    fun hstored hstep _ => hstored.eventSection (step_eventSection hstep)
  have hshape : (create (κ := κ) id c time).scheduler.state.events.shape
      = { capacity := c.maxEventTasks } := Arena.shape_empty _
  exact ⟨by rw [hshape]; exact Arena.valid_empty _, by rw [hshape], rfl⟩

/-- A drain takes the oldest event that waits. -/
theorem popped?_eq_head? (hagree : s.scheduler.state.EventsAgree) {events readAt : Nat}
    (hdrain : s.resumed? m = some (.drain events, readAt)) (hstep : s.step m = some s') :
    s.popped? m = s.scheduler.state.eventQueue.pending.head? ∧
      s'.scheduler.state.eventQueue.pending = s.scheduler.state.eventQueue.pending.tail := by
  obtain ⟨rfl, rest, hpasses⟩ := resumed?_eq_some hdrain
  have hstate : s'.scheduler.state = s.scheduler.state.popEvent.2 := by
    simp only [step, hpasses, resumeFrame, Option.some.injEq] at hstep
    rw [← hstep, ← s.scheduler.resume_drain_state events]
  rw [hstate, popped?, hdrain]
  cases hpending : s.scheduler.state.eventQueue.pending with
  | nil => simp [State.popEvent_of_nil hpending, hpending]
  | cons key rest =>
    obtain ⟨task, -, heq⟩ := hagree.popEvent_eq hpending
    simp [heq, State.startEvent]

/-- The move that puts an event into the queue is a send that is accepted. -/
theorem acceptsSend_of_accepted? {key : Key} (h : s.accepted? m = some key) :
    s.scheduler.state.acceptsSend key = true := by
  unfold accepted? at h
  split at h
  · split at h
    · next hpushed =>
      cases h
      exact (Scheduler.send_pushes_iff.mp hpushed).2
    · cases h
  · cases h

/-- **The events that wait**, on any run, with passes nested in passes and requests from callbacks
and interrupts: none of them waits twice, and an event waits exactly if its task exists and is
marked as queued, and then it was not released. So no more of them wait than exist, and no more
exist than the configuration allows; each send that is accepted finds the queue shorter than the
room it was given; and a drain takes the oldest event that waits, and nothing else, off it. -/
theorem pending_events (h : Run c ok past s) :
    s.scheduler.state.eventQueue.pending.Nodup ∧
    (∀ key, key ∈ s.scheduler.state.eventQueue.pending ↔
      ∃ task, s.scheduler.state.events.get? key = some task ∧ task.queued = true) ∧
    (∀ key task, s.scheduler.state.events.get? key = some task → task.queued = true →
      task.released = false) ∧
    s.scheduler.stats.pendingEvents ≤ s.scheduler.stats.eventTasks ∧
    s.scheduler.stats.eventTasks = s.scheduler.state.events.keys.length ∧
    s.scheduler.stats.eventTasks ≤ c.maxEventTasks ∧
    s.scheduler.state.eventQueue.capacity = c.maxEventTasks ∧
    (∀ m key, s.accepted? m = some key → s.scheduler.state.eventQueue.hasRoom = true) ∧
    (∀ m s' events readAt, s.resumed? m = some (.drain events, readAt) → s.step m = some s' →
      s.popped? m = s.scheduler.state.eventQueue.pending.head? ∧
      s'.scheduler.state.eventQueue.pending = s.scheduler.state.eventQueue.pending.tail) := by
  have hagree := h.eventsAgree
  have hstored := h.eventsStored
  refine ⟨hagree.nodup, fun key => ?_, fun key task hget => hagree.unreleased hget,
    hstored.length_pending_le hagree, hstored.size_eq, hstored.size_le, hstored.room_eq,
    fun m key haccepted => hstored.hasRoom hagree (acceptsSend_of_accepted? haccepted),
    fun m s' events readAt hdrain hstep => popped?_eq_head? hagree hdrain hstep⟩
  rw [hagree.mem_iff, State.isEventPending_iff]

/-- The callback of an event sends the event again and another one, and then makes a pass, which
runs the other one. That one is released while its callback is out. The first event waits, and is
running too. -/
theorem pending_events_within_pass :
    ∃ (past : History Nat) (s : Host Nat) (task : EventTask Nat),
      Run {} (fun _ _ _ _ => True) past s ∧ s.passes.length = 2 ∧
      s.scheduler.state.eventQueue.pending = [⟨0, 0⟩] ∧
      s.scheduler.state.events.get? ⟨0, 0⟩ = some task ∧ task.queued = true ∧
      task.released = false ∧ s.scheduler.stats.pendingEvents ≤ s.scheduler.stats.eventTasks := by
  obtain ⟨past, s, hrun, hpasses, hpending⟩ :
      ∃ (past : History Nat) (s : Host Nat), Run {} (fun _ _ _ _ => True) past s ∧
        s.passes.length = 2 ∧ s.scheduler.state.eventQueue.pending = [⟨0, 0⟩] :=
    ⟨_, _, Run.of_play ⟨0⟩ 0
      [.ask (.createEvent 10), .perform 0, .ask (.createEvent 20), .perform 0,
       .ask (.send ⟨⟨0⟩, ⟨0, 0⟩⟩ .thread), .perform 0, .enter, .resume,
       .ask (.send ⟨⟨0⟩, ⟨1, 0⟩⟩ .interrupt), .perform 0,
       .ask (.send ⟨⟨0⟩, ⟨0, 0⟩⟩ .thread), .perform 0, .enter, .resume,
       .ask (.releaseEvent ⟨⟨0⟩, ⟨1, 0⟩⟩), .perform 0] rfl, rfl, rfl⟩
  obtain ⟨-, hmem, hreleased, hfew, -⟩ := pending_events hrun
  obtain ⟨task, hget, hqueued⟩ := (hmem ⟨0, 0⟩).mp (by simp [hpending])
  exact ⟨past, s, task, hrun, hpasses, hpending, hget, hqueued,
    hreleased ⟨0, 0⟩ task hget hqueued, hfew⟩

end Host

end CoopScheduler
