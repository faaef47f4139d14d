import CoopScheduler.Proofs.Requests

/-!
# The records of event tasks

As long as passes are not nested, at most one event is running at a time: the one whose callback
is out. `State.EventsSound` says how the records of the event tasks, the event queue and the
callback that is out belong together.

* A task waits in the queue if and only if its record says so, and it does so once.
* A task that was released goes on existing only while it runs, and is not queued any more.
* A task that is not running holds the callback with which it was created.

Each critical section on events keeps this up, from the creation of a task
(`State.EventsSound.createEvent`) through sends and releases to the two halves of its run
(`State.EventsSound.popEvent`, `State.EventsSound.finishEvent`).
-/

namespace CoopScheduler

variable {κ : Type}

/-- What the record of an event task says, given whether the task is in the queue, whether it is
running, and the callback with which it was created. -/
structure EventTask.Sound (t : EventTask κ) (pending running : Prop) (created : Option κ) :
    Prop where
  queued_iff : t.queued = true ↔ pending
  running_iff : t.running = true ↔ running
  /-- A task that waits was not released. -/
  unreleased : t.queued = true → t.released = false
  /-- A task that was released is running. -/
  running_of_released : t.released = true → t.running = true
  isSome_created : created.isSome = true
  /-- A task that is not running holds its callback. -/
  callback_eq : t.running = false → t.callback = created

namespace State

/-- The event tasks and their queue while the event `running?` is out and each event was created
with the callback `created`. -/
structure EventsSound (s : State κ) (running? : Option Key) (created : Key → Option κ) :
    Prop where
  nodup : s.eventQueue.pending.Nodup
  isSome_of_pending : ∀ key ∈ s.eventQueue.pending, (s.events.get? key).isSome = true
  isSome_of_running : ∀ key, running? = some key → (s.events.get? key).isSome = true
  sound : ∀ key task, s.events.get? key = some task →
    task.Sound (key ∈ s.eventQueue.pending) (running? = some key) (created key)

variable {s s' : State κ} {key : Key} {running? : Option Key} {created created' : Key → Option κ}

/-- Sections that have nothing to do with events. -/
theorem EventsSound.of_events_eq (h : s.EventsSound running? created)
    (hevents : s'.events = s.events) (hqueue : s'.eventQueue = s.eventQueue) :
    s'.EventsSound running? created := by
  obtain ⟨hnodup, hpending, hrunning, hsound⟩ := h
  constructor
  · rwa [hqueue]
  · rwa [hqueue, hevents]
  · rwa [hevents]
  · rwa [hqueue, hevents]

theorem EventsSound.createEvent {callback : κ} (h : s.EventsSound running? created)
    (hcreate : s.createEvent callback = .ok (key, s')) (hkey : created' key = some callback)
    (hother : ∀ other, other ≠ key → created' other = created other) :
    s'.EventsSound running? created' := by
  obtain ⟨events, hinsert, rfl⟩ := createEvent_eq hcreate
  have hfresh := Arena.get?_eq_none_of_insert hinsert
  have hpending : key ∉ s.eventQueue.pending := fun hmem => by
    have hlive := h.isSome_of_pending key hmem
    rw [hfresh] at hlive
    cases hlive
  have hrunning : running? ≠ some key := fun hrunning => by
    have hlive := h.isSome_of_running key hrunning
    rw [hfresh] at hlive
    cases hlive
  have hlive {other : Key} (hget : (s.events.get? other).isSome = true) :
      (events.get? other).isSome = true := by
    rw [Arena.get?_insert_of_ok hinsert]
    split
    · rfl
    · exact hget
  refine ⟨h.nodup, fun other hmem => hlive (h.isSome_of_pending other hmem),
    fun other hrun => hlive (h.isSome_of_running other hrun), fun other task hget => ?_⟩
  rw [Arena.get?_insert_of_ok hinsert] at hget
  by_cases heq : other = key
  · rw [if_pos heq] at hget
    cases hget
    subst heq
    exact ⟨by simp [hpending], by simp [hrunning], nofun, nofun, by simp [hkey],
      fun _ => hkey.symm⟩
  · rw [if_neg heq] at hget
    rw [hother other heq]
    exact h.sound other task hget

theorem acceptsSend_iff : s.acceptsSend key = true ↔
    ∃ task, s.events.get? key = some task ∧ task.queued = false ∧ task.released = false := by
  cases hget : s.events.get? key <;> simp [acceptsSend, hget]

/-- **A send is accepted** exactly if its task exists, does not wait and was not released. -/
theorem EventsSound.acceptsSend_iff (h : s.EventsSound running? created) :
    s.acceptsSend key = true ↔ key ∉ s.eventQueue.pending ∧
      ∃ task, s.events.get? key = some task ∧ task.released = false := by
  rw [State.acceptsSend_iff]
  constructor
  · rintro ⟨task, hget, hqueued, hreleased⟩
    refine ⟨fun hmem => ?_, task, hget, hreleased⟩
    rw [(h.sound key task hget).queued_iff.mpr hmem] at hqueued
    cases hqueued
  · rintro ⟨hmem, task, hget, hreleased⟩
    refine ⟨task, hget, ?_, hreleased⟩
    exact Bool.eq_false_iff.mpr fun hqueued => hmem ((h.sound key task hget).queued_iff.mp hqueued)

theorem sendEvent_of_accepts (haccepts : s.acceptsSend key = true) :
    (s.sendEvent key).2.eventQueue.pending = s.eventQueue.pending ++ [key] ∧
      (s.sendEvent key).2.events = s.events.modify key fun t => { t with queued := true } := by
  rw [sendEvent, if_pos haccepts, wakeIf_eventQueue, wakeIf_events]
  exact ⟨rfl, rfl⟩

theorem sendEvent_of_refuses (hrefuses : s.acceptsSend key = false) :
    s.sendEvent key = (false, s) := by
  rw [sendEvent, hrefuses]
  rfl

theorem EventsSound.sendEvent (h : s.EventsSound running? created) (key : Key) :
    (s.sendEvent key).2.EventsSound running? created := by
  cases haccepts : s.acceptsSend key with
  | false =>
    rw [sendEvent_of_refuses haccepts]
    exact h
  | true =>
    obtain ⟨hpending, hevents⟩ := sendEvent_of_accepts haccepts
    obtain ⟨hmem, task, hget, hreleased⟩ := h.acceptsSend_iff.mp haccepts
    have hlive {other : Key} (hother : (s.events.get? other).isSome = true) :
        ((s.sendEvent key).2.events.get? other).isSome = true := by
      rw [hevents, Arena.get?_modify]
      split
      · rw [hget]
        rfl
      · exact hother
    refine ⟨?_, fun other hother => ?_, fun other hrun => hlive (h.isSome_of_running other hrun),
      fun other task' hget' => ?_⟩
    · rw [hpending]
      refine List.nodup_append.mpr ⟨h.nodup, by simp, fun a ha b hb heq => ?_⟩
      rw [List.mem_singleton.mp hb] at heq
      exact hmem (heq ▸ ha)
    · rw [hpending] at hother
      rcases List.mem_append.mp hother with hother | hother
      · exact hlive (h.isSome_of_pending other hother)
      · rw [List.mem_singleton.mp hother]
        exact hlive (by simp [hget])
    · rw [hevents, Arena.get?_modify] at hget'
      rw [hpending]
      by_cases heq : other = key
      · subst heq
        rw [if_pos rfl, hget] at hget'
        cases hget'
        obtain ⟨-, hrunning, -, hrunReleased, hcreated, hcallback⟩ := h.sound other task hget
        exact ⟨by simp, hrunning, fun _ => hreleased, hrunReleased, hcreated, hcallback⟩
      · rw [if_neg heq] at hget'
        simpa [heq] using h.sound other task' hget'

/-! ### Releases -/

theorem removeEvent_eq {task : EventTask κ} (hget : s.events.get? key = some task) (other : Key) :
    (s.removeEvent key).events.get? other
      = if other = key then some { task with queued := false } else s.events.get? other := by
  cases hqueued : task.queued with
  | true => simp [removeEvent, hget, hqueued, Arena.get?_modify]
  | false =>
    have hsame : { task with queued := false } = task := by rw [← hqueued]
    by_cases heq : other = key
    · simp [removeEvent, hget, hqueued, heq, hsame]
    · simp [removeEvent, hget, hqueued, heq]

/-- A release leaves the other tasks alone, and its own task if that is running. -/
theorem releaseEvent_get? {task : EventTask κ} (hget : s.events.get? key = some task)
    (other : Key) :
    (s.releaseEvent key).2.events.get? other
      = if other = key then
          if task.running then some { task with queued := false, released := true } else none
        else s.events.get? other := by
  have hremoved := removeEvent_eq hget
  cases hrunning : task.running with
  | true =>
    simp only [releaseEvent, hget, hrunning, if_true, Arena.get?_modify, hremoved]
    by_cases heq : other = key <;> simp [heq]
  | false =>
    simp only [releaseEvent, hget, hrunning, Bool.false_eq_true, if_false, Arena.get?_remove,
      hremoved]
    by_cases heq : other = key <;> simp [heq]

/-- A release takes its task off the queue, if a task that waits is marked as queued. -/
theorem releaseEvent_pending_eq (key : Key)
    (hqueued : key ∈ s.eventQueue.pending → s.isEventPending key = true) :
    (s.releaseEvent key).2.eventQueue.pending = s.eventQueue.pending.erase key := by
  have hremoved : (s.removeEvent key).eventQueue.pending = s.eventQueue.pending.erase key := by
    unfold State.removeEvent
    split
    · rfl
    · next hidle => rw [List.erase_of_not_mem fun hmem => hidle (hqueued hmem)]
  unfold State.releaseEvent
  split
  · next hgone =>
    rw [List.erase_of_not_mem fun hmem => by simpa [isEventPending, hgone] using hqueued hmem]
  · dsimp only
    split <;> exact hremoved

theorem EventsSound.isEventPending (h : s.EventsSound running? created)
    (hmem : key ∈ s.eventQueue.pending) : s.isEventPending key = true := by
  obtain ⟨task, hget⟩ := Option.isSome_iff_exists.mp (h.isSome_of_pending key hmem)
  simpa [State.isEventPending, hget] using (h.sound key task hget).queued_iff.mpr hmem

theorem EventsSound.releaseEvent (h : s.EventsSound running? created) (key : Key) :
    (s.releaseEvent key).2.EventsSound running? created := by
  have hpending := releaseEvent_pending_eq key h.isEventPending
  cases hget : s.events.get? key with
  | none =>
    have hsame : s.releaseEvent key = (none, s) := by simp [State.releaseEvent, hget]
    rw [hsame]
    exact h
  | some task =>
    have hevents := releaseEvent_get? hget
    have htask := h.sound key task hget
    constructor
    · rw [hpending]
      exact h.nodup.erase key
    · intro other hmem
      rw [hpending] at hmem
      obtain ⟨hne, hmem⟩ := h.nodup.mem_erase_iff.mp hmem
      rw [hevents, if_neg hne]
      exact h.isSome_of_pending other hmem
    · intro other hrun
      rw [hevents]
      by_cases heq : other = key
      · rw [if_pos heq, if_pos (htask.running_iff.mpr (heq ▸ hrun))]
        rfl
      · rw [if_neg heq]
        exact h.isSome_of_running other hrun
    · intro other task' hget'
      rw [hevents] at hget'
      rw [hpending]
      by_cases heq : other = key
      · subst heq
        rw [if_pos rfl] at hget'
        split at hget'
        · next hrunning =>
          cases hget'
          exact ⟨by simp [h.nodup.not_mem_erase], htask.running_iff, nofun, fun _ => hrunning,
            htask.isSome_created, htask.callback_eq⟩
        · cases hget'
      · rw [if_neg heq] at hget'
        simpa [List.mem_erase_of_ne heq] using h.sound other task' hget'

/-! ### The run of an event -/

/-- The queue of a state in which every task that waits exists is drained from its head. -/
theorem EventsSound.popEvent_eq {rest : List Key} (h : s.EventsSound none created)
    (hpending : s.eventQueue.pending = key :: rest) :
    s.popEvent = (some (key, created key),
      startEvent { s with eventQueue.pending := rest } key) := by
  have hmem : key ∈ s.eventQueue.pending := by simp [hpending]
  obtain ⟨task, hget⟩ := Option.isSome_iff_exists.mp (h.isSome_of_pending key hmem)
  have htask := h.sound key task hget
  have hrunning : task.running = false :=
    Bool.eq_false_iff.mpr fun hrunning => nomatch htask.running_iff.mp hrunning
  rw [popEvent, hpending, popEventFrom, hget, ← htask.callback_eq hrunning]

theorem popEvent_of_nil (hpending : s.eventQueue.pending = []) : s.popEvent = (none, s) := by
  rw [popEvent, hpending, popEventFrom, ← hpending]

theorem EventsSound.popEvent {rest : List Key} (h : s.EventsSound none created)
    (hpending : s.eventQueue.pending = key :: rest) :
    s.popEvent.2.EventsSound (some key) created := by
  rw [h.popEvent_eq hpending]
  obtain ⟨hnodup, hlive, -, hsound⟩ := h
  rw [hpending] at hnodup hlive hsound
  obtain ⟨hfresh, hnodup⟩ := List.nodup_cons.mp hnodup
  have hisSome {other : Key} (hother : (s.events.get? other).isSome = true) :
      ((s.events.modify key fun t =>
        { t with callback := none, queued := false, running := true }).get? other).isSome
          = true := by
    rw [Arena.get?_modify]
    split
    · next heq =>
      rw [Option.isSome_map, ← heq]
      exact hother
    · exact hother
  refine ⟨hnodup, fun other hmem => hisSome (hlive other (List.mem_cons_of_mem _ hmem)),
    fun other hrun => ?_, fun other task hget => ?_⟩
  · cases hrun
    exact hisSome (hlive key List.mem_cons_self)
  · simp only [startEvent, Arena.get?_modify] at hget ⊢
    by_cases heq : other = key
    · subst heq
      rw [if_pos rfl] at hget
      obtain ⟨t, ht, rfl⟩ := Option.map_eq_some_iff.mp hget
      exact ⟨by simp [hfresh], by simp, nofun, fun _ => rfl, (hsound other t ht).isSome_created,
        nofun⟩
    · -- The other records are what they were, and the queue has only lost its head.
      rw [if_neg heq] at hget
      simpa [heq, Ne.symm heq] using hsound other task hget

theorem finishEvent_eventQueue (s : State κ) (key : Key) (callback : Option κ) :
    (s.finishEvent key callback).2.eventQueue = s.eventQueue := by
  unfold finishEvent
  split
  · rfl
  · dsimp only
    split <;> rfl

/-- The end of a run leaves the other tasks alone, and frees its own one if that was released. -/
theorem finishEvent_get? {task : EventTask κ} (hget : s.events.get? key = some task)
    (callback : Option κ) (other : Key) :
    (s.finishEvent key callback).2.events.get? other
      = if other = key then
          if task.released then none else some { task with running := false, callback := callback }
        else s.events.get? other := by
  cases hreleased : task.released with
  | true =>
    simp only [State.finishEvent, hget, hreleased, if_true, Arena.get?_remove, Arena.get?_modify]
    by_cases heq : other = key <;> simp [heq]
  | false =>
    simp only [State.finishEvent, hget, hreleased, Bool.false_eq_true, if_false, Arena.get?_modify]
    by_cases heq : other = key <;> simp [heq, hreleased]

theorem EventsSound.finishEvent (h : s.EventsSound (some key) created) :
    (s.finishEvent key (created key)).2.EventsSound none created := by
  obtain ⟨task, hget⟩ := Option.isSome_iff_exists.mp (h.isSome_of_running key rfl)
  have htask := h.sound key task hget
  have hpending := finishEvent_eventQueue s key (created key)
  have hevents := finishEvent_get? hget (created key)
  have hqueuedLive {other : Key} (hmem : other ∈ s.eventQueue.pending) :
      ((s.finishEvent key (created key)).2.events.get? other).isSome = true := by
    rw [hevents]
    by_cases heq : other = key
    · -- A task that was sent again during its run was not released, so it is not freed.
      have hreleased := htask.unreleased (htask.queued_iff.mpr (heq ▸ hmem))
      simp [heq, hreleased]
    · rw [if_neg heq]
      exact h.isSome_of_pending other hmem
  constructor
  · rw [hpending]
    exact h.nodup
  · rw [hpending]
    exact fun other hmem => hqueuedLive hmem
  · exact nofun
  · intro other task' hget'
    rw [hevents] at hget'
    rw [hpending]
    by_cases heq : other = key
    · subst heq
      rw [if_pos rfl] at hget'
      split at hget'
      · cases hget'
      · next hreleased =>
        cases hget'
        exact ⟨htask.queued_iff, by simp, htask.unreleased,
          fun hrel => absurd hrel hreleased, htask.isSome_created, fun _ => rfl⟩
    · rw [if_neg heq] at hget'
      simpa [Ne.symm heq] using h.sound other task' hget'

end State

namespace Scheduler

variable {s : Scheduler κ} {handle : EventHandle} {source : WakeSource}

/-- A send puts its event at the end of the queue if the event is owned and accepts it. -/
theorem send_pushes_iff :
    (s.send handle source).2.state.eventQueue.pending
        = s.state.eventQueue.pending ++ [handle.key] ↔
      s.owns handle.owner = true ∧ s.state.acceptsSend handle.key = true := by
  unfold send
  split
  · next howns =>
    cases haccepts : s.state.acceptsSend handle.key with
    | true => simp [howns, (State.sendEvent_of_accepts haccepts).1]
    | false => simp [State.sendEvent_of_refuses haccepts]
  · next howns => simp [howns]

/-- A send that is refused changes nothing and wakes nobody. -/
theorem send_of_refused
    (h : (s.send handle source).2.state.eventQueue.pending
      ≠ s.state.eventQueue.pending ++ [handle.key]) : s.send handle source = ({}, s) := by
  rw [ne_eq, send_pushes_iff] at h
  unfold send
  split
  · next howns =>
    have hrefuses : s.state.acceptsSend handle.key = false :=
      Bool.eq_false_iff.mpr fun haccepts => h ⟨howns, haccepts⟩
    rw [State.sendEvent_of_refuses hrefuses]
    rfl
  · rfl

/-- A drain that finds an event takes it off the queue and calls the callback with which it was
created. -/
theorem resume_drain_of_cons {created : Key → Option κ} {key : Key} {rest : List Key}
    (h : s.state.EventsSound none created) (hpending : s.state.eventQueue.pending = key :: rest)
    (events : Nat) :
    ∃ callback, created key = some callback ∧ s.resume (.drain events)
      = (.call callback (.eventReturned (events + 1) key (some callback)),
        { s with state := .startEvent { s.state with eventQueue.pending := rest } key }) := by
  have hmem : key ∈ s.state.eventQueue.pending := by simp [hpending]
  obtain ⟨task, hget⟩ := Option.isSome_iff_exists.mp (h.isSome_of_pending key hmem)
  obtain ⟨callback, hcreated⟩ :=
    Option.isSome_iff_exists.mp (h.sound key task hget).isSome_created
  have hpop := h.popEvent_eq hpending
  rw [hcreated] at hpop
  exact ⟨callback, hcreated, by simp [resume, hpop, Effect.callIfPresent]⟩

/-- A drain that finds no event goes on to the timers. -/
theorem resume_drain_of_nil (hpending : s.state.eventQueue.pending = []) (events : Nat) :
    s.resume (.drain events) = (.read (.evaluate events), s) := by
  simp [resume, State.popEvent_of_nil hpending]

end Scheduler

end CoopScheduler
