import CoopScheduler.Proofs.Agreement
import CoopScheduler.Proofs.Latest

/-!
# Countdowns that are left behind

A task that is released while its callback runs is freed when the run is over. Whatever countdown
it has by then is not taken off the queue: the end of the run **leaves it behind**
(`Host.leavesBehind`). It takes a callback that releases its own task and then reschedules or
rearms it (`Host.Run.not_leavesBehind`), as any other release takes the countdown away.

* `Host.step_attended`: as long as a step leaves nothing behind, each countdown in the queue
  belongs to a task that exists (`State.Attended`), and `Host.exists_unattended`: otherwise one
  does not.
* `Host.queue_attended`: **on a run that leaves nothing behind**, in every state of it and so also
  while callbacks run, the queue holds countdowns of queued tasks only, the list of queued timers
  tells what the tasks themselves tell, and there are no more countdowns than tasks.
* `Host.released_task_left_behind`: a task that is gone and still listed.
-/

namespace CoopScheduler

variable {κ : Type}

namespace State

/-- Each countdown in the queue belongs to a task that exists. -/
def Attended (s : State κ) : Prop :=
  ∀ c ∈ s.timerQueue.entries, (s.timers.get? c.key).isSome = true

variable {s : State κ} {key : Key}

/-- A new task gets a key that nothing in the queue has. -/
theorem Attended.unclaimed (h : s.Attended) : s.Unclaimed := by
  intro value key timers hinsert c hc heq
  have hlive := h c hc
  rw [heq, Arena.get?_eq_none_of_insert hinsert] at hlive
  cases hlive

/-- If all tasks in the queue exist, they are queued. -/
theorem Attended.isTimerQueued (h : s.Attended) (hagrees : s.Agrees) {c : Countdown}
    (hc : c ∈ s.timerQueue.entries) : s.isTimerQueued c.key = true := by
  obtain ⟨task, hget⟩ := Option.isSome_iff_exists.mp (h c hc)
  have hrecord := hagrees.countdown?_eq c hc task hget
  exact isTimerQueued_iff.mpr ⟨task, hget, (TimerTask.countdown?_eq_some_iff.mp hrecord).1⟩

/-- A release that frees a task takes its countdown off the queue. -/
theorem Agrees.ne_of_freedNow? (h : s.Agrees) {freed : Key}
    (hfreed : s.freedNow? key = some freed) :
    ∀ c ∈ (s.releaseTimer key).2.timerQueue.entries, c.key ≠ freed := by
  unfold freedNow? at hfreed
  split at hfreed
  · next hany =>
    obtain ⟨task, hget, hphase⟩ := (Option.any_eq_true _ _).mp hany
    cases hfreed
    obtain ⟨t, ht, hfree, -⟩ := exists_get?_removeTimer hget
    have hgone := (h.removeTimer key).ne_of_not_queued ht hfree
    have hrunning : task.phase ≠ .running := by simpa using hphase
    simpa [State.releaseTimer, hget, hrunning] using hgone
  · cases hfreed

/-- Whether a task was released and is queued all the same. -/
def isReleasedQueued (s : State κ) (key : Key) : Bool :=
  (s.timers.get? key).any fun t => t.released && t.phase = .queued

theorem isReleasedQueued_iff : s.isReleasedQueued key = true ↔
    ∃ task, s.timers.get? key = some task ∧ task.released = true ∧ task.phase = .queued := by
  simp [isReleasedQueued, Option.any_eq_true]

/-- The end of a run that frees a task does not touch the queue, and unless the task was queued
meanwhile there is no need to. -/
theorem Agrees.ne_of_freedAfterRun? (h : s.Agrees) {freed : Key}
    (hfreed : s.freedAfterRun? key = some freed) (hfree : s.isReleasedQueued key = false)
    (callback : Option κ) (after : Tick) :
    ∀ c ∈ (s.finishTimer key callback after).2.timerQueue.entries, c.key ≠ freed := by
  unfold freedAfterRun? at hfreed
  split at hfreed
  · next hany =>
    obtain ⟨task, hget, hreleased⟩ := (Option.any_eq_true _ _).mp hany
    cases hfreed
    have hphase : task.phase ≠ .queued := by
      simpa [isReleasedQueued, hget, hreleased] using hfree
    simpa [State.finishTimer, hget, hreleased] using h.ne_of_not_queued hget hphase
  · cases hfreed

end State

namespace Host

variable {c : Config} {ok : Condition κ} {past : History κ} {s s' : Host κ} {m : Move κ}

/-- Whether a move ends the run of a task that was released and is queued all the same. -/
def leavesBehind (s : Host κ) (m : Move κ) : Bool :=
  match s.resumed? m with
  | some (.settle _ key _ _, _) => s.scheduler.state.isReleasedQueued key
  | _ => false

/-- A step that frees a task and leaves nothing behind leaves no countdown of this task. -/
theorem ne_of_freed? (h : s.step m = some s') (hagrees : s.scheduler.state.Agrees)
    (hok : s.leavesBehind m = false) {key : Key} (hfreed : s.freed? m = some key) :
    ∀ queued ∈ s'.scheduler.state.timerQueue.entries, queued.key ≠ key := by
  rcases step_scheduler h with ⟨op, readAt, hperformed, -, heq⟩ |
    ⟨activation, readAt, hperformed, hresumed, heq⟩ | ⟨hperformed, hresumed, -⟩
  · simp only [freed?, hperformed] at hfreed
    rw [heq]
    cases op with
    | releaseTimer handle =>
      simp only [Scheduler.freed?] at hfreed
      split at hfreed
      · next howns =>
        simpa [Scheduler.perform, Scheduler.releaseTimer, howns]
          using hagrees.ne_of_freedNow? hfreed
      · cases hfreed
    | _ => cases hfreed
  · simp only [freed?, hperformed, hresumed] at hfreed
    simp only [leavesBehind, hresumed] at hok
    rw [heq]
    cases activation with
    | settle events key' callback after =>
      exact hagrees.ne_of_freedAfterRun? hfreed hok callback after
    | _ => cases hfreed
  · simp [freed?, hperformed, hresumed] at hfreed

/-- **A step that leaves nothing behind** leaves no countdown without its task. -/
theorem step_attended (hwf : s.WellFormed c) (h : s.step m = some s')
    (hagrees : s.scheduler.state.Agrees) (hattended : s.scheduler.state.Attended)
    (hok : s.leavesBehind m = false) : s'.scheduler.state.Attended := by
  intro queued hqueued
  rcases mem_entries_or_isSome_get? hwf h queued hqueued with hbefore | hlive
  · rcases freed?_or_isSome_get? h (hattended queued hbefore) with hfreed | hlive
    · exact absurd rfl (ne_of_freed? h hagrees hok hfreed queued hqueued)
    · exact hlive
  · exact hlive

/-- A step that leaves a countdown behind does leave one without its task. -/
theorem exists_unattended (h : s.step m = some s') (hagrees : s.scheduler.state.Agrees)
    (hleaves : s.leavesBehind m = true) : ¬s'.scheduler.state.Attended := by
  unfold leavesBehind at hleaves
  split at hleaves
  · next events key callback after readAt hresumed =>
    obtain ⟨task, hget, hreleased, hphase⟩ := State.isReleasedQueued_iff.mp hleaves
    obtain ⟨queued, hmem, rfl⟩ := hagrees.exists_mem key task hget hphase
    rcases step_scheduler h with ⟨-, -, -, hnone, -⟩ | ⟨activation, readAt', -, hsome, heq⟩ |
      ⟨-, hnone, -⟩
    · rw [hresumed] at hnone
      cases hnone
    · rw [hresumed] at hsome
      cases hsome
      intro hattended
      have hlive := hattended queued
      simp [heq, State.finishTimer, hget, hreleased, hmem, Arena.get?_remove] at hlive
    · rw [hresumed] at hnone
      cases hnone
  · cases hleaves

/-- No countdown is left behind if no task is queued again once it was released in its own
callback. -/
theorem Run.not_leavesBehind (h : Run c ok past s)
    (hok : ∀ past s m s', ok past s m s' → Unrevived past s m s') (m : Move κ) :
    s.leavesBehind m = false := by
  have hsound := (h.current hok).sound
  unfold leavesBehind
  split
  · refine Bool.eq_false_iff.mpr fun hqueued => ?_
    obtain ⟨task, hget, hreleased, hphase⟩ := State.isReleasedQueued_iff.mp hqueued
    exact hsound.not_queued hget hreleased hphase
  · rfl

/-- Records and queue agree and the tasks in the queue exist, or a step has left something
behind. -/
theorem Run.attended_or_leftBehind (h : Run c ok past s) :
    s.scheduler.state.Agrees ∧ s.scheduler.state.Attended ∨
      ∃ step ∈ past, step.1.leavesBehind step.2 = true := by
  refine h.induct (I := fun past s => s.scheduler.state.Agrees ∧ s.scheduler.state.Attended ∨
    ∃ step ∈ past, step.1.leavesBehind step.2 = true)
    (fun id time => .inl ⟨agrees_create id time, ?_⟩) ?_
  · simp [State.Attended, create, Scheduler.create, State.ofConfig]
  · intro past s m s' hwf hI hstep _
    rcases hI with ⟨hagrees, hattended⟩ | ⟨step, hmem, hleaves⟩
    · cases hleaves : s.leavesBehind m with
      | true => exact .inr ⟨(s, m), by simp, hleaves⟩
      | false =>
        exact .inl ⟨step_agrees hstep hagrees hattended.unclaimed,
          step_attended hwf hstep hagrees hattended hleaves⟩
    · exact .inr ⟨step, List.mem_append_left _ hmem, hleaves⟩

/-- On a run that leaves nothing behind, records and queue agree and the tasks in the queue
exist. -/
theorem Run.attended (h : Run c ok past s)
    (hok : ∀ past s m s', ok past s m s' → s.leavesBehind m = false) :
    s.scheduler.state.Agrees ∧ s.scheduler.state.Attended := by
  refine h.attended_or_leftBehind.resolve_right ?_
  rintro ⟨⟨t, m⟩, hmem, hleaves⟩
  obtain ⟨before, t', -, -, hstepOk, -⟩ := h.exists_of_mem hmem
  simp [hok _ _ _ _ hstepOk] at hleaves

/-- **The queue holds countdowns of queued tasks only**, on a run that leaves nothing behind: the
timers that the scheduler lists say themselves that they are queued, and when they are due, and
there are no more of them than tasks, of which there are no more than the configuration allows. -/
theorem queue_attended (h : Run c ok past s)
    (hok : ∀ past s m s', ok past s m s' → s.leavesBehind m = false) :
    (∀ queued ∈ s.scheduler.state.timerQueue.entries,
      s.scheduler.state.isTimerQueued queued.key = true) ∧
    (∀ handle deadline, (handle, deadline) ∈ s.scheduler.queuedTimers →
      s.scheduler.isTimerQueued handle = true ∧
        s.scheduler.timerDeadline handle = some deadline) ∧
    s.scheduler.stats.queuedTimers ≤ s.scheduler.stats.timerTasks ∧
    s.scheduler.stats.timerTasks ≤ c.maxTimerTasks := by
  obtain ⟨hagrees, hattended⟩ := h.attended hok
  have hledger := h.ledger
  refine ⟨fun queued hmem => hattended.isTimerQueued hagrees hmem, ?_, ?_, ?_⟩
  · intro handle deadline hlisted
    obtain ⟨queued, hmem, heq⟩ := List.mem_map.mp hlisted
    cases heq
    obtain ⟨task, hget⟩ := Option.isSome_iff_exists.mp (hattended queued hmem)
    have hqueued := hattended.isTimerQueued hagrees hmem
    have hdeadline := hagrees.timerDeadline_eq hmem hget
    exact ⟨by simpa [Scheduler.isTimerQueued, Scheduler.owns] using hqueued,
      by simpa [Scheduler.timerDeadline, Scheduler.owns] using hdeadline⟩
  · have hlive : ∀ key ∈ s.scheduler.state.timerQueue.entries.map Countdown.key,
        (s.scheduler.state.timers.shape.get? key).isSome = true := by
      intro key hkey
      obtain ⟨queued, hmem, rfl⟩ := List.mem_map.mp hkey
      rw [Arena.isSome_get?_shape]
      exact hattended queued hmem
    have hle := hledger.valid.length_le_size hagrees.nodup hlive
    rwa [List.length_map] at hle
  · rw [← hledger.capacity_eq]
    exact hledger.valid.size_le

/-- A callback releases another task and its own, and then adds a third one in the slot of the
first. When it has returned, that one is all that is listed. -/
theorem queue_attended_after_releases :
    ∃ (past : History Nat) (s : Host Nat),
      Run {} (fun _ s m _ => s.leavesBehind m = false) past s ∧ s.passes = [] ∧
      s.scheduler.queuedTimers = [(⟨⟨0⟩, ⟨1, 1⟩⟩, .ofTime 500)] ∧
      s.scheduler.isTimerQueued ⟨⟨0⟩, ⟨1, 1⟩⟩ = true ∧
      s.scheduler.timerDeadline ⟨⟨0⟩, ⟨1, 1⟩⟩ = some (.ofTime 500) ∧
      s.scheduler.stats.queuedTimers ≤ s.scheduler.stats.timerTasks := by
  obtain ⟨past, s, hrun, hpasses, hlisted⟩ :
      ∃ (past : History Nat) (s : Host Nat),
        Run {} (fun _ s m _ => s.leavesBehind m = false) past s ∧ s.passes = [] ∧
        s.scheduler.queuedTimers = [(⟨⟨0⟩, ⟨1, 1⟩⟩, .ofTime 500)] :=
    ⟨_, _, Run.of_play ⟨0⟩ 0
      [.ask (.addTimer 10 (.after 0) true), .perform 0, .ask (.addTimer 20 (.after 100) false),
       .perform 0, .enter, .resume, .resume, .resume, .ask (.releaseTimer ⟨⟨0⟩, ⟨1, 0⟩⟩),
       .perform 0, .ask (.releaseTimer ⟨⟨0⟩, ⟨0, 0⟩⟩), .perform 0,
       .ask (.addTimer 30 (.after 500) false), .perform 0, .resume, .resume, .resume, .resume]
      rfl, rfl, rfl⟩
  obtain ⟨-, htells, hfew, -⟩ := queue_attended hrun fun _ _ _ _ hok => hok
  obtain ⟨hqueued, hdeadline⟩ := htells ⟨⟨0⟩, ⟨1, 1⟩⟩ (.ofTime 500) (by simp [hlisted])
  exact ⟨past, s, hrun, hpasses, hlisted, hqueued, hdeadline, hfew⟩

/-- **A task that is gone and still listed**: a callback has released its own task and then
rescheduled it. No callback is running, but a deadline is listed for a task that does not
exist, and there are more countdowns than tasks. -/
theorem released_task_left_behind :
    ∃ (past : History Nat) (s : Host Nat), Run {} (fun _ _ _ _ => True) past s ∧
      s.passes = [] ∧ s.inFlight = [] ∧
      s.scheduler.state.timerQueue.entries = [⟨⟨0, 0⟩, .ofTime 0, 1000⟩] ∧
      s.scheduler.state.timers.get? ⟨0, 0⟩ = none ∧
      s.scheduler.queuedTimers = [(⟨⟨0⟩, ⟨0, 0⟩⟩, .ofTime 1000)] ∧
      s.scheduler.isTimerQueued ⟨⟨0⟩, ⟨0, 0⟩⟩ = false ∧
      s.scheduler.timerDeadline ⟨⟨0⟩, ⟨0, 0⟩⟩ = none ∧
      s.scheduler.stats.queuedTimers = 1 ∧ s.scheduler.stats.timerTasks = 0 :=
  ⟨_, _, Run.of_play ⟨0⟩ 0
    [.ask (.addTimer 10 (.after 0) false), .perform 0, .enter, .resume, .resume, .resume,
     .ask (.releaseTimer ⟨⟨0⟩, ⟨0, 0⟩⟩), .perform 0,
     .ask (.reschedule ⟨⟨0⟩, ⟨0, 0⟩⟩ (.after 1000)), .perform 0, .resume, .resume, .resume,
     .resume] rfl,
   rfl, rfl, rfl, rfl, rfl, rfl, rfl, rfl, rfl⟩

end Host

end CoopScheduler
