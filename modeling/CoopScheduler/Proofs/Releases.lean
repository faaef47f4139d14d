import CoopScheduler.Proofs.Occupancy
import CoopScheduler.Proofs.Requests

/-!
# Slots that are freed

The slot of a timer task is freed when the task is released while it is not running, or at the
end of its run if it was released meanwhile. Both are read off a host and its next move
(`Host.freed?`), so a history tells how often each slot was freed (`Host.releases`).

* `Host.step_reshaped`: a step frees the slot of `Host.freed?`, stores one task, or leaves the
  slots as they are.
* `Host.Run.ledger`: on any run, each slot shows how often it was freed, up to whole turns of
  its 32-bit generation, and a countdown in the queue belongs to a task that exists or to one
  whose slot was freed since (`Host.Spent`).
* `Host.Ledger.key_ne_of_insert`: hence no new task gets the key of a countdown in the queue, as
  long as its slot was not freed `2 ^ 32` times.
-/

namespace CoopScheduler

variable {κ : Type}

/-! ### What sections do to the slots -/

namespace State

variable {s s' : State κ} {key : Key}

@[simp]
theorem shape_removeTimer (s : State κ) (key : Key) :
    (s.removeTimer key).timers.shape = s.timers.shape := by
  unfold removeTimer
  split
  · rfl
  · split
    · exact Arena.shape_modify ..
    · exact Arena.shape_modify ..
    · rfl

@[simp]
theorem shape_queueTimer (s : State κ) (key : Key) (origin : Tick) (period : UInt32) :
    (s.queueTimer key origin period).timers.shape = s.timers.shape :=
  Arena.shape_modify ..

theorem shape_addTimer {callback : κ} {period : Period} {autoRepeat wake : Bool} {now : Tick}
    (h : s.addTimer callback period autoRepeat now = .ok (key, wake, s')) :
    s.timers.shape.insert () = .ok (key, s'.timers.shape) := by
  obtain ⟨timers, hinsert, ⟨-, rfl⟩ | ⟨micros, leads, -, rfl⟩⟩ := addTimer_cases h
  · exact Arena.shape_insert hinsert
  · rw [wakeIf_timers, shape_queueTimer]
    exact Arena.shape_insert hinsert

theorem shape_rescheduleTimer {period : Period} {wake : Bool} {now : Tick}
    (h : s.rescheduleTimer key period now = some (wake, s')) :
    s'.timers.shape = s.timers.shape := by
  obtain ⟨task, updated, -, rfl, ⟨-, rfl⟩ | ⟨micros, -, rfl⟩⟩ := rescheduleTimer_cases h
  · simp
  · simp

theorem shape_rearmTimer {wake : Bool} {now : Tick}
    (h : s.rearmTimer key now = some (wake, s')) : s'.timers.shape = s.timers.shape := by
  obtain ⟨-, rfl⟩ | ⟨task, updated, -, -, rfl, ⟨-, rfl⟩ | ⟨micros, leads, -, rfl⟩⟩ :=
    rearmTimer_cases h
  · rfl
  · simp
  · simp

/-- The task that a release frees at once. -/
def freedNow? (s : State κ) (key : Key) : Option Key :=
  if (s.timers.get? key).any (·.phase ≠ .running) then some key else none

/-- The task that the end of its run frees. -/
def freedAfterRun? (s : State κ) (key : Key) : Option Key :=
  if (s.timers.get? key).any (·.released) then some key else none

theorem reshaped_releaseTimer (s : State κ) (key : Key) :
    s.timers.shape.Reshaped (s.releaseTimer key).2.timers.shape (s.freedNow? key) := by
  unfold releaseTimer freedNow?
  cases hget : s.timers.get? key with
  | none => exact .kept rfl
  | some task =>
    by_cases hphase : task.phase = .running
    · simp only [Option.any_some, hphase, ne_eq, not_true, decide_false, Bool.false_eq_true,
        if_false, if_true]
      exact .kept (Arena.shape_modify ..)
    · simp only [Option.any_some, hphase, ne_eq, not_false_eq_true, decide_true, if_true, if_false]
      refine .freed (by simp [hget]) ?_
      rw [Arena.shape_remove, shape_removeTimer]

theorem shape_settleTimer (s : State κ) (key : Key) (task : TimerTask κ) (after : Tick) :
    (s.settleTimer key task after).timers.shape = s.timers.shape := by
  unfold settleTimer
  split <;> simp

theorem reshaped_finishTimer (s : State κ) (key : Key) (callback : Option κ) (after : Tick) :
    s.timers.shape.Reshaped (s.finishTimer key callback after).2.timers.shape
      (s.freedAfterRun? key) := by
  unfold finishTimer freedAfterRun?
  cases hget : s.timers.get? key with
  | none => exact .kept rfl
  | some task =>
    cases hreleased : task.released with
    | true =>
      simp only [Option.any_some, hreleased, if_true]
      exact .freed (by simp [hget]) (Arena.shape_remove ..)
    | false =>
      simp only [Option.any_some, hreleased, Bool.false_eq_true, if_false]
      refine .kept ?_
      split <;> simp [shape_settleTimer]

theorem shape_evaluate (s : State κ) (c : Config) (now : Tick) :
    (s.evaluate c now).2.timers.shape = s.timers.shape := by
  by_cases hpending : s.eventQueue.pending = []
  · rw [evaluate_of_idle hpending]
    rcases s.popTimer_cases now with ⟨rest, -, heq⟩ | ⟨head, rest, task, -, -, -, heq⟩
    · rw [heq]
    · rw [heq]
      exact Arena.shape_modify ..
  · rw [evaluate_of_pending hpending]

/-- No countdown in the queue has the key that the next task will be given. -/
def Unclaimed (s : State κ) : Prop :=
  ∀ ⦃value key timers⦄, s.timers.insert value = .ok (key, timers) →
    ∀ c ∈ s.timerQueue.entries, c.key ≠ key

end State

namespace Scheduler

/-- The task that a request frees. -/
def freed? (s : Scheduler κ) : Operation κ → Option Key
  | .releaseTimer handle => if s.owns handle.owner then s.state.freedNow? handle.key else none
  | _ => none

/-- **What a request does to the slots.** -/
theorem perform_reshaped (s : Scheduler κ) (op : Operation κ) (now : Tick) :
    s.state.timers.shape.Reshaped (s.perform op now).2.state.timers.shape (s.freed? op) := by
  cases op with
  | addTimer callback period autoRepeat =>
    simp only [perform, addTimer, freed?]
    cases hadd : s.state.addTimer callback period autoRepeat now with
    | error refusal => cases refusal <;> exact .kept rfl
    | ok stored => exact .stored (State.shape_addTimer hadd)
  | reschedule handle period =>
    simp only [perform, reschedule, freed?]
    split
    · split
      · exact .kept rfl
      · next hresult => exact .kept (State.shape_rescheduleTimer hresult)
    · exact .kept rfl
  | removeTimer handle =>
    simp only [perform, removeTimer, freed?]
    split
    · exact .kept (State.shape_removeTimer ..)
    · exact .kept rfl
  | rearm handle =>
    simp only [perform, rearm, freed?]
    split
    · split
      · exact .kept rfl
      · next hresult => exact .kept (State.shape_rearmTimer hresult)
    · exact .kept rfl
  | releaseTimer handle =>
    simp only [perform, releaseTimer, freed?]
    split
    · exact s.state.reshaped_releaseTimer handle.key
    · exact .kept rfl
  | createEvent callback =>
    exact .kept (congrArg Arena.shape (s.createEvent_timersKept callback).timers_eq)
  | send handle source =>
    exact .kept (congrArg Arena.shape (s.send_timersKept handle source).timers_eq)
  | releaseEvent handle =>
    exact .kept (congrArg Arena.shape (s.releaseEvent_timersKept handle).timers_eq)

end Scheduler

namespace Host

/-! ### What steps do to the slots -/

variable {c : Config} {ok : Condition κ} {past : History κ} {s s' : Host κ} {m : Move κ}
  {key : Key} {a : Arming}

/-- The timer task that a move frees. -/
def freed? (s : Host κ) (m : Move κ) : Option Key :=
  match s.performed? m, s.resumed? m with
  | some (op, _), _ => s.scheduler.freed? op
  | none, some (.settle _ key _ _, _) => s.scheduler.state.freedAfterRun? key
  | none, _ => none

/-- How often a slot was freed. -/
def releases (past : History κ) (index : Nat) : Nat :=
  (log freed? past).countP (·.index = index)

@[simp]
theorem releases_concat (past : History κ) (s : Host κ) (m : Move κ) (index : Nat) :
    releases (past ++ [(s, m)]) index
      = releases past index + if (s.freed? m).any (·.index = index) then 1 else 0 := by
  rw [releases, log_concat, List.countP_append]
  cases s.freed? m with
  | none => rfl
  | some key => simp [releases, List.countP_singleton]

theorem releases_append (past later : History κ) (index : Nat) :
    releases (past ++ later) index = releases past index + releases later index := by
  rw [releases, log_append, List.countP_append, releases, releases]

theorem releases_le_length (past : History κ) (index : Nat) : releases past index ≤ past.length :=
  Nat.le_trans List.countP_le_length (List.length_filterMap_le ..)

/-- No slot was freed so often that its generation has started over. -/
def FewReleases (past : History κ) : Prop :=
  ∀ index, releases past index < UInt32.size

/-- A slot was freed no more often before a step than after it. -/
theorem FewReleases.of_concat (h : FewReleases (past ++ [(s, m)])) : FewReleases past := by
  intro index
  have hafter := h index
  rw [releases_concat] at hafter
  omega

/-- A short history has few releases. -/
theorem FewReleases.of_length_lt (h : past.length < UInt32.size) : FewReleases past :=
  fun index => Nat.lt_of_le_of_lt (releases_le_length past index) h

/-- **What a step does to the slots** of the timer tasks. -/
theorem step_reshaped (h : s.step m = some s') :
    s.scheduler.state.timers.shape.Reshaped s'.scheduler.state.timers.shape (s.freed? m) := by
  rcases step_scheduler h with ⟨op, readAt, hperformed, -, heq⟩ |
    ⟨activation, readAt, hperformed, hresumed, heq⟩ | ⟨hperformed, hresumed, heq⟩
  · simpa only [freed?, hperformed, heq] using s.scheduler.perform_reshaped op (.ofTime readAt)
  · rw [heq, freed?, hperformed, hresumed]
    cases activation with
    | drain events =>
      rw [Scheduler.resume_drain_state]
      exact .kept (congrArg Arena.shape (State.popEvent_timersKept _).timers_eq)
    | eventReturned events key callback =>
      exact .kept (congrArg Arena.shape (State.finishEvent_timersKept ..).timers_eq)
    | evaluate events now =>
      rw [Scheduler.resume_evaluate_state]
      exact .kept (State.shape_evaluate ..)
    | settle events key callback after => exact State.reshaped_finishTimer ..
    | _ => exact .kept rfl
  · rw [heq, freed?, hperformed, hresumed]
    exact .kept rfl

/-- A task whose countdown starts is queued, so it exists. -/
theorem isTimerQueued_of_arming? (hwf : s.WellFormed c) (h : s.step m = some s')
    (ha : s.arming? m = some a) : s'.scheduler.state.isTimerQueued a.key = true := by
  rcases step_timers hwf h with ⟨op, readAt, hperformed, -, heq⟩ |
    ⟨events, readAt, hperformed, hresumed, -⟩ |
    ⟨events, key, callback, readAt, hperformed, hresumed, heq⟩ | ⟨hnone, -, -⟩
  · rw [heq, (s.scheduler.perform_revised op readAt).isTimerQueued_iff]
    simp only [arming?, hperformed] at ha
    exact .inl ⟨a, ha, rfl⟩
  · simp [arming?, hperformed, hresumed] at ha
  · simp only [arming?, hperformed, hresumed] at ha
    -- A task that is put back was not released, so its run does not free it.
    have hkept : ∀ task, s.scheduler.state.timers.get? key = some task →
        task.released = true → task.phase ≠ .queued := by
      intro task hget hreleased
      simp [State.putBack?, hget, hreleased] at ha
    rw [heq, (State.Revised.finishTimer hkept).isTimerQueued_iff]
    exact .inl ⟨a, ha, rfl⟩
  · rw [hnone] at ha
    cases ha

theorem isSome_get?_of_isTimerQueued {s : State κ} (h : s.isTimerQueued key = true) :
    (s.timers.get? key).isSome = true := by
  obtain ⟨task, hget, -⟩ := State.isTimerQueued_iff.mp h
  rw [hget]
  rfl

/-- A task that existed before a step exists after it, unless the step frees it. -/
theorem freed?_or_isSome_get? (h : s.step m = some s')
    (hget : (s.scheduler.state.timers.get? key).isSome = true) :
    s.freed? m = some key ∨ (s'.scheduler.state.timers.get? key).isSome = true := by
  rw [← Arena.isSome_get?_shape] at hget ⊢
  exact (step_reshaped h).isSome_get? hget

/-- A countdown was in the queue before a step, or it starts now and its task exists. -/
theorem mem_entries_or_isSome_get? (hwf : s.WellFormed c) (h : s.step m = some s') :
    ∀ queued ∈ s'.scheduler.state.timerQueue.entries,
      queued ∈ s.scheduler.state.timerQueue.entries ∨
        (s'.scheduler.state.timers.get? queued.key).isSome = true := by
  intro queued hqueued
  obtain ⟨kept, hkept, hqueue⟩ := step_entries hwf h
  rw [hqueue] at hqueued
  cases harming : s.arming? m with
  | none =>
    rw [harming] at hqueued
    exact .inl (hkept.subset hqueued)
  | some a =>
    rw [harming] at hqueued
    rcases TimerQueue.mem_insert.mp hqueued with rfl | hqueued
    · exact .inr (isSome_get?_of_isTimerQueued (isTimerQueued_of_arming? hwf h harming))
    · exact .inl (hkept.subset hqueued)

/-! ### The ledger -/

/-- The slot of this key was freed since the key was given. -/
def Spent (past : History κ) (key : Key) : Prop :=
  ∃ n < releases past key.index, key.generation = UInt32.ofNat n

/-- Counts tell generations apart until these start over. -/
theorem eq_of_generation_eq {n k : Nat} (hn : n < UInt32.size) (hk : k < UInt32.size)
    (h : UInt32.ofNat n = UInt32.ofNat k) : n = k := by
  rw [← UInt32.toNat_inj, UInt32.toNat_ofNat_of_lt' hn, UInt32.toNat_ofNat_of_lt' hk] at h
  exact h

/-- The slots of the timer tasks in the light of what happened to them. -/
structure Ledger (c : Config) (past : History κ) (s : Host κ) : Prop where
  valid : s.scheduler.state.timers.shape.Valid
  capacity_eq : s.scheduler.state.timers.capacity = c.maxTimerTasks
  /-- Each slot shows how often it was freed. -/
  generationAt_eq : ∀ index,
    s.scheduler.state.timers.shape.generationAt index = UInt32.ofNat (releases past index)
  /-- A countdown in the queue has a task, or its slot was freed since. -/
  accounted : ∀ c ∈ s.scheduler.state.timerQueue.entries,
    (s.scheduler.state.timers.get? c.key).isSome = true ∨ Spent past c.key

theorem Spent.concat (h : Spent past key) : Spent (past ++ [(s, m)]) key := by
  obtain ⟨n, hlt, hgeneration⟩ := h
  refine ⟨n, ?_, hgeneration⟩
  rw [releases_concat]
  exact Nat.lt_add_right _ hlt

/-- A key whose slot is freed is spent. -/
theorem Ledger.spent_of_freed? (hI : Ledger c past s) (hfreed : s.freed? m = some key)
    (hget : (s.scheduler.state.timers.get? key).isSome = true) :
    Spent (past ++ [(s, m)]) key := by
  refine ⟨releases past key.index, ?_, ?_⟩
  · rw [releases_concat, hfreed]
    simp
  · rw [← hI.generationAt_eq]
    exact Arena.generation_of_get? (by rwa [Arena.isSome_get?_shape])

theorem Ledger.step (hwf : s.WellFormed c) (hI : Ledger c past s) (h : s.step m = some s') :
    Ledger c (past ++ [(s, m)]) s' := by
  have hreshaped := step_reshaped h
  have hcapacity : s'.scheduler.state.timers.capacity = s.scheduler.state.timers.capacity :=
    hreshaped.capacity_eq
  refine ⟨hreshaped.valid hI.valid, hcapacity.trans hI.capacity_eq, fun index => ?_,
    fun queued hqueued => ?_⟩
  · rw [hreshaped.generationAt_eq, hI.generationAt_eq, releases_concat]
    split
    · rw [UInt32.ofNat_add]
      rfl
    · rfl
  · rcases mem_entries_or_isSome_get? hwf h queued hqueued with hbefore | hlive
    · rcases hI.accounted queued hbefore with hget | hspent
      · rcases freed?_or_isSome_get? h hget with hfreed | hlive
        · exact .inr (hI.spent_of_freed? hfreed hget)
        · exact .inl hlive
      · exact .inr hspent.concat
    · exact .inl hlive

theorem ledger_create (id : SchedulerId) (time : Nat) :
    Ledger c [] (create (κ := κ) id c time) := by
  have hshape : (create (κ := κ) id c time).scheduler.state.timers.shape
      = { capacity := c.maxTimerTasks } := Arena.shape_empty _
  refine ⟨?_, rfl, fun index => ?_, ?_⟩
  · rw [hshape]
    exact Arena.valid_empty _
  · rw [hshape]
    simp [Arena.generationAt, releases, log]
  · simp [create, Scheduler.create, State.ofConfig]

/-- **Every run keeps the ledger.** -/
theorem Run.ledger (h : Run c ok past s) : Ledger c past s :=
  h.induct ledger_create fun hwf hI hstep _ => hI.step hwf hstep

/-- **No key is given again** that a countdown in the queue still has, as long as its slot was not
freed so often that its generation has started over. -/
theorem Ledger.key_ne_of_insert (hI : Ledger c past s) {value : TimerTask κ}
    {timers : Arena (TimerTask κ)}
    (hinsert : s.scheduler.state.timers.insert value = .ok (key, timers))
    (hfew : releases past key.index < UInt32.size) :
    ∀ queued ∈ s.scheduler.state.timerQueue.entries, queued.key ≠ key := by
  intro queued hqueued heq
  rcases hI.accounted queued hqueued with hget | ⟨n, hlt, hgeneration⟩
  · rw [heq, Arena.get?_eq_none_of_insert hinsert] at hget
    cases hget
  · have hnew := Arena.generation_of_insert (Arena.shape_insert hinsert)
    rw [heq] at hlt hgeneration
    rw [hI.generationAt_eq, hgeneration] at hnew
    exact Nat.ne_of_lt hlt (eq_of_generation_eq (Nat.lt_trans hlt hfew) hfew hnew)

theorem Ledger.unclaimed (hI : Ledger c past s) (hfew : FewReleases past) :
    s.scheduler.state.Unclaimed :=
  fun _ _ _ hinsert => hI.key_ne_of_insert hinsert (hfew _)

end Host

end CoopScheduler
