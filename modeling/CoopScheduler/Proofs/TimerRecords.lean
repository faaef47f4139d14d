import CoopScheduler.Proofs.Sections

/-!
# What becomes of the record of a timer task

The record of a timer task is changed in five ways: the task is added, taken off the queue,
started anew, taken out to run, or settled after its run (`TimerTask.added`, `TimerTask.unqueued`,
`TimerTask.restarted`, `TimerTask.started`, `TimerTask.settled`).

There is an equation for each section on timer tasks (`State.removeTimer_get?` and so on): it says
which of these its own record undergoes, and that the others stay what they are.
-/

namespace CoopScheduler

variable {κ : Type}

namespace TimerTask

/-- The task is not queued any more, or will not be queued again after its run. -/
def unqueued (t : TimerTask κ) : TimerTask κ :=
  match t.phase with
  | .queued => { t with phase := .inert }
  | .running => { t with rearm := false }
  | .inert => t

/-- The countdown of the task begins anew at `now`, with this period, unless that is `never`. -/
def restarted (t : TimerTask κ) (period : Period) (now : Tick) : TimerTask κ :=
  { t.unqueued with
    period := period
    origin := now
    phase := if period = .never then t.unqueued.phase else .queued }

/-- A new task. -/
def added (callback : κ) (period : Period) (autoRepeat : Bool) (now : Tick) : TimerTask κ where
  callback := some callback
  period := period
  autoRepeat := autoRepeat
  origin := now
  phase := if period = .never then .inert else .queued

/-- The task is taken out to run. -/
def started (t : TimerTask κ) : TimerTask κ :=
  { t with callback := none, phase := .running, rearm := t.autoRepeat }

/-- The run of the task is over. If nothing was decided meanwhile, a task that repeats is queued
and any other one is inert. -/
def settled (t : TimerTask κ) (callback : Option κ) (after : Tick) : TimerTask κ :=
  if t.phase = .running then
    if t.rearm = true ∧ t.period ≠ .never then
      { t with callback := callback, origin := after, phase := .queued, rearm := false }
    else
      { t with callback := callback, phase := .inert, rearm := false }
  else
    { t with callback := callback, rearm := false }

variable {t : TimerTask κ}

theorem unqueued_phase_ne (t : TimerTask κ) : t.unqueued.phase ≠ .queued := by
  unfold unqueued
  cases hphase : t.phase <;> simp [hphase]

/-- A task that is running and was taken off the queue will not go back there. -/
theorem rearm_of_unqueued (h : t.unqueued.phase = .running) : t.unqueued.rearm = false := by
  unfold unqueued at h ⊢
  cases hphase : t.phase <;> simp_all

/-- A task that is queued once its countdown was started anew has a period. -/
theorem exists_micros_of_restarted {period : Period} {now : Tick}
    (h : (t.restarted period now).phase = .queued) : ∃ micros, period = .after micros := by
  cases period with
  | never => exact absurd h t.unqueued_phase_ne
  | after micros => exact ⟨micros, rfl⟩

theorem rearm_of_restarted {period : Period} {now : Tick}
    (h : (t.restarted period now).phase = .running) : (t.restarted period now).rearm = false := by
  cases period with
  | never => exact rearm_of_unqueued h
  | after micros => cases h

theorem unqueued_period (t : TimerTask κ) : t.unqueued.period = t.period := by
  unfold unqueued
  split <;> rfl

theorem unqueued_autoRepeat (t : TimerTask κ) : t.unqueued.autoRepeat = t.autoRepeat := by
  unfold unqueued
  split <;> rfl

theorem settled_rearm (t : TimerTask κ) (callback : Option κ) (after : Tick) :
    (t.settled callback after).rearm = false := by
  unfold settled
  split
  · split <;> rfl
  · rfl

theorem settled_autoRepeat (t : TimerTask κ) (callback : Option κ) (after : Tick) :
    (t.settled callback after).autoRepeat = t.autoRepeat := by
  unfold settled
  split
  · split <;> rfl
  · rfl

/-- A task that is queued once its run is over was queued during the run, or repeats. -/
theorem queued_of_settled {callback : Option κ} {after : Tick}
    (h : (t.settled callback after).phase = .queued) :
    t.phase = .queued ∨
      ∃ micros, t.phase = .running ∧ t.rearm = true ∧ t.period = .after micros := by
  unfold settled at h
  split at h
  · next hphase =>
    split at h
    · next hrearm =>
      cases hperiod : t.period with
      | never => exact absurd hperiod hrearm.2
      | after micros => exact .inr ⟨micros, hphase, hrearm.1, rfl⟩
    · cases h
  · exact .inl h

end TimerTask

namespace State

variable {s s' : State κ} {key : Key} {task : TimerTask κ}

/-! ### One equation for each section -/

theorem removeTimer_get? (s : State κ) (key other : Key) :
    (s.removeTimer key).timers.get? other
      = if other = key then (s.timers.get? key).map .unqueued else s.timers.get? other := by
  unfold removeTimer
  cases hget : s.timers.get? key with
  | none => by_cases heq : other = key <;> simp [heq, hget]
  | some task =>
    by_cases heq : other = key
    · subst heq
      cases hphase : task.phase <;>
        simp [hphase, hget, Arena.get?_modify, TimerTask.unqueued]
    · cases hphase : task.phase <;> simp [hphase, heq, Arena.get?_modify]

theorem addTimer_get? {callback : κ} {period : Period} {autoRepeat wake : Bool} {now : Tick}
    (h : s.addTimer callback period autoRepeat now = .ok (key, wake, s')) (other : Key) :
    s'.timers.get? other = if other = key then
        some (.added callback period autoRepeat now)
      else
        s.timers.get? other := by
  obtain ⟨timers, hinsert, ⟨rfl, rfl⟩ | ⟨micros, leads, rfl, rfl⟩⟩ := addTimer_cases h
  · rw [Arena.get?_insert_of_ok hinsert]
    rfl
  · rw [wakeIf_timers, queueTimer, Arena.get?_modify, Arena.get?_insert_of_ok hinsert,
      Arena.get?_insert_of_ok hinsert]
    by_cases heq : other = key <;> simp [heq, TimerTask.added]

theorem rescheduleTimer_get? {period : Period} {wake : Bool} {now : Tick}
    (h : s.rescheduleTimer key period now = some (wake, s')) :
    ∃ task, s.timers.get? key = some task ∧ ∀ other, s'.timers.get? other
      = if other = key then some (task.restarted period now)
        else s.timers.get? other := by
  obtain ⟨task, updated, hget, rfl, ⟨rfl, rfl⟩ | ⟨micros, rfl, rfl⟩⟩ := rescheduleTimer_cases h
  · refine ⟨task, hget, fun other => ?_⟩
    rw [Arena.get?_modify, removeTimer_get?, removeTimer_get?, hget]
    by_cases heq : other = key <;> simp [heq, TimerTask.restarted]
  · refine ⟨task, hget, fun other => ?_⟩
    simp only [wakeIf_timers, queueTimer, Arena.get?_modify, removeTimer_get?, hget]
    by_cases heq : other = key <;> simp [heq, TimerTask.restarted]

/-- A rearm that succeeds names a task that does not exist, or one that is not queued. -/
theorem rearmTimer_get? {wake : Bool} {now : Tick}
    (h : s.rearmTimer key now = some (wake, s')) :
    s.timers.get? key = none ∧ s'.timers = s.timers ∨
      ∃ task, s.timers.get? key = some task ∧ task.phase ≠ .queued ∧ ∀ other,
        s'.timers.get? other
          = if other = key then some (task.restarted task.period now) else s.timers.get? other := by
  obtain ⟨hget, rfl⟩ | ⟨task, updated, hget, hphase, rfl, hqueued⟩ := rearmTimer_cases h
  · exact .inl ⟨hget, rfl⟩
  · have hperiod := task.unqueued_period
    refine .inr ⟨task, hget, hphase, fun other => ?_⟩
    obtain ⟨hnever, rfl⟩ | ⟨micros, leads, hmicros, rfl⟩ := hqueued
    · rw [Arena.get?_modify, removeTimer_get?, removeTimer_get?, hget]
      by_cases heq : other = key <;> simp [heq, TimerTask.restarted, hperiod, hnever]
    · simp only [wakeIf_timers, queueTimer, Arena.get?_modify, removeTimer_get?, hget]
      by_cases heq : other = key <;> simp [heq, TimerTask.restarted, hperiod, hmicros]

theorem releaseTimer_get? (hget : s.timers.get? key = some task) (other : Key) :
    (s.releaseTimer key).2.timers.get? other
      = if other = key then
          if task.phase = .running then
            some { task with released := true, rearm := false }
          else
            none
        else s.timers.get? other := by
  by_cases hphase : task.phase = .running
  · simp only [releaseTimer, hget, hphase, if_true, Arena.get?_modify]
    by_cases heq : other = key <;> simp [heq, hphase]
  · simp only [releaseTimer, hget, hphase, if_false, Arena.get?_remove, removeTimer_get?]
    by_cases heq : other = key <;> simp [heq]

theorem settleTimer_get? (s : State κ) (key : Key) (task : TimerTask κ) (after : Tick)
    (other : Key) :
    (s.settleTimer key task after).timers.get? other
      = if other = key then
          (s.timers.get? key).map fun t =>
            if task.rearm = true ∧ task.period ≠ .never then
              { t with origin := after, phase := .queued }
            else
              { t with phase := .inert }
        else s.timers.get? other := by
  unfold settleTimer
  split
  · next micros hrearm hperiod =>
    simp only [queueTimer, Arena.get?_modify, hrearm, hperiod]
    by_cases heq : other = key
    · cases s.timers.get? key <;> simp [heq]
    · simp [heq]
  · next hnot =>
    have hnone : ¬(task.rearm = true ∧ task.period ≠ .never) := by
      rintro ⟨hrearm, hperiod⟩
      cases hmicros : task.period with
      | never => exact hperiod hmicros
      | after micros => exact hnot micros hrearm hmicros
    simp only [Arena.get?_modify, if_neg hnone]

theorem finishTimer_get? (hget : s.timers.get? key = some task) (callback : Option κ)
    (after : Tick) (other : Key) :
    (s.finishTimer key callback after).2.timers.get? other
      = if other = key then
          if task.released then none else some (task.settled callback after)
        else s.timers.get? other := by
  cases hreleased : task.released with
  | true => simp only [finishTimer, hget, hreleased, if_true, Arena.get?_remove]
  | false =>
    simp only [finishTimer, hget, hreleased, Bool.false_eq_true, if_false, Arena.get?_modify]
    by_cases hphase : task.phase = .running
    · simp only [hphase, if_true, settleTimer_get?, Arena.get?_modify, hget, TimerTask.settled]
      by_cases heq : other = key
      · simp only [heq, if_true, Option.map_some]
        split <;> rfl
      · simp only [heq, if_false]
    · simp only [hphase, if_false, Arena.get?_modify, hget, TimerTask.settled]
      by_cases heq : other = key <;> simp [heq]

/-- A decision takes the task out that it fires, and touches no other record. -/
theorem evaluate_get? (s : State κ) (c : Config) (now : Tick) (other : Key) :
    (s.evaluate c now).2.timers.get? other
      = if (s.evaluate c now).1.fired? = some other then (s.timers.get? other).map .started
        else s.timers.get? other := by
  by_cases hpending : s.eventQueue.pending = []
  · rw [evaluate_of_idle hpending]
    rcases s.popTimer_cases now with ⟨rest, -, heq⟩ | ⟨head, rest, task, -, -, -, heq⟩
    · rw [heq]
      rfl
    · rw [heq]
      simp only [startTimer, Arena.get?_modify, Decision.fired?, Option.some.injEq]
      by_cases hkey : other = head.key
      · rw [if_pos hkey, if_pos hkey.symm, hkey]
        rfl
      · rw [if_neg hkey, if_neg (Ne.symm hkey)]
  · rw [evaluate_of_pending hpending]
    rfl

end State

end CoopScheduler
