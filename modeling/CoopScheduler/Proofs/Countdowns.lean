import CoopScheduler.Proofs.Leftovers
import CoopScheduler.Proofs.TimerSteps

/-!
# The countdown of a task

A task that exists has one countdown in the queue if it is queued, and none otherwise. This is a
matter of one key (`State.Single`): whatever may have been left in the queue of other tasks, it
holds until the slot of the key has been freed `2 ^ 32` times.

* `Host.step_single`: a step keeps it up, as a new task gets a key of which no countdown is left.
* `Host.isTimerQueued_of_fires`: hence **only a task that is queued fires**, and for good if no
  countdown is ever left behind (`Host.TraceableKey`).
-/

namespace CoopScheduler

variable {κ : Type}

namespace State

variable {s s' : State κ} {key : Key} {ended? : Option Key} {started? : Option Arming}

/-- How many countdowns of a task are in the queue. -/
def countdowns (s : State κ) (key : Key) : Nat :=
  s.timerQueue.entries.countP (·.key = key)

/-- A task has one countdown if it is queued, and none if it is not. -/
def Single (s : State κ) (key : Key) : Prop :=
  s.countdowns key ≤ if s.isTimerQueued key then 1 else 0

theorem Single.countdowns_eq_zero (h : s.Single key) (hidle : s.isTimerQueued key = false) :
    s.countdowns key = 0 := by
  simpa [Single, hidle] using h

/-- Where records and queue say the same, each task has one countdown at most. -/
theorem Agrees.single (h : s.Agrees) (hlive : (s.timers.get? key).isSome = true) :
    s.Single key := by
  obtain ⟨task, hget⟩ := Option.isSome_iff_exists.mp hlive
  rw [Single, countdowns]
  by_cases hphase : task.phase = .queued
  · rw [if_pos (isTimerQueued_iff.mpr ⟨task, hget, hphase⟩)]
    have hcount := List.nodup_iff_count_le_one.mp h.nodup key
    rwa [List.count, List.countP_map] at hcount
  · refine Nat.le_trans (Nat.le_of_eq (List.countP_eq_zero.mpr fun c hc hkey => ?_)) (Nat.zero_le _)
    exact h.ne_of_not_queued hget hphase c hc (by simpa using hkey)

/-- A task that is taken off the queue loses the only countdown it had. -/
theorem Single.countP_without (h : s.Single key) (ended? : Option Key) :
    (s.without ended?).entries.countP (·.key = key)
      ≤ if ended? ≠ some key ∧ s.isTimerQueued key = true then 1 else 0 := by
  have hle : (s.without ended?).entries.countP (·.key = key) ≤ s.countdowns key :=
    (s.without_sublist ended?).countP_le
  by_cases hended : ended? = some key
  · rw [if_neg (by simp [hended])]
    cases hqueued : s.isTimerQueued key with
    | false => rwa [h.countdowns_eq_zero hqueued] at hle
    | true =>
      by_cases hmem : ∃ c ∈ s.timerQueue.entries, c.key = key
      · obtain ⟨c, hc, hkey⟩ := hmem
        obtain ⟨c', front, back, -, hc', hentries, herased⟩ :=
          List.exists_of_eraseP hc (p := fun c => c.key = key) (by simpa using hkey)
        rw [Single, if_pos hqueued, countdowns, hentries, List.countP_append, List.countP_cons,
          if_pos hc'] at h
        rw [hended, without, if_pos hqueued, TimerQueue.erase, herased, List.countP_append]
        omega
      · have hnone : s.countdowns key = 0 :=
          List.countP_eq_zero.mpr fun c hc hkey => hmem ⟨c, hc, by simpa using hkey⟩
        rwa [hnone] at hle
  · refine Nat.le_trans hle (Nat.le_trans h (le_of_eq ?_))
    simp [hended]

/-- If its countdown is single, a task has none but the one that was put into the queue last. -/
theorem Single.ne_of_insert {kept : List Countdown} {a : Arming} (h : s.Single a.key)
    (hqueue : s.timerQueue = TimerQueue.insert ⟨kept⟩ a.countdown) :
    ∀ c ∈ kept, c.key ≠ a.key := by
  have hcount : s.countdowns a.key = kept.countP (·.key = a.key) + 1 := by
    rw [countdowns, hqueue, (TimerQueue.perm_insert ⟨kept⟩ a.countdown).countP_eq,
      List.countP_cons_of_pos (by simp)]
  have hnone : kept.countP (·.key = a.key) = 0 := by
    rw [Single, hcount] at h
    split at h <;> omega
  simpa using List.countP_eq_zero.mp hnone

/-- Starting a countdown of a task that is not queued, or not any more. -/
theorem Revised.single (h : Revised s s' ended? started?) (hsingle : s.Single key)
    (hstarted : ∀ a, started? = some a →
      ended? = some a.key ∨ s.isTimerQueued a.key = false) : s'.Single key := by
  have hwithout := hsingle.countP_without ended?
  have hqueued := h.isTimerQueued_iff key
  rw [Single, countdowns, h.timerQueue_eq]
  cases started? with
  | none =>
    have hafter : s'.isTimerQueued key = true ↔ ended? ≠ some key ∧ s.isTimerQueued key = true := by
      rw [hqueued]
      simp
    simp only [revisedQueue, hafter]
    exact hwithout
  | some a =>
    have hinsert := (TimerQueue.perm_insert (s.without ended?) a.countdown).countP_eq (·.key = key)
    simp only [revisedQueue, hinsert, List.countP_cons, Arming.countdown_key]
    by_cases ha : a.key = key
    · subst ha
      have hbefore : ¬(ended? ≠ some a.key ∧ s.isTimerQueued a.key = true) := by
        rintro ⟨hended, hqueued⟩
        rcases hstarted a rfl with hstop | hidle
        · exact hended hstop
        · rw [hqueued] at hidle
          cases hidle
      rw [if_neg hbefore] at hwithout
      rw [if_pos (hqueued.mpr (.inl ⟨a, rfl, rfl⟩))]
      simpa using hwithout
    · have hafter : s'.isTimerQueued key = true ↔
          ended? ≠ some key ∧ s.isTimerQueued key = true := by
        rw [hqueued]
        simp [ha]
      simpa only [hafter, ha, decide_false, Bool.false_eq_true, if_false, Nat.add_zero]
        using hwithout

/-- A decision takes the countdown of the task that it fires, if that exists. -/
theorem Single.evaluate (h : s.Single key) (hget : (s.timers.get? key).isSome = true) (c : Config)
    (now : Tick) : (s.evaluate c now).2.Single key := by
  by_cases hpending : s.eventQueue.pending = []
  · rw [evaluate_of_idle hpending]
    obtain ⟨skipped, rest, hentries, hgone, hpop⟩ := s.popTimer_skipped now
    -- What is passed over is of tasks that do not exist.
    have hskipped : skipped.countP (·.key = key) = 0 := by
      refine List.countP_eq_zero.mpr fun c hc hkey => ?_
      obtain rfl : c.key = key := by simpa using hkey
      rw [hgone c hc] at hget
      cases hget
    have hrest : s.countdowns key = rest.countP (·.key = key) := by
      rw [countdowns, hentries, List.countP_append, hskipped, Nat.zero_add]
    rw [Single, hrest] at h
    obtain ⟨-, heq⟩ | ⟨head, behind, task, rfl, -, hhead, heq⟩ := hpop
    · rw [heq]
      exact h
    · rw [heq]
      have hqueued : (startTimer { s with timerQueue := ⟨behind⟩ } head.key).isTimerQueued key
          = _ := isTimerQueued_of_modify (s := s) rfl key
      change behind.countP (·.key = key) ≤ _
      rw [hqueued]
      rw [List.countP_cons] at h
      by_cases hkey : key = head.key
      · subst hkey
        rw [if_pos (by simp)] at h
        have hnone : behind.countP (·.key = head.key) = 0 := by
          split at h <;> omega
        rw [hnone]
        exact Nat.zero_le _
      · rw [if_neg (by simpa using Ne.symm hkey)] at h
        rwa [if_neg hkey]
  · rw [evaluate_of_pending hpending]
    exact h

end State

namespace Host

variable {c : Config} {ok : Condition κ} {past : History κ} {s s' : Host κ} {m : Move κ}
  {key : Key}

/-- A task that is new after a step was added by it. -/
theorem exists_added? (hwf : s.WellFormed c) (h : s.step m = some s')
    (hbefore : s.scheduler.state.timers.get? key = none)
    (hafter : (s'.scheduler.state.timers.get? key).isSome = true) :
    ∃ t, s.added? m = some (key, t) := by
  have hstep := step_timer hwf h key
  rw [hbefore] at hstep
  generalize s'.scheduler.state.timers.get? key = t'? at hstep hafter
  cases hstep with
  | kept => cases hafter
  | added t hadded => exact ⟨t, hadded⟩

/-- **A step keeps the countdown of a task single**, if there is none of it when it is added. -/
theorem step_single (hwf : s.WellFormed c) (h : s.step m = some s')
    (hsingle : (s.scheduler.state.timers.get? key).isSome = true → s.scheduler.state.Single key)
    (hadded : ∀ t, s.added? m = some (key, t) → s.scheduler.state.countdowns key = 0)
    (hafter : (s'.scheduler.state.timers.get? key).isSome = true) :
    s'.scheduler.state.Single key := by
  have hbefore : s.scheduler.state.Single key := by
    cases hget : s.scheduler.state.timers.get? key with
    | none =>
      obtain ⟨t, ht⟩ := exists_added? hwf h hget hafter
      rw [State.Single, hadded t ht]
      exact Nat.zero_le _
    | some task => exact hsingle (by simp [hget])
  rcases step_timers hwf h with ⟨op, readAt, -, -, heq⟩ | ⟨events, readAt, -, -, heq⟩ |
    ⟨events, own, callback, readAt, -, -, heq⟩ | ⟨-, -, hrevised⟩
  · rw [heq]
    exact (s.scheduler.perform_revised op readAt).single hbefore fun a ha =>
      (Scheduler.of_arming? ha).2.2
  · rw [heq] at hafter ⊢
    refine hbefore.evaluate ?_ c _
    rw [State.evaluate_get?] at hafter
    split at hafter
    · simpa using hafter
    · exact hafter
  · rw [heq] at hafter ⊢
    by_cases hreleased : ∃ task, s.scheduler.state.timers.get? own = some task ∧
        task.released = true
    · -- The end of its run frees the task, which has nothing to do with the others.
      obtain ⟨task, hget, hreleased⟩ := hreleased
      have hfinish : (s.scheduler.state.finishTimer own callback (.ofTime readAt)).2
          = { s.scheduler.state with timers := (s.scheduler.state.timers.remove own).2 } := by
        simp [State.finishTimer, hget, hreleased]
      rw [hfinish] at hafter ⊢
      have hne : key ≠ own := by
        rintro rfl
        simp [Arena.get?_remove] at hafter
      rw [State.Single, State.isTimerQueued, Arena.get?_remove, if_neg hne]
      exact hbefore
    · refine (State.Revised.finishTimer fun task hget hrel =>
        absurd ⟨task, hget, hrel⟩ hreleased).single hbefore fun a ha => .inr ?_
      obtain ⟨hkey, -, hidle⟩ := State.of_putBack? ha
      rwa [hkey]
  · exact hrevised.single hbefore (by simp)

/-- **The countdown of a task is single** on any run, whatever was left in the queue of other tasks,
until its slot was freed so often that its generation has started over. -/
theorem Run.single (h : Run c ok past s) (hfew : releases past key.index < UInt32.size)
    (hlive : (s.scheduler.state.timers.get? key).isSome = true) : s.scheduler.state.Single key := by
  revert hfew hlive
  refine h.inductAlong (I := fun past s => releases past key.index < UInt32.size →
    (s.scheduler.state.timers.get? key).isSome = true → s.scheduler.state.Single key)
    (fun id time _ _ => ?_) fun hrun hI hstep _ hfew hafter => ?_
  · simp [State.Single, State.countdowns, create, Scheduler.create, State.ofConfig]
  · rw [releases_concat] at hfew
    have hbefore := Nat.lt_of_le_of_lt (Nat.le_add_right _ _) hfew
    refine step_single hrun.wellFormed hstep (hI hbefore) (fun t ht => ?_) hafter
    obtain ⟨value, timers, hinsert⟩ := insert_of_added? ht
    exact List.countP_eq_zero.mpr fun queued hqueued hkey =>
      hrun.ledger.key_ne_of_insert hinsert hbefore queued hqueued (by simpa using hkey)

/-- The key is not given out again while a countdown in the queue has it: either its slot was not
freed so often that its generation has started over, or no countdown is ever left behind. -/
def TraceableKey (ok : Condition κ) (past : History κ) (key : Key) : Prop :=
  releases past key.index < UInt32.size ∨ ∀ past s m s', ok past s m s' → s.leavesBehind m = false

theorem TraceableKey.of_concat (h : TraceableKey ok (past ++ [(s, m)]) key) :
    TraceableKey ok past key := by
  refine h.imp_left fun hfew => ?_
  rw [releases_concat] at hfew
  exact Nat.lt_of_le_of_lt (Nat.le_add_right _ _) hfew

/-- **The countdown of a task is single** if its key is not given out again while a countdown in the
queue has it. -/
theorem Run.single_of_traceable (h : Run c ok past s) (htraceable : TraceableKey ok past key)
    (hlive : (s.scheduler.state.timers.get? key).isSome = true) : s.scheduler.state.Single key := by
  rcases htraceable with hfew | hok
  · exact h.single hfew hlive
  · exact (h.attended hok).1.single hlive

/-- **Only a task that is queued fires.** -/
theorem isTimerQueued_of_fires (h : Run c ok past s) (htraceable : TraceableKey ok past key)
    (hfires : s.fires m key = true) : s.scheduler.state.isTimerQueued key = true := by
  obtain ⟨⟨fired, readAt⟩, hfired, hkey⟩ := (Option.any_eq_true _ _).mp hfires
  obtain rfl : fired = key := by simpa using hkey
  obtain ⟨events, now, callback, rest, -, -, hfire⟩ := fired?_eq_some hfired
  obtain ⟨skipped, head, behind, task, hentries, -, -, hhead, hget, -⟩ :=
    State.evaluate_of_fire hfire
  have hmem : head ∈ s.scheduler.state.timerQueue.entries := by simp [hentries]
  have hsingle := h.single_of_traceable htraceable (by simp [hget])
  refine Bool.of_not_eq_false fun hidle => ?_
  have hnone := List.countP_eq_zero.mp (hsingle.countdowns_eq_zero hidle)
  exact hnone head hmem (by simpa using hhead)

end Host

end CoopScheduler
