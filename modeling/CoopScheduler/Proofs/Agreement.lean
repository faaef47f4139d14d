import CoopScheduler.Proofs.Releases

/-!
# Records and the timer queue

What is known of a countdown is written down twice: in the record of its task, and in the timer
queue. `State.Agrees` says that both say the same: no task is in the queue twice, a task that
exists is in the queue exactly if its record says that it is queued, and then with the origin and
the period of the record. Countdowns whose tasks are gone may be left in the queue.

* Each critical section keeps this up (`State.Agrees.removeTimer` and so on). What the proofs have
  in common is that a section is about one task and leaves the others alone
  (`State.Agrees.of_others`).
* A new task must not get a key that is still in the queue (`State.Unclaimed`), and this is all
  that a step needs (`Host.step_agrees`).
* `Host.records_agree`: **records and queue agree on every run**, with passes within passes and
  callbacks that do what they like, as long as no slot was freed `2 ^ 32` times.
-/

namespace CoopScheduler

variable {κ : Type}

/-- The countdown that the record of a task calls for, if the task is queued. -/
def TimerTask.countdown? (t : TimerTask κ) (key : Key) : Option Countdown :=
  if t.phase = .queued then t.period.micros?.map fun micros => ⟨key, t.origin, micros⟩ else none

theorem TimerTask.countdown?_eq_some_iff {t : TimerTask κ} {key : Key} {c : Countdown} :
    t.countdown? key = some c ↔
      t.phase = .queued ∧ t.period = .after c.period ∧ t.origin = c.origin ∧ c.key = key := by
  obtain ⟨key', origin, period⟩ := c
  unfold countdown?
  split
  · next hphase =>
    rw [Option.map_eq_some_iff]
    simp only [Countdown.mk.injEq, Period.micros?_eq_some_iff, hphase, true_and]
    constructor
    · rintro ⟨micros, hperiod, rfl, rfl, rfl⟩
      exact ⟨hperiod, rfl, rfl⟩
    · rintro ⟨hperiod, rfl, rfl⟩
      exact ⟨period, hperiod, rfl, rfl, rfl⟩
  · next hphase => simp [hphase]

namespace State

/-- The records of the timer tasks and the timer queue say the same. -/
structure Agrees (s : State κ) : Prop where
  nodup : (s.timerQueue.entries.map Countdown.key).Nodup
  /-- What is queued for a task that exists is what its record calls for. -/
  countdown?_eq : ∀ c ∈ s.timerQueue.entries, ∀ task, s.timers.get? c.key = some task →
    task.countdown? c.key = some c
  exists_mem : ∀ key task, s.timers.get? key = some task → task.phase = .queued →
    ∃ c ∈ s.timerQueue.entries, c.key = key

variable {s s' : State κ} {key : Key} {task : TimerTask κ}

/-! ### One task at a time -/

/-- **A section is about one task.** If it leaves the other tasks and their countdowns alone, the
task itself is all there is to look at. -/
theorem Agrees.of_others (h : s.Agrees) (key : Key)
    (hnodup : (s'.timerQueue.entries.map Countdown.key).Nodup)
    (hother : ∀ other, other ≠ key → s'.timers.get? other = s.timers.get? other)
    (hentries : ∀ c : Countdown, c.key ≠ key →
      (c ∈ s'.timerQueue.entries ↔ c ∈ s.timerQueue.entries))
    (hself : ∀ task, s'.timers.get? key = some task →
      (∀ c ∈ s'.timerQueue.entries, c.key = key → task.countdown? key = some c) ∧
        (task.phase = .queued → ∃ c ∈ s'.timerQueue.entries, c.key = key)) : s'.Agrees := by
  refine ⟨hnodup, fun c hc task hget => ?_, fun other task hget hphase => ?_⟩
  · by_cases hkey : c.key = key
    · rw [hkey] at hget ⊢
      exact (hself task hget).1 c hc hkey
    · rw [hother c.key hkey] at hget
      exact h.countdown?_eq c ((hentries c hkey).mp hc) task hget
  · by_cases hkey : other = key
    · rw [hkey] at hget ⊢
      exact (hself task hget).2 hphase
    · rw [hother other hkey] at hget
      obtain ⟨c, hc, hckey⟩ := h.exists_mem other task hget hphase
      exact ⟨c, (hentries c (hckey ▸ hkey)).mpr hc, hckey⟩

/-- A task that is not queued has no countdown in the queue. -/
theorem Agrees.ne_of_not_queued (h : s.Agrees) (hget : s.timers.get? key = some task)
    (hphase : task.phase ≠ .queued) : ∀ c ∈ s.timerQueue.entries, c.key ≠ key := by
  intro c hc hkey
  have hcountdown := h.countdown?_eq c hc task (hkey ▸ hget)
  exact hphase (TimerTask.countdown?_eq_some_iff.mp hcountdown).1

theorem Agrees.of_timers_eq (h : s.Agrees) (htimers : s'.timers = s.timers)
    (hqueue : s'.timerQueue = s.timerQueue) : s'.Agrees := by
  obtain ⟨hnodup, hcountdown, hexists⟩ := h
  constructor
  · rwa [hqueue]
  · rwa [hqueue, htimers]
  · rwa [hqueue, htimers]

/-- Changing a record in what does not concern its countdown. -/
theorem Agrees.modify {f : TimerTask κ → TimerTask κ} (h : s.Agrees) (key : Key)
    (hf : ∀ t, s.timers.get? key = some t →
      (f t).countdown? key = t.countdown? key ∧ ((f t).phase = .queued → t.phase = .queued)) :
    Agrees { s with timers := s.timers.modify key f } := by
  refine h.of_others key h.nodup (fun other hother => ?_) (fun c _ => Iff.rfl)
    fun task hget => ?_
  · rw [Arena.get?_modify, if_neg hother]
  · rw [Arena.get?_modify, if_pos rfl] at hget
    obtain ⟨t, ht, rfl⟩ := Option.map_eq_some_iff.mp hget
    obtain ⟨hcountdown, hphase⟩ := hf t ht
    refine ⟨fun c hc hkey => ?_, fun hqueued => h.exists_mem key t ht (hphase hqueued)⟩
    rw [hcountdown, ← hkey]
    exact h.countdown?_eq c hc t (hkey ▸ ht)

/-- Changing the record of a task that is not queued. -/
theorem Agrees.modify_of_not_queued {f : TimerTask κ → TimerTask κ} (h : s.Agrees)
    (hget : s.timers.get? key = some task) (hphase : task.phase ≠ .queued)
    (hf : (f task).phase ≠ .queued) : Agrees { s with timers := s.timers.modify key f } := by
  refine h.modify key fun t ht => ?_
  obtain rfl : task = t := Option.some.inj (hget.symm.trans ht)
  exact ⟨by simp [TimerTask.countdown?, hphase, hf], fun hqueued => absurd hqueued hf⟩

/-- Freeing a task, whatever it was waiting for. -/
theorem Agrees.remove (h : s.Agrees) (key : Key) :
    Agrees { s with timers := (s.timers.remove key).2 } := by
  refine h.of_others key h.nodup (fun other hother => ?_) (fun c _ => Iff.rfl)
    fun task hget => ?_
  · rw [Arena.get?_remove, if_neg hother]
  · rw [Arena.get?_remove, if_pos rfl] at hget
    cases hget

/-- Taking a countdown off the queue without which its record, if there is one, can do. -/
theorem Agrees.drop {c : Countdown} {rest : List Countdown} (h : s.Agrees)
    (timers : Arena (TimerTask κ)) (hentries : s.timerQueue.entries = c :: rest)
    (hother : ∀ other, other ≠ c.key → timers.get? other = s.timers.get? other)
    (hself : ∀ task, timers.get? c.key = some task → task.phase ≠ .queued) :
    Agrees { s with timers := timers, timerQueue := ⟨rest⟩ } := by
  have hnodup := h.nodup
  rw [hentries, List.map_cons, List.nodup_cons] at hnodup
  refine h.of_others c.key hnodup.2 hother (fun c' hne => ?_) fun task hget => ?_
  · rw [hentries, List.mem_cons]
    exact ⟨.inr, fun hmem => hmem.resolve_left fun heq => hne (heq ▸ rfl)⟩
  · refine ⟨fun c' hc' hkey => ?_, fun hqueued => absurd hqueued (hself task hget)⟩
    exact absurd (hkey ▸ List.mem_map_of_mem hc') hnodup.1

/-- A countdown in the queue is the only one of its task. -/
theorem Agrees.filter_eq (h : s.Agrees) {c : Countdown} (hc : c ∈ s.timerQueue.entries) :
    s.timerQueue.entries.filter (·.key = c.key) = [c] := by
  have hsame : ∀ b ∈ s.timerQueue.entries, decide (b.key = c.key) = (b == c) := by
    intro b hb
    by_cases heq : b.key = c.key
    · have hbc := List.inj_on_of_nodup_map h.nodup hb hc heq
      simp [hbc]
    · have hbc : b ≠ c := fun hbc => heq (hbc ▸ rfl)
      simp [heq, hbc]
  have honce := List.count_eq_one_of_mem h.nodup.of_map hc
  rw [List.filter_congr hsame, List.filter_beq, honce]
  rfl

/-- What the records and the queue tell of a deadline is the same. -/
theorem Agrees.timerDeadline_eq (h : s.Agrees) {c : Countdown} (hc : c ∈ s.timerQueue.entries)
    (hget : s.timers.get? c.key = some task) : s.timerDeadline c.key = some c.deadline := by
  have hrecord := h.countdown?_eq c hc task hget
  obtain ⟨hphase, hperiod, horigin, -⟩ := TimerTask.countdown?_eq_some_iff.mp hrecord
  have hkept : (some task).filter (fun t => decide (t.phase = .queued)) = some task :=
    Option.filter_some_pos (decide_eq_true hphase)
  rw [State.timerDeadline, hget, hkept]
  simp [TimerTask.deadline, hperiod, horigin, Countdown.deadline, Period.micros?]

/-! ### The sections -/

/-- What the record of a task says once the task is off the queue. -/
theorem exists_get?_removeTimer (hget : s.timers.get? key = some task) :
    ∃ t, (s.removeTimer key).timers.get? key = some t ∧ t.phase ≠ .queued ∧
      t.period = task.period := by
  unfold State.removeTimer
  rw [hget]
  cases hphase : task.phase with
  | inert =>
    simp only [hphase]
    exact ⟨task, hget, by simp [hphase], rfl⟩
  | queued =>
    simp only [hphase]
    refine ⟨{ task with phase := .inert }, ?_, by simp, rfl⟩
    rw [Arena.get?_modify, if_pos rfl, hget]
    rfl
  | running =>
    simp only [hphase]
    refine ⟨{ task with rearm := false }, ?_, by simp [hphase], rfl⟩
    rw [Arena.get?_modify, if_pos rfl, hget]
    rfl

theorem Agrees.removeTimer (h : s.Agrees) (key : Key) : (s.removeTimer key).Agrees := by
  unfold State.removeTimer
  split
  · exact h
  · split
    · have herase : (s.timerQueue.erase key).entries
          = s.timerQueue.entries.filter fun c => c.key ≠ key :=
        eraseP_eq_filter Countdown.key h.nodup key
      have hmem {c : Countdown} : c ∈ (s.timerQueue.erase key).entries ↔
          c ∈ s.timerQueue.entries ∧ c.key ≠ key := by
        rw [herase, List.mem_filter, decide_eq_true_eq]
      refine h.of_others key ?_ (fun other hother => ?_) (fun c hne => ?_)
        fun task hget => ?_
      · exact h.nodup.sublist ((List.eraseP_sublist).map Countdown.key)
      · rw [Arena.get?_modify, if_neg hother]
      · exact hmem.trans (and_iff_left hne)
      · rw [Arena.get?_modify, if_pos rfl] at hget
        obtain ⟨t, -, rfl⟩ := Option.map_eq_some_iff.mp hget
        exact ⟨fun c hc hkey => absurd hkey (hmem.mp hc).2, by simp⟩
    · exact h.modify key fun t _ => ⟨rfl, id⟩
    · exact h

/-- A task that is not queued is queued with the countdown that its record calls for. -/
theorem Agrees.queueTimer {origin : Tick} {period : UInt32} (h : s.Agrees)
    (hget : s.timers.get? key = some task) (hphase : task.phase ≠ .queued)
    (horigin : task.origin = origin) (hperiod : task.period = .after period) :
    (s.queueTimer key origin period).Agrees := by
  have hnot := h.ne_of_not_queued hget hphase
  have hperm := TimerQueue.perm_insert s.timerQueue ⟨key, origin, period⟩
  refine h.of_others key ?_ (fun other hother => ?_) (fun c hne => ?_)
    fun task' hget' => ?_
  · rw [State.queueTimer, (hperm.map Countdown.key).nodup_iff, List.map_cons, List.nodup_cons]
    refine ⟨fun hmem => ?_, h.nodup⟩
    obtain ⟨c, hc, hkey⟩ := List.mem_map.mp hmem
    exact hnot c hc hkey
  · rw [State.queueTimer, Arena.get?_modify, if_neg hother]
  · rw [State.queueTimer, TimerQueue.mem_insert]
    exact or_iff_right fun heq => hne (by rw [heq])
  · rw [State.queueTimer, Arena.get?_modify, if_pos rfl, hget] at hget'
    cases hget'
    refine ⟨fun c hc hkey => ?_, fun _ => ⟨_, TimerQueue.mem_insert.mpr (.inl rfl), rfl⟩⟩
    rcases TimerQueue.mem_insert.mp hc with rfl | hc
    · exact TimerTask.countdown?_eq_some_iff.mpr ⟨rfl, hperiod, horigin, rfl⟩
    · exact absurd hkey (hnot c hc)

theorem Agrees.wakeIf (h : s.Agrees) (cause : Bool) : (s.wakeIf cause).2.Agrees :=
  h.of_timers_eq (wakeIf_timers ..) (wakeIf_timerQueue ..)

/-- A task is registered under a key that is not in the queue. -/
theorem Agrees.addTimer {callback : κ} {period : Period} {autoRepeat wake : Bool} {now : Tick}
    (h : s.Agrees) (hfree : s.Unclaimed)
    (hadd : s.addTimer callback period autoRepeat now = .ok (key, wake, s')) : s'.Agrees := by
  obtain ⟨timers, hinsert, hqueued⟩ := addTimer_cases hadd
  have hget : timers.get? key
      = some ⟨some callback, period, autoRepeat, now, .inert, false, false⟩ := by
    rw [Arena.get?_insert_of_ok hinsert, if_pos rfl]
  have hstored : Agrees { s with timers := timers } := by
    refine h.of_others key h.nodup (fun other hother => ?_) (fun c _ => Iff.rfl)
      fun task hget' => ?_
    · rw [Arena.get?_insert_of_ok hinsert, if_neg hother]
    · rw [hget] at hget'
      cases hget'
      exact ⟨fun c hc hkey => absurd hkey (hfree hinsert c hc), by simp⟩
  rcases hqueued with ⟨-, rfl⟩ | ⟨micros, leads, rfl, rfl⟩
  · exact hstored
  · exact (hstored.queueTimer hget (by simp) rfl rfl).wakeIf leads

theorem Agrees.rescheduleTimer {period : Period} {wake : Bool} {now : Tick} (h : s.Agrees)
    (hres : s.rescheduleTimer key period now = some (wake, s')) : s'.Agrees := by
  obtain ⟨task, updated, hget, hupdated, hqueued⟩ := rescheduleTimer_cases hres
  obtain ⟨t, ht, hphase, -⟩ := exists_get?_removeTimer hget
  have hget' : updated.timers.get? key = some { t with period := period, origin := now } := by
    rw [hupdated, Arena.get?_modify, if_pos rfl, ht]
    rfl
  have hagrees : updated.Agrees := hupdated ▸ (h.removeTimer key).modify_of_not_queued
    (f := fun t => { t with period := period, origin := now }) ht hphase hphase
  rcases hqueued with ⟨-, rfl⟩ | ⟨micros, hmicros, rfl⟩
  · exact hagrees
  · exact (hagrees.queueTimer hget' hphase rfl hmicros).wakeIf true

theorem Agrees.rearmTimer {wake : Bool} {now : Tick} (h : s.Agrees)
    (hrearm : s.rearmTimer key now = some (wake, s')) : s'.Agrees := by
  obtain ⟨-, rfl⟩ | ⟨task, updated, hget, -, hupdated, hqueued⟩ := rearmTimer_cases hrearm
  · exact h
  · obtain ⟨t, ht, hphase, hperiod⟩ := exists_get?_removeTimer hget
    have hget' : updated.timers.get? key = some { t with origin := now } := by
      rw [hupdated, Arena.get?_modify, if_pos rfl, ht]
      rfl
    have hagrees : updated.Agrees := hupdated ▸ (h.removeTimer key).modify_of_not_queued
      (f := fun t => { t with origin := now }) ht hphase hphase
    rcases hqueued with ⟨-, rfl⟩ | ⟨micros, leads, hmicros, rfl⟩
    · exact hagrees
    · exact (hagrees.queueTimer hget' hphase rfl (hperiod.trans hmicros)).wakeIf leads

theorem Agrees.releaseTimer (h : s.Agrees) (key : Key) : (s.releaseTimer key).2.Agrees := by
  unfold State.releaseTimer
  split
  · exact h
  · split
    · exact h.modify key fun t _ => ⟨rfl, id⟩
    · exact (h.removeTimer key).remove key

/-- The front of the queue goes, as far as it is over, and takes no countdown of another task with
it. -/
theorem Agrees.popTimerFrom {entries : List Countdown} (now : Tick)
    (h : Agrees { s with timerQueue := ⟨entries⟩ }) : (s.popTimerFrom now entries).2.Agrees := by
  induction entries with
  | nil => exact h
  | cons c rest ih =>
    unfold State.popTimerFrom
    split
    · exact h
    · split
      · next hget =>
        refine ih (h.drop s.timers rfl (fun _ _ => rfl) fun task htask => ?_)
        rw [hget] at htask
        cases htask
      · refine (h.drop (s.timers.modify c.key fun t =>
          { t with callback := none, phase := .running, rearm := t.autoRepeat }) rfl
            (fun other hother => ?_) fun task htask => ?_).of_timers_eq rfl rfl
        · rw [Arena.get?_modify, if_neg hother]
        · rw [Arena.get?_modify, if_pos rfl] at htask
          obtain ⟨t, -, rfl⟩ := Option.map_eq_some_iff.mp htask
          simp

theorem Agrees.evaluate (h : s.Agrees) (c : Config) (now : Tick) :
    (s.evaluate c now).2.Agrees := by
  by_cases hpending : s.eventQueue.pending = []
  · have hpopped : (s.popTimer now).2.Agrees := Agrees.popTimerFrom now h
    rw [evaluate_of_idle hpending]
    revert hpopped
    rcases s.popTimer now with ⟨_ | ⟨key, callback⟩, popped⟩
    · exact fun hpopped => hpopped.of_timers_eq rfl rfl
    · exact id
  · rw [evaluate_of_pending hpending]
    exact h.of_timers_eq rfl rfl

/-- The record of a task that runs, as it is put back. -/
theorem Agrees.settleTimer {t : TimerTask κ} (h : s.Agrees) (hget : s.timers.get? key = some t)
    (hphase : t.phase = .running) (hperiod : t.period = task.period) (after : Tick) :
    (s.settleTimer key task after).Agrees := by
  have hnot : t.phase ≠ .queued := by simp [hphase]
  unfold State.settleTimer
  split
  · next micros _ hmicros =>
    have hmoved := h.modify_of_not_queued (f := fun t => { t with origin := after }) hget hnot hnot
    have hget' : (s.timers.modify key fun t => { t with origin := after }).get? key
        = some { t with origin := after } := by
      rw [Arena.get?_modify, if_pos rfl, hget]
      rfl
    exact hmoved.queueTimer hget' hnot rfl (hperiod.trans hmicros)
  · exact h.modify_of_not_queued hget hnot (by simp)

theorem Agrees.finishTimer (h : s.Agrees) (key : Key) (callback : Option κ) (after : Tick) :
    (s.finishTimer key callback after).2.Agrees := by
  unfold State.finishTimer
  split
  · exact h
  · next task hget =>
    split
    · exact h.remove key
    · have hreturned := h.modify key (f := fun t => { t with callback := callback })
        fun t _ => ⟨rfl, id⟩
      refine Agrees.modify ?_ key fun t _ => ⟨rfl, id⟩
      split
      · next hphase =>
        refine hreturned.settleTimer (t := { task with callback := callback }) ?_ hphase rfl after
        rw [Arena.get?_modify, if_pos rfl, hget]
        rfl
      · exact hreturned

/-- Whichever section a request enters. -/
theorem Agrees.timerSection (h : s.Agrees) (hfree : s.Unclaimed) (hsection : s.TimerSection s') :
    s'.Agrees := by
  cases hsection with
  | none htimers hqueue => exact h.of_timers_eq htimers hqueue
  | addTimer hadd => exact h.addTimer hfree hadd
  | rescheduleTimer hres => exact h.rescheduleTimer hres
  | removeTimer key => exact h.removeTimer key
  | rearmTimer hrearm => exact h.rearmTimer hrearm
  | releaseTimer key => exact h.releaseTimer key

end State

namespace Scheduler

variable {s : Scheduler κ}

/-- **Requests keep records and queue in agreement.** -/
theorem perform_agrees (h : s.state.Agrees) (hfree : s.state.Unclaimed) (op : Operation κ)
    (now : Tick) : (s.perform op now).2.state.Agrees :=
  h.timerSection hfree (s.perform_timerSection op now)

/-- **Passes keep records and queue in agreement.** -/
theorem resume_agrees (h : s.state.Agrees) (activation : Activation κ) :
    (s.resume activation).2.state.Agrees := by
  cases activation with
  | drain events =>
    have hkept := State.popEvent_timersKept s.state
    rw [resume_drain_state]
    exact h.of_timers_eq hkept.timers_eq hkept.timerQueue_eq
  | eventReturned events key callback =>
    have hkept := State.finishEvent_timersKept s.state key callback
    exact h.of_timers_eq hkept.timers_eq hkept.timerQueue_eq
  | evaluate events now =>
    rw [resume_evaluate_state]
    exact h.evaluate s.config now
  | timerReturned events key callback => exact h
  | settle events key callback after => exact h.finishTimer key callback after
  | woken events wait => exact h.of_timers_eq rfl rfl
  | ended pass => exact h

end Scheduler

namespace Host

variable {c : Config} {ok : Condition κ} {past : History κ} {s s' : Host κ} {m : Move κ}

theorem agrees_create (id : SchedulerId) (time : Nat) :
    (create (κ := κ) id c time).scheduler.state.Agrees := by
  refine ⟨List.nodup_nil, ?_, fun key task hget => ?_⟩
  · simp [create, Scheduler.create, State.ofConfig]
  · simp [create, Scheduler.create, State.ofConfig, Arena.get?] at hget

/-- **A step keeps records and queue in agreement**, if the next task will not get a key that is
in the queue. -/
theorem step_agrees (h : s.step m = some s') (hagrees : s.scheduler.state.Agrees)
    (hfree : s.scheduler.state.Unclaimed) : s'.scheduler.state.Agrees := by
  rcases step_scheduler h with ⟨op, readAt, -, -, heq⟩ | ⟨activation, readAt, -, -, heq⟩ |
    ⟨-, -, heq⟩
  · rw [heq]
    exact Scheduler.perform_agrees hagrees hfree op _
  · rw [heq]
    exact Scheduler.resume_agrees hagrees activation
  · rw [heq]
    exact hagrees

/-- **Records and queue agree** as long as no slot was freed so often that its generation has
started over. -/
theorem Run.agrees (h : Run c ok past s) (hfew : FewReleases past) :
    s.scheduler.state.Agrees := by
  revert hfew
  refine h.inductAlong (I := fun past s => FewReleases past → s.scheduler.state.Agrees)
    (fun id time _ => agrees_create id time) fun hrun hagrees hstep _ hfew => ?_
  have hbefore := hfew.of_concat
  exact step_agrees hstep (hagrees hbefore) (hrun.ledger.unclaimed hbefore)

/-- **What records and queue tell** about a task that exists: if it is queued, its period is not
`never`, the queue has one countdown of it, the one of its record, and the deadline that the
scheduler reports is that of this countdown. Otherwise the queue has none. -/
theorem records_agree (h : Run c ok past s) (hfew : FewReleases past) :
    (s.scheduler.state.timerQueue.entries.map Countdown.key).Nodup ∧
    ∀ key task, s.scheduler.state.timers.get? key = some task →
      (task.phase = .queued → ∃ micros, task.period = .after micros ∧
        s.scheduler.state.timerQueue.entries.filter (·.key = key)
          = [⟨key, task.origin, micros⟩] ∧
        s.scheduler.timerDeadline ⟨s.scheduler.id, key⟩
          = some (Countdown.mk key task.origin micros).deadline) ∧
      (task.phase ≠ .queued →
        s.scheduler.state.timerQueue.entries.filter (·.key = key) = []) := by
  have hagrees := h.agrees hfew
  refine ⟨hagrees.nodup, fun key task hget => ⟨fun hphase => ?_, fun hphase => ?_⟩⟩
  · obtain ⟨queued, hmem, rfl⟩ := hagrees.exists_mem key task hget hphase
    have hrecord := hagrees.countdown?_eq queued hmem task hget
    obtain ⟨-, hperiod, horigin, -⟩ := TimerTask.countdown?_eq_some_iff.mp hrecord
    have hdeadline := hagrees.timerDeadline_eq hmem hget
    rw [horigin]
    refine ⟨queued.period, hperiod, hagrees.filter_eq hmem, ?_⟩
    simpa [Scheduler.timerDeadline, Scheduler.owns] using hdeadline
  · refine List.filter_eq_nil_iff.mpr fun queued hmem => ?_
    have hne := hagrees.ne_of_not_queued hget hphase queued hmem
    simpa using hne

/-- A task that was rescheduled by its own callback, has run in a pass within that callback and
was put back there is in the queue as its record says, while the first pass goes on. -/
theorem records_agree_within_callback :
    ∃ (past : History Nat) (s : Host Nat), Run {} (fun _ _ _ _ => True) past s ∧
      s.passes.length = 2 ∧ FewReleases past ∧
      s.scheduler.state.timerQueue.entries.filter (·.key = ⟨0, 0⟩)
        = [⟨⟨0, 0⟩, .ofTime 5, 5⟩] ∧
      s.scheduler.timerDeadline ⟨⟨0⟩, ⟨0, 0⟩⟩ = some (.ofTime 10) := by
  obtain ⟨past, s, hrun, hpasses, hlength, hid, hget⟩ :
      ∃ (past : History Nat) (s : Host Nat), Run {} (fun _ _ _ _ => True) past s ∧
        s.passes.length = 2 ∧ past.length = 16 ∧ s.scheduler.id = ⟨0⟩ ∧
        s.scheduler.state.timers.get? ⟨0, 0⟩
          = some ⟨none, .after 5, true, .ofTime 5, .queued, false, false⟩ :=
    ⟨_, _, Run.of_play ⟨0⟩ 0
      [.ask (.addTimer 10 (.after 0) true), .perform 0, .enter, .resume, .resume, .resume,
       .ask (.reschedule ⟨⟨0⟩, ⟨0, 0⟩⟩ (.after 5)), .perform 0, .elapse 5, .enter, .resume,
       .resume, .resume, .resume, .resume, .resume] rfl, rfl, rfl, rfl, rfl⟩
  have hfew : FewReleases past := .of_length_lt (by rw [hlength]; decide)
  obtain ⟨micros, hperiod, hqueue, hdeadline⟩ :=
    ((records_agree hrun hfew).2 _ _ hget).1 rfl
  cases hperiod
  rw [hid] at hdeadline
  exact ⟨past, s, hrun, hpasses, hfew, hqueue, hdeadline⟩

end Host

end CoopScheduler
