import CoopScheduler.Proofs.Arming
import CoopScheduler.State.Dispatch

/-!
# What the sections do to the timer queue

A critical section ends the countdown of at most one task and starts at most one.
`State.Revised` says so: the countdown of the task `ended?` is gone, if it was queued, and that
of the arming `started?` was inserted; and the tasks marked as queued are revised likewise.

* There is one such law for each section on timers (`State.Revised.removeTimer` and so on), and
  `State.Revised.of_timers_eq` is that of all the others.
* The one exception is a task that was released while it ran and has been queued again since:
  the end of its run frees it and leaves its countdown behind (`State.Revised.finishTimer`).
* A pass takes countdowns from the front of the queue, and passes over those whose tasks are gone
  (`State.popTimer_skipped`).
* `State.addTimer_cases`, `State.rescheduleTimer_cases` and `State.rearmTimer_cases` say all that
  these sections have done.
-/

namespace CoopScheduler

/-! ### Values in an arena -/

namespace Arena

variable {α : Type} {a b : Arena α} {key : Key} {value : α} {P : α → Prop}

/-- Every value stored has a property. -/
def All (P : α → Prop) (a : Arena α) : Prop :=
  ∀ ⦃key value⦄, a.get? key = some value → P value

theorem All.modify {f : α → α} (h : a.All P)
    (hf : ∀ value, a.get? key = some value → P value → P (f value)) : (a.modify key f).All P := by
  intro other value hget
  rw [get?_modify] at hget
  split at hget
  · obtain ⟨value, hkey, rfl⟩ := Option.map_eq_some_iff.mp hget
    exact hf value hkey (h hkey)
  · exact h hget

theorem All.remove (h : a.All P) : (a.remove key).2.All P := by
  intro other value hget
  rw [get?_remove] at hget
  split at hget
  · cases hget
  · exact h hget

theorem All.insert (h : a.All P) (hinsert : a.insert value = .ok (key, b)) (hvalue : P value) :
    b.All P := by
  intro other value' hget
  rw [get?_insert_of_ok hinsert] at hget
  split at hget
  · cases hget
    exact hvalue
  · exact h hget

end Arena

variable {κ : Type}

/-- Where keys are distinct, to erase the first item of a key is to leave out all of them. -/
theorem eraseP_eq_filter {α : Type} (keyOf : α → Key) {l : List α} (h : (l.map keyOf).Nodup)
    (key : Key) : l.eraseP (fun a => keyOf a = key) = l.filter fun a => keyOf a ≠ key := by
  induction l with
  | nil => rfl
  | cons a l ih =>
    obtain ⟨ha, hl⟩ := List.nodup_cons.mp h
    by_cases hkey : keyOf a = key
    · have hkept : l.filter (fun b => keyOf b ≠ key) = l :=
        List.filter_eq_self.mpr fun b hb => by
          have hne : keyOf b ≠ keyOf a := fun heq => ha (heq ▸ List.mem_map_of_mem hb)
          simpa [← hkey] using hne
      rw [List.eraseP_cons_of_pos (by simpa using hkey),
        List.filter_cons_of_neg (by simpa using hkey), hkept]
    · rw [List.eraseP_cons_of_neg (by simpa using hkey), ih hl,
        List.filter_cons_of_pos (by simpa using hkey)]

namespace State

/-! ### Wakes -/

section Wake

variable (s : State κ) (cause : Bool)

@[simp]
theorem wakeIf_timers : (s.wakeIf cause).2.timers = s.timers := by
  unfold wakeIf
  split <;> rfl

@[simp]
theorem wakeIf_events : (s.wakeIf cause).2.events = s.events := by
  unfold wakeIf
  split <;> rfl

@[simp]
theorem wakeIf_timerQueue : (s.wakeIf cause).2.timerQueue = s.timerQueue := by
  unfold wakeIf
  split <;> rfl

@[simp]
theorem wakeIf_eventQueue : (s.wakeIf cause).2.eventQueue = s.eventQueue := by
  unfold wakeIf
  split <;> rfl

@[simp]
theorem wakeIf_sleeping : (s.wakeIf cause).2.sleeping = s.sleeping := by
  unfold wakeIf
  split <;> rfl

end Wake

/-! ### What a section has done -/

variable {s s' s'' : State κ} {key : Key} {ended? : Option Key} {started? : Option Arming}

/-- A task that was added is stored, and queued unless its period is `never`. -/
theorem addTimer_cases {callback : κ} {period : Period} {autoRepeat wake : Bool} {now : Tick}
    (h : s.addTimer callback period autoRepeat now = .ok (key, wake, s')) :
    ∃ timers, s.timers.insert ⟨some callback, period, autoRepeat, now, .inert, false, false⟩
        = .ok (key, timers) ∧
      (period = .never ∧ s' = { s with timers := timers } ∨
        ∃ micros leads, period = .after micros ∧
          s' = ((queueTimer { s with timers := timers } key now micros).wakeIf leads).2) := by
  unfold addTimer at h
  split at h
  · cases h
  · next new timers hinsert =>
    split at h
    · cases h
      exact ⟨timers, hinsert, .inl ⟨rfl, rfl⟩⟩
    · next micros =>
      obtain ⟨rfl, hwake⟩ := Prod.mk.inj (Except.ok.inj h)
      exact ⟨timers, hinsert, .inr ⟨micros, _, rfl, (congrArg Prod.snd hwake).symm⟩⟩

/-- A task that was rescheduled has left the queue, and is queued unless its new period is
`never`. -/
theorem rescheduleTimer_cases {period : Period} {wake : Bool} {now : Tick}
    (h : s.rescheduleTimer key period now = some (wake, s')) :
    ∃ task updated, s.timers.get? key = some task ∧
      updated = { s.removeTimer key with
        timers := (s.removeTimer key).timers.modify key
          fun t => { t with period := period, origin := now } } ∧
      (period = .never ∧ s' = updated ∨
        ∃ micros, period = .after micros ∧
          s' = ((updated.queueTimer key now micros).wakeIf true).2) := by
  unfold rescheduleTimer at h
  split at h
  · cases h
  · next task hget =>
    split at h
    · cases h
      exact ⟨task, _, hget, rfl, .inl ⟨rfl, rfl⟩⟩
    · next micros =>
      exact ⟨task, _, hget, rfl,
        .inr ⟨micros, rfl, (congrArg Prod.snd (Option.some.inj h)).symm⟩⟩

/-- A task that was rearmed was not queued, and is now unless its period is `never`. A rearm of a
task that does not exist has done nothing. -/
theorem rearmTimer_cases {wake : Bool} {now : Tick}
    (h : s.rearmTimer key now = some (wake, s')) :
    s.timers.get? key = none ∧ s' = s ∨
      ∃ task updated, s.timers.get? key = some task ∧ task.phase ≠ .queued ∧
        updated = { s.removeTimer key with
          timers := (s.removeTimer key).timers.modify key fun t => { t with origin := now } } ∧
        (task.period = .never ∧ s' = updated ∨
          ∃ micros leads, task.period = .after micros ∧
            s' = ((updated.queueTimer key now micros).wakeIf leads).2) := by
  unfold rearmTimer at h
  split at h
  · next hget =>
    cases h
    exact .inl ⟨hget, rfl⟩
  · next task hget =>
    split at h
    · cases h
    · next hphase =>
      refine .inr ⟨task, _, hget, hphase, rfl, ?_⟩
      dsimp only at h
      split at h
      · next hperiod =>
        cases h
        exact .inl ⟨hperiod, rfl⟩
      · next micros hperiod =>
        exact .inr ⟨micros, _, hperiod, (congrArg Prod.snd (Option.some.inj h)).symm⟩

/-! ### Countdowns ended and started -/

/-- The timer queue without the countdown of a task, if that is queued. -/
def without (s : State κ) : Option Key → TimerQueue
  | none => s.timerQueue
  | some key => if s.isTimerQueued key then s.timerQueue.erase key else s.timerQueue

/-- The timer queue once a countdown has ended and another one has started. -/
def revisedQueue (s : State κ) (ended? : Option Key) : Option Arming → TimerQueue
  | none => s.without ended?
  | some a => (s.without ended?).insert a.countdown

/-- A list, such as that of the countdowns in the queue, without its first item of a task, if that
is queued. -/
def strike {α : Type} (s : State κ) (keyOf : α → Key) (l : List α) : Option Key → List α
  | none => l
  | some key => if s.isTimerQueued key then l.eraseP (keyOf · = key) else l

theorem strike_sublist {α : Type} (s : State κ) (keyOf : α → Key) (l : List α)
    (ended? : Option Key) : (s.strike keyOf l ended?).Sublist l := by
  cases ended? with
  | none => exact List.Sublist.refl _
  | some key =>
    rw [strike]
    split
    · exact List.eraseP_sublist
    · exact List.Sublist.refl _

/-- Striking out an arming is striking out its countdown. -/
theorem strike_map (s : State κ) (l : List Arming) (ended? : Option Key) :
    s.strike Countdown.key (l.map Arming.countdown) ended?
      = (s.strike Arming.key l ended?).map Arming.countdown := by
  cases ended? with
  | none => rfl
  | some key =>
    rw [strike, strike]
    split
    · rw [List.eraseP_map]
      rfl
    · rfl

theorem without_eq_strike (s : State κ) (ended? : Option Key) :
    s.without ended? = ⟨s.strike Countdown.key s.timerQueue.entries ended?⟩ := by
  cases ended? with
  | none => rfl
  | some key =>
    rw [without, strike]
    split <;> rfl

theorem revisedQueue_eq_strike (s : State κ) (ended? : Option Key) (started? : Option Arming) :
    s.revisedQueue ended? started? = match started? with
      | none => ⟨s.strike Countdown.key s.timerQueue.entries ended?⟩
      | some a => TimerQueue.insert ⟨s.strike Countdown.key s.timerQueue.entries ended?⟩
          a.countdown := by
  cases started? <;> rw [revisedQueue, without_eq_strike]

theorem without_sublist (s : State κ) (ended? : Option Key) :
    (s.without ended?).entries.Sublist s.timerQueue.entries := by
  rw [without_eq_strike]
  exact s.strike_sublist _ _ ended?

/-- From one state to another, the countdown of `ended?` is over and `started?` has begun. -/
structure Revised (s s' : State κ) (ended? : Option Key) (started? : Option Arming) : Prop where
  timerQueue_eq : s'.timerQueue = s.revisedQueue ended? started?
  isTimerQueued_iff : ∀ key, s'.isTimerQueued key = true ↔
    (∃ a, started? = some a ∧ a.key = key) ∨ ended? ≠ some key ∧ s.isTimerQueued key = true

/-- A section that leaves timer tasks and queue as they are. -/
theorem Revised.of_timers_eq (htimers : s'.timers = s.timers)
    (hqueue : s'.timerQueue = s.timerQueue) : Revised s s' none none :=
  ⟨hqueue, fun key => by simp [isTimerQueued, htimers]⟩

/-- Ending the countdown of a task that is not queued is doing nothing. -/
theorem revised_some_iff (hkey : s.isTimerQueued key = false) :
    Revised s s' (some key) started? ↔ Revised s s' none started? := by
  have hqueue : s.revisedQueue (some key) started? = s.revisedQueue none started? := by
    have hwithout : s.without (some key) = s.without none := by simp [without, hkey]
    cases started? <;> simp [revisedQueue, hwithout]
  have hqueued (other : Key) : (some key ≠ some other ∧ s.isTimerQueued other = true) ↔
      none ≠ some other ∧ s.isTimerQueued other = true := by
    by_cases hother : key = other
    · subst hother
      simp [hkey]
    · simp [hother]
  constructor <;> rintro ⟨htimerQueue, hiff⟩
  · exact ⟨hqueue ▸ htimerQueue, fun other => (hiff other).trans (or_congr_right (hqueued other))⟩
  · exact ⟨hqueue ▸ htimerQueue,
      fun other => (hiff other).trans (or_congr_right (hqueued other).symm)⟩

/-- One section after another, the first of which ends a countdown and the second starts
one. -/
theorem Revised.trans (h : Revised s s' ended? none) (h' : Revised s' s'' none started?) :
    Revised s s'' ended? started? := by
  refine ⟨?_, fun key => ?_⟩
  · rw [h'.timerQueue_eq]
    cases started? <;> simp [revisedQueue, without, h.timerQueue_eq]
  · rw [h'.isTimerQueued_iff, h.isTimerQueued_iff]
    simp

/-- A section that changes neither queue nor marks may follow. -/
theorem Revised.trans_same (h : Revised s s' ended? started?) (h' : Revised s' s'' none none) :
    Revised s s'' ended? started? := by
  refine ⟨h'.timerQueue_eq.trans h.timerQueue_eq, fun key => ?_⟩
  rw [h'.isTimerQueued_iff, ← h.isTimerQueued_iff]
  simp

theorem isTimerQueued_iff : s.isTimerQueued key = true ↔
    ∃ task, s.timers.get? key = some task ∧ task.phase = .queued := by
  cases hget : s.timers.get? key <;> simp [isTimerQueued, hget]

/-- A rearm fails exactly if its task is queued. -/
theorem rearmTimer_eq_none_iff {now : Tick} :
    s.rearmTimer key now = none ↔ s.isTimerQueued key = true := by
  rw [isTimerQueued_iff]
  constructor
  · intro h
    unfold rearmTimer at h
    split at h
    · cases h
    · next task hget =>
      split at h
      · next hphase => exact ⟨task, hget, hphase⟩
      · dsimp only at h
        split at h <;> cases h
  · rintro ⟨task, hget, hphase⟩
    simp [rearmTimer, hget, hphase]

theorem isTimerQueued_of_modify {f : TimerTask κ → TimerTask κ}
    (h : s'.timers = s.timers.modify key f) (other : Key) :
    s'.isTimerQueued other
      = if other = key then (s.timers.get? key).any fun t => (f t).phase = .queued
        else s.isTimerQueued other := by
  rw [isTimerQueued, h, Arena.get?_modify]
  split
  · rw [Option.any_map]
  · rfl

/-- A section that changes a task but not whether it is queued. -/
theorem Revised.modify (s : State κ) (key : Key) {f : TimerTask κ → TimerTask κ}
    (hphase : ∀ t, s.timers.get? key = some t → ((f t).phase = .queued ↔ t.phase = .queued)) :
    Revised s { s with timers := s.timers.modify key f } none none := by
  refine ⟨rfl, fun other => ?_⟩
  rw [isTimerQueued_of_modify (s := s) rfl]
  split
  · next heq =>
    subst heq
    cases hget : s.timers.get? other with
    | none => simp [isTimerQueued, hget]
    | some t => simp [isTimerQueued, hget, hphase t hget]
  · simp

/-- A section that frees a task which is not queued. -/
theorem Revised.remove (hkey : s.isTimerQueued key = false) :
    Revised s { s with timers := (s.timers.remove key).2 } none none := by
  refine ⟨rfl, fun other => ?_⟩
  rw [isTimerQueued, Arena.get?_remove]
  by_cases heq : other = key
  · simp [heq, hkey]
  · simp [heq, isTimerQueued]

theorem Revised.wakeIf (h : Revised s s' ended? started?) (cause : Bool) :
    Revised s (s'.wakeIf cause).2 ended? started? :=
  ⟨(wakeIf_timerQueue ..).trans h.timerQueue_eq, fun key => by
    rw [← h.isTimerQueued_iff, isTimerQueued, wakeIf_timers, isTimerQueued]⟩

/-! ### The sections -/

theorem Revised.removeTimer (s : State κ) (key : Key) :
    Revised s (s.removeTimer key) (some key) none := by
  unfold State.removeTimer
  cases hget : s.timers.get? key with
  | none => exact (revised_some_iff (by simp [isTimerQueued, hget])).mpr (of_timers_eq rfl rfl)
  | some task =>
    cases hphase : task.phase with
    | inert =>
      simp only [hphase]
      have hqueued : s.isTimerQueued key = false := by simp [isTimerQueued, hget, hphase]
      exact (revised_some_iff hqueued).mpr (of_timers_eq rfl rfl)
    | running =>
      simp only [hphase]
      have hqueued : s.isTimerQueued key = false := by simp [isTimerQueued, hget, hphase]
      exact (revised_some_iff hqueued).mpr (modify s key fun _ _ => Iff.rfl)
    | queued =>
      simp only [hphase]
      have hqueued : s.isTimerQueued key = true := by simp [isTimerQueued, hget, hphase]
      refine ⟨by simp [revisedQueue, without, hqueued], fun other => ?_⟩
      rw [isTimerQueued_of_modify (s := s) rfl]
      by_cases heq : other = key
      · simp [heq]
      · simp [heq, Ne.symm heq]

/-- Taking a task off the queue does not free it. -/
theorem isSome_get?_removeTimer (s : State κ) (key other : Key) :
    ((s.removeTimer key).timers.get? other).isSome = (s.timers.get? other).isSome := by
  unfold removeTimer
  split
  · rfl
  · split
    · simp only [Arena.get?_modify]
      split
      · next heq => rw [Option.isSome_map, heq]
      · rfl
    · simp only [Arena.get?_modify]
      split
      · next heq => rw [Option.isSome_map, heq]
      · rfl
    · rfl

theorem Revised.queueTimer {since : Nat} {period : UInt32}
    (hkey : (s.timers.get? key).isSome = true) :
    Revised s (s.queueTimer key (.ofTime since) period) none (some ⟨key, since, period⟩) := by
  refine ⟨rfl, fun other => ?_⟩
  obtain ⟨task, hget⟩ := Option.isSome_iff_exists.mp hkey
  rw [isTimerQueued_of_modify (s := s) rfl]
  by_cases heq : other = key
  · simp [heq, hget]
  · simp [heq, Ne.symm heq]

/-- The countdown with which a task is registered. -/
theorem Revised.addTimer {callback : κ} {period : Period} {autoRepeat wake : Bool} {since : Nat}
    (h : s.addTimer callback period autoRepeat (.ofTime since) = .ok (key, wake, s')) :
    Revised s s' none (period.micros?.map fun micros => ⟨key, since, micros⟩) := by
  obtain ⟨timers, hinsert, hqueued⟩ := addTimer_cases h
  have hstored : Revised s { s with timers := timers } none none := by
    refine ⟨rfl, fun other => ?_⟩
    rw [isTimerQueued, Arena.get?_insert_of_ok hinsert]
    by_cases heq : other = key
    · simp [heq, isTimerQueued, Arena.get?_eq_none_of_insert hinsert]
    · simp [heq, isTimerQueued]
  rcases hqueued with ⟨rfl, rfl⟩ | ⟨micros, leads, rfl, rfl⟩
  · exact hstored
  · have hkey : (timers.get? key).isSome = true := by
      simp [Arena.get?_insert_of_ok hinsert]
    exact (hstored.trans (queueTimer hkey)).wakeIf leads

/-- A task that is being registered was not queued before. -/
theorem isTimerQueued_of_addTimer {callback : κ} {period : Period} {autoRepeat wake : Bool}
    {now : Tick} (h : s.addTimer callback period autoRepeat now = .ok (key, wake, s')) :
    s.isTimerQueued key = false := by
  obtain ⟨timers, hinsert, -⟩ := addTimer_cases h
  simp [isTimerQueued, Arena.get?_eq_none_of_insert hinsert]

/-- The countdown with which a task is rescheduled in place of the one it had. -/
theorem Revised.rescheduleTimer {period : Period} {wake : Bool} {since : Nat}
    (h : s.rescheduleTimer key period (.ofTime since) = some (wake, s')) :
    Revised s s' (some key) (period.micros?.map fun micros => ⟨key, since, micros⟩) := by
  obtain ⟨task, updated, hget, rfl, hqueued⟩ := rescheduleTimer_cases h
  have hupdated := (removeTimer s key).trans
    (modify _ key (f := fun t => { t with period := period, origin := .ofTime since })
      fun _ _ => Iff.rfl)
  rcases hqueued with ⟨rfl, rfl⟩ | ⟨micros, rfl, rfl⟩
  · exact hupdated
  · refine (hupdated.trans (queueTimer ?_)).wakeIf true
    simp [Arena.get?_modify, isSome_get?_removeTimer, hget]

/-- The countdown of a task that is not queued starts with the period it has. -/
theorem Revised.rearmTimer {wake : Bool} {since : Nat}
    (h : s.rearmTimer key (.ofTime since) = some (wake, s')) :
    Revised s s' none ((s.timers.get? key).bind fun task =>
      task.period.micros?.map fun micros => ⟨key, since, micros⟩) := by
  obtain ⟨hget, rfl⟩ | ⟨task, updated, hget, hphase, rfl, hqueued⟩ := rearmTimer_cases h
  · rw [hget]
    exact .of_timers_eq rfl rfl
  · have hfree : s.isTimerQueued key = false := by simp [isTimerQueued, hget, hphase]
    -- The task is not queued, so taking it off the queue first does nothing.
    have hupdated := ((revised_some_iff hfree).mp (removeTimer s key)).trans
      (modify _ key (f := fun t => { t with origin := .ofTime since }) fun _ _ => Iff.rfl)
    rw [hget, Option.bind_some]
    rcases hqueued with ⟨hperiod, rfl⟩ | ⟨micros, leads, hperiod, rfl⟩
    · rw [hperiod]
      exact hupdated
    · rw [hperiod]
      refine (hupdated.trans (queueTimer ?_)).wakeIf leads
      simp [Arena.get?_modify, isSome_get?_removeTimer, hget]

theorem Revised.releaseTimer (s : State κ) (key : Key) :
    Revised s (s.releaseTimer key).2 (some key) none := by
  unfold State.releaseTimer
  cases hget : s.timers.get? key with
  | none => exact (revised_some_iff (by simp [isTimerQueued, hget])).mpr (of_timers_eq rfl rfl)
  | some task =>
    by_cases hphase : task.phase = .running
    · have hqueued : s.isTimerQueued key = false := by simp [isTimerQueued, hget, hphase]
      simp only [hphase, if_true]
      exact (revised_some_iff hqueued).mpr (modify s key fun _ _ => Iff.rfl)
    · simp only [hphase, if_false]
      -- Once the task is off the queue, it is freed without a countdown.
      have hremoved := removeTimer s key
      refine hremoved.trans (remove (Bool.eq_false_iff.mpr fun hqueued => ?_))
      simpa using (hremoved.isTimerQueued_iff key).mp hqueued

/-- The new countdown of a repeating task whose run is over. -/
theorem Revised.settleTimer {task t : TimerTask κ} {since : Nat}
    (hget : s.timers.get? key = some t) (hphase : t.phase = .running) :
    Revised s (s.settleTimer key task (.ofTime since)) none
      (if task.rearm = true then task.period.micros?.map fun micros => ⟨key, since, micros⟩
        else none) := by
  have hinert : Revised s { s with
      timers := s.timers.modify key fun t => { t with phase := .inert } } none none :=
    modify s key fun t' ht' => by
      rw [hget] at ht'
      cases ht'
      simp [hphase]
  unfold State.settleTimer
  cases task.rearm with
  | false => exact hinert
  | true =>
    cases task.period with
    | never => exact hinert
    | after micros =>
      have hmoved := modify s key (f := fun t => { t with origin := .ofTime since })
        fun _ _ => Iff.rfl
      refine hmoved.trans (queueTimer ?_)
      simp [Arena.get?_modify, hget]

/-- What is known of the countdown with which a task is put back. -/
theorem of_putBack? {since : Nat} {a : Arming} (h : s.putBack? key since = some a) :
    a.key = key ∧ a.since = since ∧ s.isTimerQueued key = false := by
  unfold putBack? at h
  split at h
  · cases h
  · next task hget =>
    split at h
    · next hrunning =>
      obtain ⟨micros, -, rfl⟩ := Option.map_eq_some_iff.mp h
      exact ⟨rfl, rfl, by simp [isTimerQueued, hget, hrunning.2.1]⟩
    · cases h

/-- The countdown with which a repeating task is put back, unless the task was released and
yet queued again. -/
theorem Revised.finishTimer {callback : Option κ} {since : Nat}
    (h : ∀ task, s.timers.get? key = some task → task.released = true → task.phase ≠ .queued) :
    Revised s (s.finishTimer key callback (.ofTime since)).2 none (s.putBack? key since) := by
  unfold State.finishTimer putBack?
  cases hget : s.timers.get? key with
  | none => exact of_timers_eq rfl rfl
  | some task =>
    cases hreleased : task.released with
    | true =>
      simp only [hreleased, if_true, reduceCtorEq, false_and, if_false]
      -- A task that was released meanwhile is freed; by `h` it has no countdown.
      exact remove (by simpa [isTimerQueued, hget] using h task hget hreleased)
    | false =>
      simp only [hreleased, Bool.false_eq_true, if_false, true_and]
      have hreturned := modify s key (f := fun t => { t with callback := callback })
        fun _ _ => Iff.rfl
      refine trans_same ?_ (modify _ key fun _ _ => Iff.rfl)
      by_cases hphase : task.phase = .running
      · simp only [hphase, if_true, true_and]
        refine hreturned.trans (settleTimer (t := { task with callback := callback }) ?_ hphase)
        simp [Arena.get?_modify, hget]
      · simpa only [hphase, if_false, false_and] using hreturned

/-- The queue of a task whose run is over. -/
theorem finishTimer_timerQueue (s : State κ) (key : Key) (callback : Option κ) (since : Nat) :
    (s.finishTimer key callback (.ofTime since)).2.timerQueue
      = s.revisedQueue none (s.putBack? key since) := by
  by_cases h : ∃ task, s.timers.get? key = some task ∧ task.released = true
  · obtain ⟨task, hget, hreleased⟩ := h
    simp [finishTimer, putBack?, hget, hreleased, revisedQueue, without]
  · exact (Revised.finishTimer fun task hget hreleased =>
      absurd ⟨task, hget, hreleased⟩ h).timerQueue_eq

/-! ### The front of the queue -/

/-- **What a search for a due timer leaves out**: it passes over countdowns whose tasks are gone,
and ends at the first that is not over or whose task exists. -/
theorem popTimer_skipped (s : State κ) (now : Tick) :
    ∃ skipped rest, s.timerQueue.entries = skipped ++ rest ∧
      (∀ c ∈ skipped, s.timers.get? c.key = none) ∧
      ((∀ head ∈ rest.head?, 0 < head.remaining now) ∧
          s.popTimer now = (none, { s with timerQueue := ⟨rest⟩ }) ∨
        ∃ head behind task, rest = head :: behind ∧ head.remaining now = 0 ∧
          s.timers.get? head.key = some task ∧
          s.popTimer now = (some (head.key, task.callback),
            startTimer { s with timerQueue := ⟨behind⟩ } head.key)) := by
  rw [popTimer]
  generalize s.timerQueue.entries = entries
  induction entries with
  | nil => exact ⟨[], [], rfl, by simp, .inl ⟨by simp, rfl⟩⟩
  | cons head behind ih =>
    rw [popTimerFrom]
    by_cases hleft : 0 < head.remaining now
    · exact ⟨[], head :: behind, rfl, by simp, .inl ⟨by simpa using hleft, if_pos hleft⟩⟩
    · have hover : head.remaining now = 0 := by
        simpa [UInt32.pos_iff_ne_zero] using hleft
      rw [if_neg hleft]
      cases hget : s.timers.get? head.key with
      | none =>
        obtain ⟨skipped, rest, hentries, hgone, hpop⟩ := ih
        refine ⟨head :: skipped, rest, congrArg _ hentries, ?_, hpop⟩
        simpa [hget] using hgone
      | some task =>
        exact ⟨[], head :: behind, rfl, by simp, .inr ⟨head, behind, task, rfl, hover, hget, rfl⟩⟩

/-- **What a pass takes off the timer queue**: nothing but countdowns of tasks that were freed,
or after these a countdown that is over. -/
theorem popTimer_cases (s : State κ) (now : Tick) :
    (∃ rest, rest <:+ s.timerQueue.entries ∧
      s.popTimer now = (none, { s with timerQueue := ⟨rest⟩ })) ∨
    ∃ c rest task, c :: rest <:+ s.timerQueue.entries ∧ c.remaining now = 0 ∧
      s.timers.get? c.key = some task ∧
      s.popTimer now
        = (some (c.key, task.callback), startTimer { s with timerQueue := ⟨rest⟩ } c.key) := by
  obtain ⟨skipped, rest, hentries, -, ⟨-, heq⟩ | ⟨head, behind, task, rfl, hover, hget, heq⟩⟩ :=
    s.popTimer_skipped now
  · exact .inl ⟨rest, ⟨skipped, hentries.symm⟩, heq⟩
  · exact .inr ⟨head, behind, task, ⟨skipped, hentries.symm⟩, hover, hget, heq⟩

/-- The front of the queue decides if its task exists. -/
theorem popTimer_of_live {c : Countdown} {rest : List Countdown} {task : TimerTask κ}
    (hentries : s.timerQueue.entries = c :: rest) (hget : s.timers.get? c.key = some task)
    (now : Tick) :
    s.popTimer now = if 0 < c.remaining now then (none, s)
      else (some (c.key, task.callback), startTimer { s with timerQueue := ⟨rest⟩ } c.key) := by
  rw [popTimer, hentries, popTimerFrom, hget, ← hentries]

theorem evaluate_of_pending (hpending : s.eventQueue.pending ≠ []) (c : Config) (now : Tick) :
    s.evaluate c now = (.recheck, { s with counters.rechecks := s.counters.rechecks + 1 }) := by
  rw [evaluate, EventQueue.isEmpty, if_neg (by simpa using hpending)]

/-- The decision that is left when no event is pending. -/
theorem evaluate_of_idle (hpending : s.eventQueue.pending = []) (c : Config) (now : Tick) :
    s.evaluate c now = match s.popTimer now with
      | (some (key, callback), s) => (.fire key callback, s)
      | (none, s) =>
        (.park (c.sleepFor (s.timerQueue.remaining? now)),
          { s with sleeping := true, counters.parks := s.counters.parks + 1 }) := by
  rw [evaluate, EventQueue.isEmpty, hpending]
  rfl

/-- A pass that decides to park saw no event, sets the sleeping flag, and parks for what is left
of the countdown in front. -/
theorem evaluate_of_park {c : Config} {now : Tick} {wait : Duration}
    (h : s.evaluate c now = (.park wait, s')) :
    s.eventQueue.pending = [] ∧ s'.eventQueue = s.eventQueue ∧ s'.sleeping = true ∧
      wait = c.sleepFor (s'.timerQueue.remaining? now) := by
  by_cases hpending : s.eventQueue.pending = []
  · rw [evaluate_of_idle hpending] at h
    rcases s.popTimer_cases now with ⟨rest, -, heq⟩ | ⟨head, rest, task, -, -, -, heq⟩
    · simp only [heq, Prod.mk.injEq, Decision.park.injEq] at h
      obtain ⟨rfl, rfl⟩ := h
      exact ⟨hpending, rfl, rfl, rfl⟩
    · simp [heq] at h
  · simp [evaluate_of_pending hpending] at h

/-- The decision of a pass as a revision: the task that it runs is taken off the queue, if the
queue holds countdowns of queued tasks only. -/
theorem Revised.evaluate (h : ∀ c ∈ s.timerQueue.entries, s.isTimerQueued c.key = true)
    (c : Config) (now : Tick) :
    Revised s (s.evaluate c now).2 (s.evaluate c now).1.fired? none := by
  by_cases hpending : s.eventQueue.pending = []
  · rw [evaluate_of_idle hpending]
    cases hentries : s.timerQueue.entries with
    | nil =>
      simp only [popTimer, hentries, popTimerFrom]
      exact of_timers_eq rfl (congrArg TimerQueue.mk hentries.symm)
    | cons head rest =>
      have hqueued := h head (by simp [hentries])
      obtain ⟨task, hget, -⟩ := State.isTimerQueued_iff.mp hqueued
      rw [popTimer_of_live hentries hget]
      by_cases hdue : 0 < head.remaining now
      · rw [if_pos hdue]
        exact of_timers_eq rfl rfl
      · rw [if_neg hdue]
        refine ⟨?_, fun key => ?_⟩
        · simp [Decision.fired?, revisedQueue, without, hqueued, TimerQueue.erase, hentries,
            startTimer]
        · simp only [Decision.fired?]
          rw [isTimerQueued_of_modify (s := s) rfl]
          by_cases heq : key = head.key
          · simp [heq, hget]
          · simp [heq, Ne.symm heq]
  · rw [evaluate_of_pending hpending]
    exact of_timers_eq rfl rfl

/-- Whatever the queue holds, a decision takes countdowns from its front or none. -/
theorem evaluate_timerQueue (s : State κ) (c : Config) (now : Tick) :
    (s.evaluate c now).2.timerQueue.entries <:+ s.timerQueue.entries := by
  by_cases hpending : s.eventQueue.pending = []
  · rw [evaluate_of_idle hpending]
    rcases s.popTimer_cases now with ⟨rest, hsuffix, heq⟩ | ⟨head, rest, task, hsuffix, -, -, heq⟩
    · rw [heq]
      exact hsuffix
    · rw [heq]
      exact (List.suffix_cons head rest).trans hsuffix
  · simp [evaluate_of_pending hpending]

/-! ### What the sections leave alone -/

/-- A section that has nothing to do with timers. -/
structure TimersKept (s s' : State κ) : Prop where
  timers_eq : s'.timers = s.timers
  timerQueue_eq : s'.timerQueue = s.timerQueue
  sleeping_eq : s'.sleeping = s.sleeping

/-- A section that has nothing to do with events. -/
structure EventsKept (s s' : State κ) : Prop where
  events_eq : s'.events = s.events
  eventQueue_eq : s'.eventQueue = s.eventQueue
  sleeping_eq : s'.sleeping = s.sleeping

theorem TimersKept.revised (h : TimersKept s s') : Revised s s' none none :=
  .of_timers_eq h.timers_eq h.timerQueue_eq

theorem popEvent_timersKept (s : State κ) : TimersKept s s.popEvent.2 := by
  rw [popEvent]
  generalize s.eventQueue.pending = pending
  induction pending with
  | nil => exact ⟨rfl, rfl, rfl⟩
  | cons key rest ih =>
    cases hget : s.events.get? key with
    | none => simpa [popEventFrom, hget] using ih
    | some task => simpa [popEventFrom, hget] using ⟨rfl, rfl, rfl⟩

theorem finishEvent_timersKept (s : State κ) (key : Key) (callback : Option κ) :
    TimersKept s (s.finishEvent key callback).2 := by
  unfold finishEvent
  split
  · exact ⟨rfl, rfl, rfl⟩
  · dsimp only
    split <;> exact ⟨rfl, rfl, rfl⟩

/-- Creating an event task changes nothing but the event tasks. -/
theorem createEvent_eq {callback : κ} (h : s.createEvent callback = .ok (key, s')) :
    ∃ events, s.events.insert ⟨some callback, false, false, false⟩ = .ok (key, events) ∧
      s' = { s with events := events } := by
  unfold createEvent at h
  cases hinsert : s.events.insert ⟨some callback, false, false, false⟩ with
  | error refusal => simp [hinsert, Except.map] at h
  | ok stored =>
    simp only [hinsert, Except.map, Except.ok.injEq, Prod.mk.injEq] at h
    obtain ⟨rfl, rfl⟩ := h
    exact ⟨stored.2, rfl, rfl⟩

theorem createEvent_timersKept {callback : κ} (h : s.createEvent callback = .ok (key, s')) :
    TimersKept s s' := by
  obtain ⟨events, -, rfl⟩ := createEvent_eq h
  exact ⟨rfl, rfl, rfl⟩

theorem sendEvent_timersKept (s : State κ) (key : Key) : TimersKept s (s.sendEvent key).2 := by
  unfold sendEvent
  split
  · exact ⟨wakeIf_timers .., wakeIf_timerQueue .., wakeIf_sleeping ..⟩
  · exact ⟨rfl, rfl, rfl⟩

theorem removeEvent_timersKept (s : State κ) (key : Key) :
    TimersKept s (s.removeEvent key) := by
  unfold removeEvent
  split <;> exact ⟨rfl, rfl, rfl⟩

theorem releaseEvent_timersKept (s : State κ) (key : Key) :
    TimersKept s (s.releaseEvent key).2 := by
  have hremoved := removeEvent_timersKept s key
  unfold releaseEvent
  split
  · exact ⟨rfl, rfl, rfl⟩
  · dsimp only
    split <;> exact ⟨hremoved.timers_eq, hremoved.timerQueue_eq, hremoved.sleeping_eq⟩

/-- Decisions leave the events alone. -/
theorem evaluate_events (s : State κ) (c : Config) (now : Tick) :
    (s.evaluate c now).2.events = s.events ∧
      (s.evaluate c now).2.eventQueue = s.eventQueue := by
  by_cases hpending : s.eventQueue.pending = []
  · rw [evaluate_of_idle hpending]
    rcases s.popTimer_cases now with ⟨rest, -, heq⟩ | ⟨head, rest, task, -, -, -, heq⟩
    · rw [heq]
      exact ⟨rfl, rfl⟩
    · rw [heq]
      exact ⟨rfl, rfl⟩
  · rw [evaluate_of_pending hpending]
    exact ⟨rfl, rfl⟩

theorem removeTimer_eventsKept (s : State κ) (key : Key) : EventsKept s (s.removeTimer key) := by
  unfold removeTimer
  split
  · exact ⟨rfl, rfl, rfl⟩
  · split <;> exact ⟨rfl, rfl, rfl⟩

theorem EventsKept.wakeIf (h : EventsKept s s') (cause : Bool) :
    EventsKept s (s'.wakeIf cause).2 :=
  ⟨(wakeIf_events ..).trans h.events_eq, (wakeIf_eventQueue ..).trans h.eventQueue_eq,
    (wakeIf_sleeping ..).trans h.sleeping_eq⟩

theorem addTimer_eventsKept {callback : κ} {period : Period} {autoRepeat wake : Bool} {now : Tick}
    (h : s.addTimer callback period autoRepeat now = .ok (key, wake, s')) : EventsKept s s' := by
  obtain ⟨timers, -, ⟨-, rfl⟩ | ⟨micros, leads, -, rfl⟩⟩ := addTimer_cases h
  · exact ⟨rfl, rfl, rfl⟩
  · refine EventsKept.wakeIf ?_ leads
    exact ⟨rfl, rfl, rfl⟩

theorem rescheduleTimer_eventsKept {period : Period} {wake : Bool} {now : Tick}
    (h : s.rescheduleTimer key period now = some (wake, s')) : EventsKept s s' := by
  obtain ⟨hevents, hqueue, hsleeping⟩ := removeTimer_eventsKept s key
  obtain ⟨task, updated, -, rfl, ⟨-, rfl⟩ | ⟨micros, -, rfl⟩⟩ := rescheduleTimer_cases h
  · exact ⟨hevents, hqueue, hsleeping⟩
  · refine EventsKept.wakeIf ?_ true
    exact ⟨hevents, hqueue, hsleeping⟩

theorem rearmTimer_eventsKept {wake : Bool} {now : Tick}
    (h : s.rearmTimer key now = some (wake, s')) : EventsKept s s' := by
  obtain ⟨hevents, hqueue, hsleeping⟩ := removeTimer_eventsKept s key
  obtain ⟨-, rfl⟩ | ⟨task, updated, -, -, rfl, ⟨-, rfl⟩ | ⟨micros, leads, -, rfl⟩⟩ :=
    rearmTimer_cases h
  · exact ⟨rfl, rfl, rfl⟩
  · exact ⟨hevents, hqueue, hsleeping⟩
  · refine EventsKept.wakeIf ?_ leads
    exact ⟨hevents, hqueue, hsleeping⟩

theorem releaseTimer_eventsKept (s : State κ) (key : Key) :
    EventsKept s (s.releaseTimer key).2 := by
  have hremoved := removeTimer_eventsKept s key
  unfold releaseTimer
  split
  · exact ⟨rfl, rfl, rfl⟩
  · split
    · exact ⟨rfl, rfl, rfl⟩
    · exact ⟨hremoved.events_eq, hremoved.eventQueue_eq, hremoved.sleeping_eq⟩

theorem finishTimer_eventsKept (s : State κ) (key : Key) (callback : Option κ) (after : Tick) :
    EventsKept s (s.finishTimer key callback after).2 := by
  unfold finishTimer settleTimer
  split
  · exact ⟨rfl, rfl, rfl⟩
  · split
    · exact ⟨rfl, rfl, rfl⟩
    · dsimp only
      split <;> try split
      all_goals exact ⟨rfl, rfl, rfl⟩

end State

end CoopScheduler
