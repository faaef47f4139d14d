import CoopScheduler.Proofs.Firings
import CoopScheduler.Proofs.TimerRecords

/-!
# What a step does to a timer task

The record of a timer task changes when a request names the task, when the task is fired, and when
its callback has returned.

* `Host.added?` is the task that a move adds, and `Host.intervened?` the one that a request
  reschedules, takes off the queue, rearms or releases, if that has any effect.
* `Host.step_timer`: **all that a step may do to the record of a task**, by one constructor of
  `Host.TimerStep` for each way.
* A move **touches** a task if it adds it, fires it, or carries out a request about it
  (`Host.touches`). A task that is queued was armed by the step, or queued before and not touched
  (`Host.step_queued`); and one that will be put back was fired by it, or would have been put back
  before and was not touched (`Host.step_repeating`).
-/

namespace CoopScheduler

variable {κ : Type}

namespace Scheduler

/-! ### Requests about a task -/

/-- The task that a request adds, with its record. -/
def added? (s : Scheduler κ) (op : Operation κ) (since : Nat) : Option (Key × TimerTask κ) :=
  match op with
  | .addTimer callback period autoRepeat =>
    match (s.addTimer callback period autoRepeat (.ofTime since)).1.reply with
    | .timer handle => some (handle.key, .added callback period autoRepeat (.ofTime since))
    | _ => none
  | _ => none

/-- The task that a request reschedules, takes off the queue, rearms or releases. A request whose
task does not exist has no effect, nor has a rearm of a task that is queued. -/
def intervened? (s : Scheduler κ) (op : Operation κ) : Option Key :=
  match op with
  | .reschedule handle _ | .removeTimer handle | .releaseTimer handle =>
    if s.owns handle.owner ∧ (s.state.timers.get? handle.key).isSome then some handle.key else none
  | .rearm handle =>
    if s.owns handle.owner ∧ (s.state.timers.get? handle.key).any (·.phase ≠ .queued) then
      some handle.key
    else
      none
  | _ => none

end Scheduler

namespace Host

variable {c : Config} {s s' : Host κ} {m : Move κ} {key : Key} {a : Arming}

/-- The task that a move adds, with its record. -/
def added? (s : Host κ) (m : Move κ) : Option (Key × TimerTask κ) :=
  match s.performed? m with
  | some (op, readAt) => s.scheduler.added? op readAt
  | none => none

/-- The task that a move reschedules, takes off the queue, rearms or releases, if that has any
effect. -/
def intervened? (s : Host κ) (m : Move κ) : Option Key :=
  match s.performed? m with
  | some (op, _) => s.scheduler.intervened? op
  | none => none

/-- The ways in which a move `m` may change the record of the task `key`, if it exists. -/
inductive TimerStep (s : Host κ) (m : Move κ) (key : Key) :
    Option (TimerTask κ) → Option (TimerTask κ) → Prop where
  /-- The move does not concern the task. -/
  | kept (t? : Option (TimerTask κ)) (hfires : s.fires m key = false)
      (hintervened : s.intervened? m ≠ some key) (hadded : ∀ t, s.added? m ≠ some (key, t))
      (harming : ∀ a, s.arming? m = some a → a.key ≠ key) : TimerStep s m key t? t?
  | added (t : TimerTask κ) (hadded : s.added? m = some (key, t)) : TimerStep s m key none (some t)
  | rescheduled (t : TimerTask κ) {handle : TimerHandle} {period : Period} {since : Nat}
      (hperformed : s.performed? m = some (.reschedule handle period, since))
      (howns : s.scheduler.owns handle.owner = true) (hkey : handle.key = key) :
      TimerStep s m key (some t)
        (some (t.restarted period (.ofTime since)))
  | removed (t : TimerTask κ) {handle : TimerHandle} {since : Nat}
      (hperformed : s.performed? m = some (.removeTimer handle, since))
      (howns : s.scheduler.owns handle.owner = true) (hkey : handle.key = key) :
      TimerStep s m key (some t) (some t.unqueued)
  | rearmed (t : TimerTask κ) {handle : TimerHandle} {since : Nat}
      (hperformed : s.performed? m = some (.rearm handle, since))
      (howns : s.scheduler.owns handle.owner = true) (hkey : handle.key = key)
      (hphase : t.phase ≠ .queued) :
      TimerStep s m key (some t) (some (t.restarted t.period (.ofTime since)))
  | released (t : TimerTask κ) {handle : TimerHandle} {since : Nat}
      (hperformed : s.performed? m = some (.releaseTimer handle, since))
      (howns : s.scheduler.owns handle.owner = true) (hkey : handle.key = key) :
      TimerStep s m key (some t)
        (if t.phase = .running then some { t with released := true, rearm := false } else none)
  | fired (t : TimerTask κ) (hfires : s.fires m key = true) :
      TimerStep s m key (some t) (some t.started)
  | settled (t : TimerTask κ) {events : Nat} {callback : Option κ} {since : Nat}
      (hresumed : s.resumed? m = some (.settle events key callback (.ofTime since), since)) :
      TimerStep s m key (some t)
        (if t.released then none else some (t.settled callback (.ofTime since)))

/-! ### Steps -/

theorem fires_of_not_resumed (h : s.resumed? m = none) (key : Key) : s.fires m key = false := by
  simp [fires, fired?, h]

/-- A countdown is started by a request about its task, or when the task is put back. -/
theorem arming?_cases (h : s.arming? m = some a) :
    (∃ t, s.added? m = some (a.key, t)) ∨ s.intervened? m = some a.key ∨
      ∃ events callback after readAt, s.performed? m = none ∧
        s.resumed? m = some (.settle events a.key callback after, readAt) := by
  unfold arming? at h
  split at h
  · next op readAt _ hperformed =>
    simp only [added?, intervened?, hperformed]
    unfold Scheduler.arming? at h
    split at h
    · split at h
      · next handle hreply =>
        cases h
        exact .inl ⟨_, by simp only [Scheduler.added?, hreply]; rfl⟩
      · cases h
    · split at h
      · next hlive =>
        cases h
        exact .inr (.inl (by simp only [Scheduler.intervened?]; rw [if_pos hlive]))
      · cases h
    · split at h
      · next handle hfree =>
        obtain ⟨task, hget, hmap⟩ := Option.bind_eq_some_iff.mp h
        obtain ⟨micros, -, rfl⟩ := Option.map_eq_some_iff.mp hmap
        have hphase : task.phase ≠ .queued := by
          simpa [State.isTimerQueued, hget] using hfree.2
        exact .inr (.inl (by simp [Scheduler.intervened?, hfree.1, hget, hphase]))
      · cases h
    · cases h
  · next events key callback after readAt hperformed hresumed =>
    obtain ⟨hkey, -⟩ := State.of_putBack? h
    exact .inr (.inr ⟨events, callback, after, readAt, hperformed, hkey ▸ hresumed⟩)
  · cases h

/-- A request is about one task at most. -/
private theorem TimerStep.of_request {op : Operation κ} {readAt : Nat} {t? : Option (TimerTask κ)}
    (hperformed : s.performed? m = some (op, readAt)) (hresumed : s.resumed? m = none)
    (hintervened : s.scheduler.intervened? op ≠ some key)
    (hadded : ∀ t, s.scheduler.added? op readAt ≠ some (key, t)) : TimerStep s m key t? t? := by
  have hintervened' : s.intervened? m ≠ some key := by simpa [intervened?, hperformed]
  have hadded' : ∀ t, s.added? m ≠ some (key, t) := by simpa [added?, hperformed]
  refine .kept t? (fires_of_not_resumed hresumed key) hintervened' hadded' fun a harming hkey => ?_
  subst hkey
  rcases arming?_cases harming with ⟨t, ht⟩ | ht | ⟨-, -, -, -, hnone, -⟩
  · exact hadded' t ht
  · exact hintervened' ht
  · rw [hperformed] at hnone
    cases hnone

/-- A request that adds no task and has no effect on this one. -/
private theorem TimerStep.of_unaffected {op : Operation κ} {readAt : Nat}
    {t? : Option (TimerTask κ)} (hperformed : s.performed? m = some (op, readAt))
    (hresumed : s.resumed? m = none) (hadded : s.scheduler.added? op readAt = none)
    (hintervened : s.scheduler.intervened? op ≠ some key) : TimerStep s m key t? t? :=
  .of_request hperformed hresumed hintervened (by simp [hadded])

/-- A step of a pass that neither fires the task nor puts it back. -/
private theorem TimerStep.of_pass {t? : Option (TimerTask κ)} (hperformed : s.performed? m = none)
    (hfires : s.fires m key = false)
    (hsettle : ∀ events callback after readAt,
      s.resumed? m ≠ some (.settle events key callback after, readAt)) :
    TimerStep s m key t? t? := by
  refine .kept t? hfires (by simp [intervened?, hperformed]) (by simp [added?, hperformed])
    fun a harming hkey => ?_
  subst hkey
  rcases arming?_cases harming with ⟨t, ht⟩ | ht | ⟨events, callback, after, readAt, -, hresumed⟩
  · simp [added?, hperformed] at ht
  · simp [intervened?, hperformed] at ht
  · exact hsettle events callback after readAt hresumed

section Requests

variable {handle : TimerHandle} {readAt : Nat}

private theorem addTimer_timer {callback : κ} {period : Period} {autoRepeat : Bool}
    (hperformed : s.performed? m = some (.addTimer callback period autoRepeat, readAt))
    (hresumed : s.resumed? m = none) (key : Key) :
    TimerStep s m key (s.scheduler.state.timers.get? key)
      ((s.scheduler.addTimer callback period autoRepeat
        (.ofTime readAt)).2.state.timers.get? key) := by
  have hintervened : s.scheduler.intervened? (.addTimer callback period autoRepeat) ≠ some key := by
    simp [Scheduler.intervened?]
  cases hadd : s.scheduler.state.addTimer callback period autoRepeat (.ofTime readAt) with
  | error refusal =>
    have hsame : (s.scheduler.addTimer callback period autoRepeat (.ofTime readAt)).2
        = s.scheduler := by
      cases refusal <;> simp only [Scheduler.addTimer, hadd]
    rw [hsame]
    refine .of_request hperformed hresumed hintervened fun t => ?_
    cases refusal <;> simp [Scheduler.added?, Scheduler.addTimer, hadd]
  | ok stored =>
    obtain ⟨new, wake, state⟩ := stored
    have hadded : s.scheduler.added? (.addTimer callback period autoRepeat) readAt
        = some (new, .added callback period autoRepeat (.ofTime readAt)) := by
      simp [Scheduler.added?, Scheduler.addTimer, hadd]
    simp only [Scheduler.addTimer, hadd]
    rw [State.addTimer_get? hadd]
    by_cases heq : key = new
    · obtain ⟨timers, hinsert, -⟩ := State.addTimer_cases hadd
      rw [if_pos heq, heq, Arena.get?_eq_none_of_insert hinsert]
      exact .added _ (by simpa [added?, hperformed] using hadded)
    · rw [if_neg heq]
      refine .of_request hperformed hresumed hintervened fun t => ?_
      simp [hadded, Ne.symm heq]

private theorem reschedule_timer {period : Period}
    (hperformed : s.performed? m = some (.reschedule handle period, readAt))
    (hresumed : s.resumed? m = none) (key : Key) :
    TimerStep s m key (s.scheduler.state.timers.get? key)
      ((s.scheduler.reschedule handle period (.ofTime readAt)).2.state.timers.get? key) := by
  unfold Scheduler.reschedule
  by_cases howns : s.scheduler.owns handle.owner = true
  · rw [if_pos howns]
    cases hres : s.scheduler.state.rescheduleTimer handle.key period (.ofTime readAt) with
    | none =>
      have hgone : s.scheduler.state.timers.get? handle.key = none := by
        cases hget : s.scheduler.state.timers.get? handle.key with
        | none => rfl
        | some task => cases period <;> simp [State.rescheduleTimer, hget] at hres
      exact .of_unaffected hperformed hresumed rfl (by simp [Scheduler.intervened?, hgone])
    | some result =>
      obtain ⟨task, hget, hafter⟩ := State.rescheduleTimer_get? hres
      dsimp only
      rw [hafter]
      by_cases heq : key = handle.key
      · rw [if_pos heq, heq, hget]
        exact .rescheduled task hperformed howns rfl
      · rw [if_neg heq]
        exact .of_unaffected hperformed hresumed rfl (by simp [Scheduler.intervened?, Ne.symm heq])
  · rw [if_neg howns]
    exact .of_unaffected hperformed hresumed rfl (by simp [Scheduler.intervened?, howns])

private theorem removeTimer_timer
    (hperformed : s.performed? m = some (.removeTimer handle, readAt))
    (hresumed : s.resumed? m = none) (key : Key) :
    TimerStep s m key (s.scheduler.state.timers.get? key)
      ((s.scheduler.removeTimer handle).2.state.timers.get? key) := by
  unfold Scheduler.removeTimer
  by_cases howns : s.scheduler.owns handle.owner = true
  · rw [if_pos howns]
    dsimp only
    rw [State.removeTimer_get?]
    by_cases heq : key = handle.key
    · rw [if_pos heq, ← heq]
      cases hget : s.scheduler.state.timers.get? key with
      | none =>
        exact .of_unaffected hperformed hresumed rfl
          (by simp [Scheduler.intervened?, ← heq, hget])
      | some task => exact .removed task hperformed howns heq.symm
    · rw [if_neg heq]
      exact .of_unaffected hperformed hresumed rfl (by simp [Scheduler.intervened?, Ne.symm heq])
  · rw [if_neg howns]
    exact .of_unaffected hperformed hresumed rfl (by simp [Scheduler.intervened?, howns])

private theorem rearm_timer (hperformed : s.performed? m = some (.rearm handle, readAt))
    (hresumed : s.resumed? m = none) (key : Key) :
    TimerStep s m key (s.scheduler.state.timers.get? key)
      ((s.scheduler.rearm handle (.ofTime readAt)).2.state.timers.get? key) := by
  unfold Scheduler.rearm
  by_cases howns : s.scheduler.owns handle.owner = true
  · rw [if_pos howns]
    cases hrearm : s.scheduler.state.rearmTimer handle.key (.ofTime readAt) with
    | none =>
      have hqueued := State.rearmTimer_eq_none_iff.mp hrearm
      obtain ⟨task, hget, hphase⟩ := State.isTimerQueued_iff.mp hqueued
      exact .of_unaffected hperformed hresumed rfl (by simp [Scheduler.intervened?, hget, hphase])
    | some result =>
      dsimp only
      obtain ⟨hgone, hsame⟩ | ⟨task, hget, hphase, hafter⟩ := State.rearmTimer_get? hrearm
      · rw [hsame]
        exact .of_unaffected hperformed hresumed rfl (by simp [Scheduler.intervened?, hgone])
      · rw [hafter]
        by_cases heq : key = handle.key
        · rw [if_pos heq, heq, hget]
          exact .rearmed task hperformed howns rfl hphase
        · rw [if_neg heq]
          exact .of_unaffected hperformed hresumed rfl
            (by simp [Scheduler.intervened?, Ne.symm heq])
  · rw [if_neg howns]
    exact .of_unaffected hperformed hresumed rfl (by simp [Scheduler.intervened?, howns])

private theorem releaseTimer_timer
    (hperformed : s.performed? m = some (.releaseTimer handle, readAt))
    (hresumed : s.resumed? m = none) (key : Key) :
    TimerStep s m key (s.scheduler.state.timers.get? key)
      ((s.scheduler.releaseTimer handle).2.state.timers.get? key) := by
  unfold Scheduler.releaseTimer
  by_cases howns : s.scheduler.owns handle.owner = true
  · rw [if_pos howns]
    dsimp only
    cases hget : s.scheduler.state.timers.get? handle.key with
    | none =>
      have hsame : (s.scheduler.state.releaseTimer handle.key).2 = s.scheduler.state := by
        simp [State.releaseTimer, hget]
      rw [hsame]
      exact .of_unaffected hperformed hresumed rfl (by simp [Scheduler.intervened?, hget])
    | some task =>
      rw [State.releaseTimer_get? hget]
      by_cases heq : key = handle.key
      · rw [if_pos heq, heq, hget]
        exact .released task hperformed howns rfl
      · rw [if_neg heq]
        exact .of_unaffected hperformed hresumed rfl (by simp [Scheduler.intervened?, Ne.symm heq])
  · rw [if_neg howns]
    exact .of_unaffected hperformed hresumed rfl (by simp [Scheduler.intervened?, howns])

end Requests

private theorem perform_timer {op : Operation κ} {readAt : Nat}
    (hperformed : s.performed? m = some (op, readAt)) (hresumed : s.resumed? m = none) (key : Key) :
    TimerStep s m key (s.scheduler.state.timers.get? key)
      ((s.scheduler.perform op (.ofTime readAt)).2.state.timers.get? key) := by
  have hevents {t? : Option (TimerTask κ)} (hop : op.onEvents = true) :
      TimerStep s m key t? t? := by
    cases op with
    | createEvent _ | send _ _ | releaseEvent _ =>
      exact .of_unaffected hperformed hresumed rfl (by simp [Scheduler.intervened?])
    | _ => cases hop
  cases op with
  | addTimer callback period autoRepeat => exact addTimer_timer hperformed hresumed key
  | reschedule handle period => exact reschedule_timer hperformed hresumed key
  | removeTimer handle => exact removeTimer_timer hperformed hresumed key
  | rearm handle => exact rearm_timer hperformed hresumed key
  | releaseTimer handle => exact releaseTimer_timer hperformed hresumed key
  | createEvent callback =>
    rw [Scheduler.perform, (s.scheduler.createEvent_timersKept callback).timers_eq]
    exact hevents rfl
  | send handle source =>
    rw [Scheduler.perform, (s.scheduler.send_timersKept handle source).timers_eq]
    exact hevents rfl
  | releaseEvent handle =>
    rw [Scheduler.perform, (s.scheduler.releaseEvent_timersKept handle).timers_eq]
    exact hevents rfl

/-- The decision of a pass takes out the task that it fires. -/
private theorem evaluate_timer {events readAt : Nat} {now : Tick}
    (hperformed : s.performed? m = none)
    (hresumed : s.resumed? m = some (.evaluate events now, readAt)) (key : Key) :
    TimerStep s m key (s.scheduler.state.timers.get? key)
      ((s.scheduler.state.evaluate s.scheduler.config now).2.timers.get? key) := by
  rw [State.evaluate_get?]
  have hfires : s.fires m key = true ↔
      (s.scheduler.state.evaluate s.scheduler.config now).1.fired? = some key := by
    simp [fires, fired?, hresumed, Option.any_map, Option.any_eq_true]
  split
  · next hfired =>
    cases hdecision : (s.scheduler.state.evaluate s.scheduler.config now).1 with
    | fire other callback =>
      obtain rfl : other = key := by simpa [hdecision, Decision.fired?] using hfired
      obtain ⟨-, -, -, task, -, -, -, -, hget, -⟩ := State.evaluate_of_fire hdecision
      rw [hget]
      exact .fired task (hfires.mpr hfired)
    | recheck => simp [hdecision, Decision.fired?] at hfired
    | park wait => simp [hdecision, Decision.fired?] at hfired
  · next hfired =>
    exact .of_pass hperformed (Bool.eq_false_iff.mpr fun h => hfired (hfires.mp h))
      (by simp [hresumed])

/-- The end of its run settles a task. -/
private theorem settle_timer {events since : Nat} {own : Key} {callback : Option κ}
    (hperformed : s.performed? m = none)
    (hresumed : s.resumed? m = some (.settle events own callback (.ofTime since), since))
    (key : Key) :
    TimerStep s m key (s.scheduler.state.timers.get? key)
      ((s.scheduler.state.finishTimer own callback (.ofTime since)).2.timers.get? key) := by
  have hfires : s.fires m key = false := by simp [fires, fired?, hresumed]
  cases hget : s.scheduler.state.timers.get? own with
  | none =>
    have harming : s.arming? m = none := by
      simp [arming?, hperformed, hresumed, State.putBack?, hget]
    have hsame : (s.scheduler.state.finishTimer own callback (.ofTime since)).2
        = s.scheduler.state := by
      simp [State.finishTimer, hget]
    rw [hsame]
    exact .kept _ hfires (by simp [intervened?, hperformed]) (by simp [added?, hperformed])
      (by simp [harming])
  | some task =>
    rw [State.finishTimer_get? hget]
    by_cases heq : key = own
    · subst heq
      rw [if_pos rfl, hget]
      exact .settled task hresumed
    · rw [if_neg heq]
      refine .of_pass hperformed hfires fun events' callback' after readAt h => ?_
      rw [hresumed] at h
      cases h
      exact heq rfl

/-- **All that a step may do to the record of a task.** -/
theorem step_timer (hwf : s.WellFormed c) (h : s.step m = some s') (key : Key) :
    TimerStep s m key (s.scheduler.state.timers.get? key)
      (s'.scheduler.state.timers.get? key) := by
  rcases step_scheduler h with ⟨op, readAt, hperformed, hresumed, heq⟩ |
    ⟨activation, readAt, hperformed, hresumed, heq⟩ | ⟨hperformed, hresumed, heq⟩
  · rw [heq]
    exact perform_timer hperformed hresumed key
  · have hkept {t? : Option (TimerTask κ)}
        (hevaluate : ∀ events now, activation ≠ .evaluate events now)
        (hsettle : ∀ events key callback after, activation ≠ .settle events key callback after) :
        TimerStep s m key t? t? := by
      refine .of_pass hperformed ?_ fun events callback after readAt' hsome => ?_
      · unfold fires fired?
        rw [hresumed]
        cases activation with
        | evaluate events now => exact absurd rfl (hevaluate events now)
        | _ => rfl
      · rw [hresumed] at hsome
        cases hsome
        exact hsettle events key callback after rfl
    obtain ⟨-, rest, hpasses⟩ := resumed?_eq_some hresumed
    rw [heq]
    -- The reading of a return is in the activation.
    cases hwf.passes _ (hpasses ▸ List.mem_cons_self) with
    | evaluate events _ hread =>
      rw [Scheduler.resume_evaluate_state]
      exact evaluate_timer hperformed hresumed key
    | settle events own callback _ hread => exact settle_timer hperformed hresumed key
    | drain events _ =>
      rw [Scheduler.resume_drain_state, (State.popEvent_timersKept _).timers_eq]
      exact hkept (by simp) (by simp)
    | eventReturned events own callback _ =>
      rw [Scheduler.resume, (State.finishEvent_timersKept ..).timers_eq]
      exact hkept (by simp) (by simp)
    | _ => exact hkept (by simp) (by simp)
  · rw [heq]
    exact .of_pass hperformed (fires_of_not_resumed hresumed key) (by simp [hresumed])

/-! ### What starts, and what goes on -/

/-- Whether a move adds a task, fires it, or makes a request about it that has an effect. -/
def touches (s : Host κ) (m : Move κ) (key : Key) : Bool :=
  s.fires m key || s.intervened? m = some key || (s.added? m).any (·.1 = key)

theorem touches_eq_false_iff : s.touches m key = false ↔
    s.fires m key = false ∧ s.intervened? m ≠ some key ∧ ∀ t, s.added? m ≠ some (key, t) := by
  cases hadded : s.added? m with
  | none => simp [touches, hadded]
  | some new =>
    obtain ⟨other, t⟩ := new
    simp only [touches, hadded, Option.any_some, Bool.or_eq_false_iff, decide_eq_false_iff_not,
      and_assoc, ne_eq, Option.some.injEq, Prod.mk.injEq, not_and]
    refine and_congr_right fun _ => and_congr_right fun _ => ?_
    exact ⟨fun hne _ heq => absurd heq hne, fun hne heq => hne t heq rfl⟩

theorem performed?_of_fires (h : s.fires m key = true) : s.performed? m = none := by
  obtain ⟨⟨other, readAt⟩, hfired, -⟩ := (Option.any_eq_true _ _).mp h
  obtain ⟨-, -, -, -, rfl, -⟩ := fired?_eq_some hfired
  rfl

/-- A move that puts a task back does not touch it. -/
theorem touches_of_settle {events : Nat} {callback : Option κ} {after : Tick} {readAt : Nat}
    (h : s.resumed? m = some (.settle events key callback after, readAt)) (other : Key) :
    s.touches m other = false := by
  obtain ⟨rfl, -⟩ := resumed?_eq_some h
  simp [touches, fires, fired?, h, intervened?, added?, performed?]

/-- What is added is stored under the next key. -/
theorem insert_of_added? {t : TimerTask κ} (h : s.added? m = some (key, t)) :
    ∃ value timers, s.scheduler.state.timers.insert value = .ok (key, timers) := by
  unfold added? at h
  split at h
  · next op since hperformed =>
    unfold Scheduler.added? at h
    split at h
    · next callback period autoRepeat =>
      cases hadd : s.scheduler.state.addTimer callback period autoRepeat (.ofTime since) with
      | error refusal => cases refusal <;> simp [Scheduler.addTimer, hadd] at h
      | ok stored =>
        obtain ⟨timers, hinsert, -⟩ := State.addTimer_cases hadd
        simp only [Scheduler.addTimer, hadd, Option.some.injEq, Prod.mk.injEq] at h
        exact ⟨_, timers, h.1 ▸ hinsert⟩
    · cases h
  · cases h

theorem rearm_of_added? {t : TimerTask κ} (h : s.added? m = some (key, t)) : t.rearm = false := by
  unfold added? at h
  split at h
  · unfold Scheduler.added? at h
    split at h
    · split at h
      · cases h
        rfl
      · cases h
    · cases h
  · cases h

/-- A task that is queued from its addition on is armed by it. -/
theorem arming?_of_added? {t : TimerTask κ} (h : s.added? m = some (key, t))
    (hqueued : t.phase = .queued) : ∃ a, s.arming? m = some a ∧ a.key = key := by
  unfold added? at h
  split at h
  · next op since hperformed =>
    unfold Scheduler.added? at h
    split at h
    · next callback period autoRepeat =>
      split at h
      · next handle hreply =>
        cases h
        obtain ⟨micros, rfl⟩ : ∃ micros, period = .after micros := by
          cases period with
          | never => cases hqueued
          | after micros => exact ⟨micros, rfl⟩
        exact ⟨⟨handle.key, since, micros⟩, by
          simp [arming?, hperformed, Scheduler.arming?, hreply], rfl⟩
      · cases h
    · cases h
  · cases h

/-- **A task that is queued** after a step was armed by it, or it was queued before and the step did
not touch it. -/
theorem step_queued (hwf : s.WellFormed c) (h : s.step m = some s')
    (hqueued : s'.scheduler.state.isTimerQueued key = true) :
    (∃ a, s.arming? m = some a ∧ a.key = key) ∨
      s.scheduler.state.isTimerQueued key = true ∧ s.touches m key = false := by
  obtain ⟨t', hafter, hphase⟩ := State.isTimerQueued_iff.mp hqueued
  have hstep := step_timer hwf h key
  generalize hbefore : s.scheduler.state.timers.get? key = t? at hstep
  rw [hafter] at hstep
  generalize hsome : some t' = t'? at hstep
  cases hstep with
  | kept _ hfires hintervened hadded harming =>
    subst hsome
    exact .inr ⟨State.isTimerQueued_iff.mpr ⟨t', hbefore, hphase⟩,
      touches_eq_false_iff.mpr ⟨hfires, hintervened, hadded⟩⟩
  | added t hadded =>
    cases hsome
    exact .inl (arming?_of_added? hadded hphase)
  | @rescheduled t handle period since hperformed howns hkey =>
    cases hsome
    obtain ⟨micros, rfl⟩ := TimerTask.exists_micros_of_restarted hphase
    refine .inl ⟨⟨key, since, micros⟩, ?_, rfl⟩
    simp [arming?, hperformed, Scheduler.arming?, howns, hkey, hbefore]
  | removed t hperformed howns hkey =>
    cases hsome
    exact absurd hphase t.unqueued_phase_ne
  | @rearmed t handle since hperformed howns hkey hidle =>
    cases hsome
    obtain ⟨micros, hmicros⟩ := TimerTask.exists_micros_of_restarted hphase
    refine .inl ⟨⟨key, since, micros⟩, ?_, rfl⟩
    simp [arming?, hperformed, Scheduler.arming?, howns, hkey, hbefore, hidle,
      State.isTimerQueued, hmicros, Period.micros?]
  | released t hperformed howns hkey =>
    split at hsome
    · next hrunning =>
      cases hsome
      simp [hrunning] at hphase
    · cases hsome
  | fired t hfires =>
    cases hsome
    cases hphase
  | @settled t events callback since hresumed =>
    split at hsome
    · cases hsome
    · next hreleased =>
      cases hsome
      rcases TimerTask.queued_of_settled hphase with hqueued | ⟨micros, hrunning, hrearm, hmicros⟩
      · exact .inr ⟨State.isTimerQueued_iff.mpr ⟨t, hbefore, hqueued⟩,
          touches_of_settle hresumed key⟩
      · obtain ⟨rfl, -⟩ := resumed?_eq_some hresumed
        refine .inl ⟨⟨key, since, micros⟩, ?_, rfl⟩
        simp [arming?, performed?, hresumed, State.putBack?, hbefore, hreleased, hrunning, hrearm,
          hmicros, Period.micros?]

/-- **A task that will be put back** after a step was fired by it, or it would have been put back
before and the step did not touch it. -/
theorem step_repeating (hwf : s.WellFormed c) (h : s.step m = some s') {t' : TimerTask κ}
    (hafter : s'.scheduler.state.timers.get? key = some t') (hphase : t'.phase = .running)
    (hrearm : t'.rearm = true) :
    s.fires m key = true ∧ t'.autoRepeat = true ∨
      s.scheduler.state.timers.get? key = some t' ∧ s.touches m key = false := by
  have hstep := step_timer hwf h key
  generalize s.scheduler.state.timers.get? key = t? at hstep ⊢
  rw [hafter] at hstep
  generalize hsome : some t' = t'? at hstep
  -- A task on which a request has an effect is not put back, so it is fired or let alone.
  cases hstep with
  | kept _ hfires hintervened hadded harming =>
    exact .inr ⟨rfl, touches_eq_false_iff.mpr ⟨hfires, hintervened, hadded⟩⟩
  | added t hadded =>
    cases hsome
    rw [rearm_of_added? hadded] at hrearm
    cases hrearm
  | rescheduled t hperformed howns hkey =>
    cases hsome
    simp [TimerTask.rearm_of_restarted hphase] at hrearm
  | removed t hperformed howns hkey =>
    cases hsome
    simp [TimerTask.rearm_of_unqueued hphase] at hrearm
  | rearmed t hperformed howns hkey hidle =>
    cases hsome
    simp [TimerTask.rearm_of_restarted hphase] at hrearm
  | released t hperformed howns hkey =>
    split at hsome
    · cases hsome
      cases hrearm
    · cases hsome
  | fired t hfires =>
    cases hsome
    exact .inl ⟨hfires, hrearm⟩
  | settled t hresumed =>
    split at hsome
    · cases hsome
    · cases hsome
      simp [TimerTask.settled_rearm] at hrearm

/-- Whether a task repeats is said when it is added. -/
theorem step_autoRepeat (hwf : s.WellFormed c) (h : s.step m = some s') {t' : TimerTask κ}
    (hafter : s'.scheduler.state.timers.get? key = some t') :
    (∃ t, s.added? m = some (key, t) ∧ t.autoRepeat = t'.autoRepeat) ∨
      (∀ t, s.added? m ≠ some (key, t)) ∧
        ∃ t, s.scheduler.state.timers.get? key = some t ∧ t.autoRepeat = t'.autoRepeat := by
  have hstep := step_timer hwf h key
  generalize s.scheduler.state.timers.get? key = t? at hstep ⊢
  rw [hafter] at hstep
  generalize hsome : some t' = t'? at hstep
  cases hstep with
  | kept _ hfires hintervened hadded harming => exact .inr ⟨hadded, t', hsome.symm, rfl⟩
  | added t hadded =>
    cases hsome
    exact .inl ⟨t', hadded, rfl⟩
  | rescheduled t hperformed _ _ =>
    cases hsome
    exact .inr ⟨by simp [added?, hperformed, Scheduler.added?], t, rfl, t.unqueued_autoRepeat.symm⟩
  | removed t hperformed _ _ =>
    cases hsome
    exact .inr ⟨by simp [added?, hperformed, Scheduler.added?], t, rfl, t.unqueued_autoRepeat.symm⟩
  | rearmed t hperformed _ _ _ =>
    cases hsome
    exact .inr ⟨by simp [added?, hperformed, Scheduler.added?], t, rfl, t.unqueued_autoRepeat.symm⟩
  | released t hperformed _ _ =>
    split at hsome
    · cases hsome
      exact .inr ⟨by simp [added?, hperformed, Scheduler.added?], t, rfl, rfl⟩
    · cases hsome
  | fired t hfires =>
    cases hsome
    exact .inr ⟨by simp [added?, performed?_of_fires hfires], t, rfl, rfl⟩
  | settled t hresumed =>
    obtain ⟨rfl, -⟩ := resumed?_eq_some hresumed
    split at hsome
    · cases hsome
    · cases hsome
      exact .inr ⟨by simp [added?, performed?], t, rfl, (t.settled_autoRepeat ..).symm⟩

end Host

end CoopScheduler
