import CoopScheduler.Proofs.Conservation

/-!
# Requests that are refused

A request for a new task is refused if as many tasks of its kind exist as the configuration allows,
and a request to rearm a timer if that is queued. What is refused leaves the scheduler as it was.

* `Scheduler.addTimer_cases`, `Scheduler.createEvent_cases`, `Scheduler.rearm_refused_iff`: when a
  request is refused.
* `Scheduler.perform_refused`: a request that is refused changes nothing and wakes no one, and the
  callback that it has passed on is dropped.
* `Host.Run.forget`: a request in flight that has not entered its critical section has had no
  influence on anything. The run without it has the same deeds (`Host.deed?`).
* `Host.refusals_leave_no_trace`: hence after a refusal everything goes on as if the request had not
  been made.
-/

namespace CoopScheduler

variable {κ : Type}

/-! ### Refusals -/

namespace Scheduler

variable {s : Scheduler κ} {op : Operation κ} {now : Tick} {error : SchedulerError}

/-- **A new timer is refused** exactly if there are as many timers as there may be. -/
theorem addTimer_cases (hvalid : s.state.timers.shape.Valid) (callback : κ) (period : Period)
    (autoRepeat : Bool) (now : Tick) :
    s.state.timers.keys.length = s.state.timers.capacity ∧
        (s.addTimer callback period autoRepeat now).1.reply
          = .refused (.timerSlotsExhausted s.name s.config.maxTimerTasks) ∨
      s.state.timers.keys.length < s.state.timers.capacity ∧
        ∃ handle, (s.addTimer callback period autoRepeat now).1.reply = .timer handle := by
  rw [Arena.valid_shape_iff] at hvalid
  rw [hvalid.length_keys]
  rcases hvalid.insert_cases ⟨some callback, period, autoRepeat, now, .inert, false, false⟩ with
    ⟨hfull, hinsert⟩ | ⟨hroom, key, timers, hinsert, -⟩
  · exact .inl ⟨hfull, by simp [addTimer, State.addTimer, hinsert]⟩
  · refine .inr ⟨hroom, ⟨s.id, key⟩, ?_⟩
    cases period <;> simp [addTimer, State.addTimer, hinsert]

/-- **A new event is refused** exactly if there are as many events as there may be. -/
theorem createEvent_cases (hvalid : s.state.events.shape.Valid) (callback : κ) :
    s.state.events.keys.length = s.state.events.capacity ∧
        (s.createEvent callback).1.reply
          = .refused (.eventSlotsExhausted s.name s.config.maxEventTasks) ∨
      s.state.events.keys.length < s.state.events.capacity ∧
        ∃ handle, (s.createEvent callback).1.reply = .event handle := by
  rw [Arena.valid_shape_iff] at hvalid
  rw [hvalid.length_keys]
  rcases hvalid.insert_cases ⟨some callback, false, false, false⟩ with
    ⟨hfull, hinsert⟩ | ⟨hroom, key, events, hinsert, -⟩
  · exact .inl ⟨hfull, by simp [createEvent, State.createEvent, hinsert, Except.map]⟩
  · exact .inr ⟨hroom, ⟨s.id, key⟩, by simp [createEvent, State.createEvent, hinsert, Except.map]⟩

/-- **A rearm is refused** exactly if its timer is one of this scheduler, exists and is queued. -/
theorem rearm_refused_iff (handle : TimerHandle) (now : Tick) :
    (∃ error, (s.rearm handle now).1.reply = .refused error) ↔
      handle.owner = s.id ∧
        ∃ task, s.state.timers.get? handle.key = some task ∧ task.phase = .queued := by
  have hnone : s.state.rearmTimer handle.key now = none ↔
      s.state.isTimerQueued handle.key = true := State.rearmTimer_eq_none_iff
  rw [← State.isTimerQueued_iff, ← hnone]
  unfold rearm owns
  by_cases howner : handle.owner = s.id
  · cases hrearm : s.state.rearmTimer handle.key now <;> simp [howner]
  · simp [howner]

/-- **A request that is refused changes nothing**, has no one woken and the log not written, and the
callback that it has passed on is dropped. -/
theorem perform_refused (h : (s.perform op now).1.reply = .refused error) :
    s.perform op now = ({ dropped? := op.callback?, reply := .refused error }, s) := by
  cases op with
  | addTimer callback period autoRepeat =>
    simp only [perform, addTimer] at h ⊢
    cases hadd : s.state.addTimer callback period autoRepeat now with
    | ok stored => simp [hadd] at h
    | error refusal =>
      rw [hadd] at h
      rcases Arena.refusal_of_insert (State.insert_of_addTimer_error hadd) with rfl | rfl
      · cases h
        rfl
      · cases h
  | rearm handle =>
    simp only [perform, rearm] at h ⊢
    split at h
    · next howns =>
      cases hrearm : s.state.rearmTimer handle.key now with
      | none =>
        rw [hrearm] at h
        cases h
        simp [howns, Operation.callback?]
      | some result => simp [hrearm] at h
    · cases h
  | createEvent callback =>
    simp only [perform, createEvent] at h ⊢
    cases hcreate : s.state.createEvent callback with
    | ok stored => simp [hcreate] at h
    | error refusal =>
      rw [hcreate] at h
      rcases Arena.refusal_of_insert (State.insert_of_createEvent_error hcreate) with rfl | rfl
      · cases h
        rfl
      · cases h
  | reschedule handle period =>
    simp only [perform, reschedule] at h
    split at h <;> [split at h; skip] <;> cases h
  | removeTimer handle =>
    simp only [perform, removeTimer] at h
    split at h <;> cases h
  | releaseTimer handle =>
    simp only [perform, releaseTimer] at h
    split at h <;> cases h
  | send handle source =>
    simp only [perform, send] at h
    split at h <;> cases h
  | releaseEvent handle =>
    simp only [perform, releaseEvent] at h
    split at h <;> cases h

end Scheduler

/-! ### Without a request -/

/-- The place of the item at `j` once the one at `i` is gone. -/
def placeWithout (i j : Nat) : Nat :=
  if j < i then j else j - 1

section Place

variable {α : Type} {l : List α} {i j : Nat}

theorem getElem?_placeWithout (h : j ≠ i) : (l.eraseIdx i)[placeWithout i j]? = l[j]? := by
  rw [List.getElem?_eraseIdx, placeWithout]
  by_cases hlt : j < i
  · simp [hlt]
  · have hpred : ¬j - 1 < i := by omega
    rw [if_neg hlt, if_neg hpred, Nat.sub_add_cancel (by omega)]

theorem set_placeWithout (h : j ≠ i) (a : α) :
    (l.eraseIdx i).set (placeWithout i j) a = (l.set j a).eraseIdx i := by
  rw [placeWithout]
  split
  · next hlt => exact (List.eraseIdx_set_gt hlt).symm
  · exact (List.eraseIdx_set_lt (by omega)).symm

/-- Of two items, either one may go first. -/
theorem eraseIdx_placeWithout (h : j ≠ i) :
    (l.eraseIdx i).eraseIdx (placeWithout i j) = (l.eraseIdx j).eraseIdx (placeWithout j i) := by
  refine List.ext_getElem? fun k => ?_
  simp only [List.getElem?_eraseIdx, placeWithout]
  rcases Nat.lt_or_gt_of_ne h with hlt | hgt <;>
    split_ifs <;> first | rfl | (exfalso; omega)

/-- What is left once the item at `j` is gone was there before. -/
theorem exists_placeWithout (j k : Nat) : ∃ i, i ≠ j ∧ placeWithout j i = k := by
  by_cases hlt : k < j
  · exact ⟨k, Nat.ne_of_lt hlt, if_pos hlt⟩
  · refine ⟨k + 1, by omega, ?_⟩
    rw [placeWithout, if_neg (by omega), Nat.add_sub_cancel]

end Place

/-- What can be told of a move from outside. -/
inductive Deed (κ : Type) where
  /-- What came of a request whose reading was taken at `readAt`. -/
  | request (op : Operation κ) (readAt : Nat) (outcome : Outcome κ)
  /-- The context is woken. -/
  | wake (request : Host.InFlight κ)
  /-- What a pass does whose last reading was taken at `readAt`. -/
  | pass (activation : Activation κ) (readAt : Nat) (effect : Effect κ)

namespace Host

variable {c : Config} {ok : Condition κ} {past later : History κ} {s s' s'' : Host κ} {m : Move κ}
  {i : Nat} {op : Operation κ} {readAt : Nat}

/-- The request that a move wakes the context for. -/
def wakes? (s : Host κ) : Move κ → Option (InFlight κ)
  | .unpark i => s.inFlight[i]?
  | _ => none

/-- What can be told of a move from outside. -/
def deed? (s : Host κ) (m : Move κ) : Option (Deed κ) :=
  ((s.performed? m).map fun request =>
      .request request.1 request.2 (s.scheduler.perform request.1 (.ofTime request.2)).1).or
    (((s.resumed? m).map fun resumed =>
      .pass resumed.1 resumed.2 (s.scheduler.resume resumed.1).1).or ((s.wakes? m).map .wake))

/-- The same host without one of its requests in flight. -/
def forget (s : Host κ) (i : Nat) : Host κ :=
  { s with inFlight := s.inFlight.eraseIdx i }

/-- **A request that has only been made has no influence** on a step: the step is the one that makes
the request, or it can be made without that, with the same deed. -/
theorem step_forget (h : s.step m = some s') (hi : s'.inFlight[i]? = some (.asked op readAt)) :
    (s.deed? m = none ∧ s'.forget i = s) ∨
      ∃ k m', s.inFlight[k]? = some (.asked op readAt) ∧
        (s.forget k).step m' = some (s'.forget i) ∧ (s.forget k).deed? m' = s.deed? m := by
  cases Step.of_step h with
  | elapse micros => exact .inr ⟨i, .elapse micros, hi, rfl, rfl⟩
  | enter => exact .inr ⟨i, .enter, hi, rfl, rfl⟩
  | read hpasses =>
    exact .inr ⟨i, .resume, hi, by simp [step, forget, hpasses, resumeFrame], rfl⟩
  | unparked hpasses =>
    exact .inr ⟨i, .resume, hi, by simp [step, forget, hpasses, resumeFrame], rfl⟩
  | goOn hpasses =>
    exact .inr ⟨i, .resume, hi, by simp [step, forget, hpasses, resumeFrame], rfl⟩
  | ask other =>
    rcases Nat.lt_or_ge i s.inFlight.length with hlt | hge
    · rw [List.getElem?_append_left hlt] at hi
      exact .inr ⟨i, .ask other, hi, by
        simp [step, forget, List.eraseIdx_append_of_lt_length hlt], rfl⟩
    · -- The request is the one that is made now.
      obtain rfl : i = s.inFlight.length := by
        have hlast := (List.getElem?_eq_some_iff.mp hi).1
        rw [List.length_append, List.length_singleton] at hlast
        omega
      exact .inl ⟨rfl, by simp [forget, List.eraseIdx_append_of_length_le]⟩
  | stop =>
    have hlt : i < s.inFlight.length := by
      by_contra hge
      rw [List.getElem?_append_right (Nat.not_lt.mp hge)] at hi
      rcases hlast : i - s.inFlight.length with _ | n <;> simp [hlast] at hi
    rw [List.getElem?_append_left hlt] at hi
    exact .inr ⟨i, .stop, hi, by
      simp [step, forget, List.eraseIdx_append_of_lt_length hlt], rfl⟩
  | @perform j other otherReadAt hj =>
    rcases hperform : s.scheduler.perform other (.ofTime otherReadAt) with ⟨outcome, scheduler⟩
    cases hwake : outcome.wake? with
    | none =>
      simp only [performAt, hperform, hwake] at hi ⊢
      obtain ⟨k, hne, rfl⟩ := exists_placeWithout j i
      rw [getElem?_placeWithout hne] at hi
      refine .inr ⟨k, .perform (placeWithout k j), hi, ?_, ?_⟩
      · simp only [step, forget, getElem?_placeWithout hne.symm, hj, performAt, hperform, hwake,
          eraseIdx_placeWithout hne.symm]
      · simp [deed?, performed?, forget, getElem?_placeWithout hne.symm, hj]
    | some source =>
      simp only [performAt, hperform, hwake] at hi ⊢
      have hne : j ≠ i := by
        rintro rfl
        rw [List.getElem?_set_self (List.getElem?_eq_some_iff.mp hj).1] at hi
        cases hi
      rw [List.getElem?_set_ne hne] at hi
      refine .inr ⟨i, .perform (placeWithout i j), hi, ?_, ?_⟩
      · simp only [step, forget, getElem?_placeWithout hne, hj, performAt, hperform, hwake,
          set_placeWithout hne]
      · simp [deed?, performed?, forget, getElem?_placeWithout hne, hj]
  | @unpark j request hj hasked =>
    obtain ⟨k, hne, rfl⟩ := exists_placeWithout j i
    simp only [getElem?_placeWithout hne] at hi
    refine .inr ⟨k, .unpark (placeWithout k j), hi, ?_, ?_⟩
    · cases request with
      | asked other otherReadAt => exact absurd rfl (hasked other otherReadAt)
      | waking source | stopping =>
        simp only [step, forget, getElem?_placeWithout hne.symm, hj,
          eraseIdx_placeWithout hne.symm]
    · simp [deed?, performed?, resumed?, wakes?, forget, getElem?_placeWithout hne.symm]

/-- **A request that has only been made can be left out** of a run: one step less leads to the same
host without it, by the same deeds. -/
theorem Run.forget (h : Run c ok past s) (hi : s.inFlight[i]? = some (.asked op readAt)) :
    ∃ past', past'.length + 1 = past.length ∧
      Run c (fun _ _ _ _ => True) past' (s.forget i) ∧ log deed? past' = log deed? past := by
  refine h.inductAlong (I := fun past s => ∀ i, s.inFlight[i]? = some (.asked op readAt) →
    ∃ past', past'.length + 1 = past.length ∧
      Run c (fun _ _ _ _ => True) past' (s.forget i) ∧ log deed? past' = log deed? past)
    (fun id time i hi => ?_) ?_ i hi
  · simp [create] at hi
  · intro past s m s' hrun hI hstep _ i hi
    rcases step_forget hstep hi with ⟨hdeed, hmade⟩ | ⟨k, m', hk, hstep', hdeed⟩
    · refine ⟨past, by simp, hmade ▸ hrun.mono fun _ _ _ _ _ => trivial, ?_⟩
      rw [log_concat, hdeed, Option.toList_none, List.append_nil]
    · obtain ⟨past', hlength, hrun', hlog⟩ := hI k hk
      refine ⟨past' ++ [(s.forget k, m')], by simp [hlength], hrun'.snoc hstep' trivial, ?_⟩
      rw [log_concat, log_concat, hlog, hdeed]

/-! ### No trace -/

/-- A request in flight is as good as not made, if it has passed on `callback?`. -/
structure LeavesNoTrace (c : Config) (past : History κ) (s : Host κ) (i : Nat)
    (callback? : Option κ) : Prop where
  /-- It is over with its critical section, and that leaves everything as it was. -/
  step : s.step (.perform i) = some (s.forget i)
  /-- The callback is dropped. -/
  drops : s.drops? (.perform i) = callback?
  /-- Without the request, the same deeds would have led to the same host, and whatever is possible
  afterwards is possible then. -/
  without : ∃ past', past'.length + 1 = past.length ∧
    Run c (fun _ _ _ _ => True) past' (s.forget i) ∧ log deed? past' = log deed? past ∧
    ∀ later s', Path (fun _ _ _ _ => True) (past ++ [(s, .perform i)]) (s.forget i) later s' →
      Run c (fun _ _ _ _ => True) (past' ++ later) s'

/-- What is known of requests that are refused. -/
structure Refusals (c : Config) (past : History κ) (s : Host κ) : Prop where
  /-- A new timer is refused exactly if there are as many timers as there may be, and among these
  are those that were released and are still running. -/
  addTimer : ∀ callback period autoRepeat now,
    s.scheduler.state.timers.keys.length = c.maxTimerTasks ∧
        (s.scheduler.perform (.addTimer callback period autoRepeat) now).1.reply
          = .refused (.timerSlotsExhausted s.scheduler.name c.maxTimerTasks) ∨
      s.scheduler.state.timers.keys.length < c.maxTimerTasks ∧
        ∃ handle, (s.scheduler.perform (.addTimer callback period autoRepeat) now).1.reply
          = .timer handle
  /-- A new event is refused exactly if there are as many events as there may be. -/
  createEvent : ∀ callback now,
    s.scheduler.state.events.keys.length = c.maxEventTasks ∧
        (s.scheduler.perform (.createEvent callback) now).1.reply
          = .refused (.eventSlotsExhausted s.scheduler.name c.maxEventTasks) ∨
      s.scheduler.state.events.keys.length < c.maxEventTasks ∧
        ∃ handle, (s.scheduler.perform (.createEvent callback) now).1.reply = .event handle
  /-- A rearm is refused exactly if its timer is one of this scheduler, exists and is queued. -/
  rearm : ∀ handle now,
    (∃ error, (s.scheduler.perform (.rearm handle) now).1.reply = .refused error) ↔
      handle.owner = s.scheduler.id ∧
        ∃ task, s.scheduler.state.timers.get? handle.key = some task ∧ task.phase = .queued
  /-- A request that is refused changes nothing, has no one woken and the log not written, and the
  callback that it has passed on is dropped. -/
  unchanged : ∀ {op now error}, (s.scheduler.perform op now).1.reply = .refused error →
    s.scheduler.perform op now
      = ({ dropped? := op.callback?, reply := .refused error }, s.scheduler)
  noTrace : ∀ {i op readAt error}, s.inFlight[i]? = some (.asked op readAt) →
    (s.scheduler.perform op (.ofTime readAt)).1.reply = .refused error →
      LeavesNoTrace c past s i op.callback?

theorem Run.leavesNoTrace (h : Run c ok past s) {error : SchedulerError}
    (hi : s.inFlight[i]? = some (.asked op readAt))
    (hrefused : (s.scheduler.perform op (.ofTime readAt)).1.reply = .refused error) :
    LeavesNoTrace c past s i op.callback? := by
  have hunchanged := Scheduler.perform_refused hrefused
  refine ⟨?_, ?_, ?_⟩
  · simp only [Host.step, hi, performAt, hunchanged, Host.forget]
  · simp only [drops?, performed?, hi, hunchanged]
  · obtain ⟨past', hlength, hrun, hlog⟩ := h.forget hi
    exact ⟨past', hlength, hrun, hlog, fun later s' hpath => hrun.append (hpath.anyPast past')⟩

/-- **Refused requests leave no trace**: there is one reason each for a refusal, and then nothing
has changed, and everything goes on as if the request had not been made. -/
theorem refusals_leave_no_trace (h : Run c ok past s) : Refusals c past s where
  addTimer callback period autoRepeat now := by
    have hcases := s.scheduler.addTimer_cases h.ledger.valid callback period autoRepeat now
    rwa [h.ledger.capacity_eq, h.wellFormed.config_eq] at hcases
  createEvent callback now := by
    have hcases := s.scheduler.createEvent_cases h.eventsStored.valid callback
    rwa [show s.scheduler.state.events.capacity = c.maxEventTasks from h.eventsStored.capacity_eq,
      h.wellFormed.config_eq] at hcases
  rearm := s.scheduler.rearm_refused_iff
  unchanged := Scheduler.perform_refused
  noTrace := h.leavesNoTrace

/-- There may be one timer. It is released in its own callback, and goes on counting as it is still
running; so another timer is refused. Without that request everything would be the same. -/
theorem refusals_leave_no_trace_while_running :
    ∃ (past : History Nat) (s : Host Nat) (task : TimerTask Nat),
      Run { maxTimerTasks := 1 } (fun _ _ _ _ => True) past s ∧
      s.scheduler.state.timers.get? ⟨0, 0⟩ = some task ∧ task.released = true ∧
      (s.scheduler.perform (.addTimer 2 (.after 100) false) ⟨0⟩).1.reply
        = .refused (.timerSlotsExhausted "hal-sched" 1) ∧
      s.step (.perform 0) = some (s.forget 0) ∧ s.drops? (.perform 0) = some 2 ∧
      ∃ past', past'.length + 1 = past.length ∧
        Run { maxTimerTasks := 1 } (fun _ _ _ _ => True) past' (s.forget 0) ∧
        log deed? past' = log deed? past := by
  obtain ⟨past, s, task, h, hget, hreleased, hfull, hi, hname⟩ :
      ∃ (past : History Nat) (s : Host Nat) (task : TimerTask Nat),
        Run { maxTimerTasks := 1 } (fun _ _ _ _ => True) past s ∧
        s.scheduler.state.timers.get? ⟨0, 0⟩ = some task ∧ task.released = true ∧
        s.scheduler.state.timers.keys.length = 1 ∧
        s.inFlight[0]? = some (.asked (.addTimer 2 (.after 100) false) 0) ∧
        s.scheduler.name = "hal-sched" :=
    ⟨_, _, _, Run.of_play ⟨0⟩ 0
      [.ask (.addTimer 1 (.after 0) false), .perform 0, .enter, .resume, .resume, .resume,
       .ask (.releaseTimer ⟨⟨0⟩, ⟨0, 0⟩⟩), .perform 0, .ask (.addTimer 2 (.after 100) false)] rfl,
     rfl, rfl, rfl, rfl, rfl⟩
  have hrefusals := refusals_leave_no_trace h
  rcases hrefusals.addTimer 2 (.after 100) false ⟨0⟩ with ⟨-, hrefused⟩ | ⟨hroom, -⟩
  · rw [hname] at hrefused
    obtain ⟨hstep, hdrops, past', hlength, hrun, hlog, -⟩ := hrefusals.noTrace hi hrefused
    exact ⟨past, s, task, h, hget, hreleased, hrefused, hstep, hdrops, past', hlength, hrun, hlog⟩
  · rw [hfull] at hroom
    exact absurd hroom (Nat.lt_irrefl 1)

end Host

end CoopScheduler
