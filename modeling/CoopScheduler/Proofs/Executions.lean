import CoopScheduler.Proofs.Custody
import CoopScheduler.Proofs.Dispatches
import CoopScheduler.Proofs.Leftovers
import CoopScheduler.Proofs.TimerSteps

/-!
# What is reported was run

On any run that redispatches no task, with passes nested in passes, what the scheduler counts and
what its passes report are calls of callbacks (`Host.dispatches_executed`).

* A countdown leaves the queue by a request about its task, or as its task is fired, or because its
  task is gone (`Host.countdown_leaves`).
* Every pass in progress has begun (`Host.Run.exists_begin`), so what it reports in the end can be
  compared with the callbacks that it has called by itself since (`Host.DuringPass`).
* `Host.dispatched_without_execution`: a pass within the callback of an event that was sent again
  counts this event, reports it and uses up the send, and runs nothing.
-/

namespace CoopScheduler

variable {κ : Type}

/-! ### Countdowns that leave the queue -/

namespace State

variable {s s' : State κ} {key : Key} {q : Countdown}

theorem mem_entries_removeTimer (hq : q ∈ s.timerQueue.entries) (hne : q.key ≠ key) :
    q ∈ (s.removeTimer key).timerQueue.entries := by
  unfold removeTimer
  split
  · exact hq
  · split
    · exact (List.mem_eraseP_of_neg (by simpa using hne)).mpr hq
    · exact hq
    · exact hq

theorem mem_entries_rescheduleTimer {period : Period} {wake : Bool} {now : Tick}
    (h : s.rescheduleTimer key period now = some (wake, s')) (hq : q ∈ s.timerQueue.entries)
    (hne : q.key ≠ key) : q ∈ s'.timerQueue.entries := by
  have hkept := mem_entries_removeTimer hq hne
  obtain ⟨task, updated, -, rfl, ⟨-, rfl⟩ | ⟨micros, -, rfl⟩⟩ := rescheduleTimer_cases h
  · exact hkept
  · simp [queueTimer, TimerQueue.mem_insert, hkept]

theorem mem_entries_rearmTimer {wake : Bool} {now : Tick}
    (h : s.rearmTimer key now = some (wake, s')) (hq : q ∈ s.timerQueue.entries)
    (hne : q.key ≠ key) : q ∈ s'.timerQueue.entries := by
  have hkept := mem_entries_removeTimer hq hne
  obtain ⟨-, rfl⟩ | ⟨task, updated, -, -, rfl, ⟨-, rfl⟩ | ⟨micros, leads, -, rfl⟩⟩ :=
    rearmTimer_cases h
  · exact hq
  · exact hkept
  · simp [queueTimer, TimerQueue.mem_insert, hkept]

theorem mem_entries_releaseTimer (hq : q ∈ s.timerQueue.entries) (hne : q.key ≠ key) :
    q ∈ (s.releaseTimer key).2.timerQueue.entries := by
  unfold releaseTimer
  split
  · exact hq
  · split
    · exact hq
    · exact mem_entries_removeTimer hq hne

theorem mem_entries_finishTimer (hq : q ∈ s.timerQueue.entries) (key : Key)
    (callback : Option κ) (after : Tick) :
    q ∈ (s.finishTimer key callback after).2.timerQueue.entries := by
  unfold finishTimer settleTimer
  split
  · exact hq
  · split
    · exact hq
    · dsimp only
      split <;> try split
      · exact TimerQueue.mem_insert.mpr (.inr hq)
      all_goals exact hq

end State

/-- A request takes countdowns of its own task off the queue only. -/
theorem Scheduler.mem_entries_perform {s : Scheduler κ} {q : Countdown}
    (hq : q ∈ s.state.timerQueue.entries) (op : Operation κ) (now : Tick) :
    q ∈ (s.perform op now).2.state.timerQueue.entries ∨ s.intervened? op = some q.key := by
  cases op with
  | addTimer callback period autoRepeat =>
    left
    simp only [perform, addTimer]
    cases hadd : s.state.addTimer callback period autoRepeat now with
    | error refusal => cases refusal <;> exact hq
    | ok stored =>
      obtain ⟨timers, -, ⟨-, hstate⟩ | ⟨micros, leads, -, hstate⟩⟩ := State.addTimer_cases hadd
      · simpa [hstate] using hq
      · simp [hstate, State.queueTimer, TimerQueue.mem_insert, hq]
  | reschedule handle period =>
    simp only [perform, reschedule]
    split
    · next howns =>
      cases hresult : s.state.rescheduleTimer handle.key period now with
      | none => exact .inl hq
      | some stored =>
        by_cases hkey : q.key = handle.key
        · obtain ⟨task, -, hget, -⟩ := State.rescheduleTimer_cases hresult
          exact .inr (by simp [intervened?, howns, hget, hkey])
        · exact .inl (State.mem_entries_rescheduleTimer hresult hq hkey)
    · exact .inl hq
  | removeTimer handle =>
    simp only [perform, removeTimer]
    split
    · next howns =>
      by_cases hkey : q.key = handle.key
      · cases hget : s.state.timers.get? handle.key with
        | none => exact .inl (by simpa [State.removeTimer, hget] using hq)
        | some task => exact .inr (by simp [intervened?, howns, hget, hkey])
      · exact .inl (State.mem_entries_removeTimer hq hkey)
    · exact .inl hq
  | rearm handle =>
    simp only [perform, rearm]
    split
    · next howns =>
      cases hresult : s.state.rearmTimer handle.key now with
      | none => exact .inl hq
      | some stored =>
        by_cases hkey : q.key = handle.key
        · obtain ⟨-, hstate⟩ | ⟨task, -, hget, hphase, -⟩ := State.rearmTimer_cases hresult
          · exact .inl (by simpa [hstate] using hq)
          · exact .inr (by simp [intervened?, howns, hget, hphase, hkey])
        · exact .inl (State.mem_entries_rearmTimer hresult hq hkey)
    · exact .inl hq
  | releaseTimer handle =>
    simp only [perform, releaseTimer]
    split
    · next howns =>
      by_cases hkey : q.key = handle.key
      · cases hget : s.state.timers.get? handle.key with
        | none => exact .inl (by simpa [State.releaseTimer, hget] using hq)
        | some task => exact .inr (by simp [intervened?, howns, hget, hkey])
      · exact .inl (State.mem_entries_releaseTimer hq hkey)
    · exact .inl hq
  | createEvent callback =>
    rw [perform, (s.createEvent_timersKept callback).timerQueue_eq]
    exact .inl hq
  | send handle source =>
    rw [perform, (s.send_timersKept handle source).timerQueue_eq]
    exact .inl hq
  | releaseEvent handle =>
    rw [perform, (s.releaseEvent_timersKept handle).timerQueue_eq]
    exact .inl hq

namespace Host

variable {c : Config} {ok : Condition κ} {past later : History κ} {s s' : Host κ} {m : Move κ}

/-- **A countdown leaves the queue** by a request about its task, or as its task is fired, or
because its task is gone. -/
theorem countdown_leaves (h : s.step m = some s') {q : Countdown}
    (hq : q ∈ s.scheduler.state.timerQueue.entries)
    (hleft : q ∉ s'.scheduler.state.timerQueue.entries) :
    s.intervened? m = some q.key ∨ s.firedKey? m = some q.key ∨
      s.scheduler.state.timers.get? q.key = none := by
  rcases step_scheduler h with ⟨op, readAt, hperformed, -, heq⟩ |
    ⟨activation, readAt, -, hresumed, heq⟩ | ⟨-, -, heq⟩
  · rw [heq] at hleft
    rcases Scheduler.mem_entries_perform hq op (.ofTime readAt) with hkept | hintervened
    · exact absurd hkept hleft
    · exact .inl (by simpa [intervened?, hperformed] using hintervened)
  · rw [heq] at hleft
    cases activation with
    | evaluate events now =>
      obtain ⟨gone, taken, hentries, hgone, -, htaken⟩ :=
        s.scheduler.state.evaluate_entries s.scheduler.config now
      rw [Scheduler.resume_evaluate_state] at hleft
      rw [hentries] at hq
      rcases List.mem_append.mp hq with hq | hq
      · rcases List.mem_append.mp hq with hq | hq
        · exact .inr (.inr (hgone q hq))
        · have hmem := List.mem_map_of_mem (f := Countdown.key) hq
          rw [htaken, Option.mem_toList] at hmem
          exact .inr (.inl ((firedKey?_of_evaluate hresumed).trans hmem))
      · exact absurd hq hleft
    | settle events key callback after =>
      exact absurd (State.mem_entries_finishTimer hq key callback after) hleft
    | drain events =>
      rw [Scheduler.resume_drain_state, (State.popEvent_timersKept _).timerQueue_eq] at hleft
      exact absurd hq hleft
    | eventReturned events key callback =>
      rw [Scheduler.resume, (State.finishEvent_timersKept ..).timerQueue_eq] at hleft
      exact absurd hq hleft
    | _ => exact absurd hq hleft
  · rw [heq] at hleft
    exact absurd hq hleft

/-! ### Calls in a history -/

section Map

variable {α β : Type} {did? : Host κ → Move κ → Option α} {did?' : Host κ → Move κ → Option β}
  {f : β → α}

private theorem log_eq_map
    (h : ∀ s m, (s, m) ∈ past → did? s m = (did?' s m).map f) :
    log did? past = (log did?' past).map f := by
  rw [log, log, List.map_filterMap]
  exact List.filterMap_congr fun step hstep => h step.1 step.2 hstep

private theorem atDepth_eq_map {depth : Nat} (h : did? s m = (did?' s m).map f) :
    atDepth depth did? s m = (atDepth depth did?' s m).map f := by
  unfold atDepth
  split
  · exact h
  · rfl

end Map

/-- What was taken off a queue on a run had its callback called. -/
theorem Run.callsTaken_of_mem (h : Run c ok past s)
    (hok : ∀ past s m s', ok past s m s' → s.redispatches m = false) {t : Host κ}
    (hmem : (t, m) ∈ past) : t.CallsTaken m := by
  obtain ⟨before, t', hrun, -, hstepOk, -⟩ := h.exists_of_mem hmem
  exact (hrun.custody hok).callsTaken hrun.eventsAgree (hok _ _ _ _ hstepOk)

/-! ### The begin of a pass -/

/-- Each pass in progress has begun, and since then neither it nor a pass around it has ended. -/
theorem Run.exists_begin (h : Run c ok past s) : ∀ inner frame rest,
    s.passes = inner ++ frame :: rest → ∃ before t readAt later, past = before ++ later ∧
      t.passes = .ready .start readAt :: rest ∧
      Path (Within (rest.length + 1)) before t later s := by
  refine h.induct (I := fun past s => ∀ inner frame rest,
    s.passes = inner ++ frame :: rest → ∃ before t readAt later, past = before ++ later ∧
      t.passes = .ready .start readAt :: rest ∧
      Path (Within (rest.length + 1)) before t later s) (fun id time => by simp [create]) ?_
  intro past s m s' hwf hI hstep _ inner frame rest hpasses
  have hwithin : rest.length + 1 ≤ s'.passes.length := by
    rw [hpasses, List.length_append, List.length_cons]
    omega
  -- The pass was in progress before the step already, or it begins now.
  have hcases : (∃ inner' frame', s.passes = inner' ++ frame' :: rest) ∨
      s'.passes = .ready .start s.time :: rest := by
    have hstepped := step_passes hwf hstep
    generalize hbefore : s.passes = earlier, hafter : s'.passes = passes at hstepped hpasses
    cases hstepped with
    | kept _ _ _ _ => exact .inl ⟨inner, frame, hpasses⟩
    | entered _ hmove _ _ =>
      subst hmove
      cases inner with
      | nil =>
        cases hstep
        obtain ⟨-, rfl⟩ := List.cons.inj hpasses
        exact .inr (by rw [← hafter, hbefore])
      | cons outer others => exact .inl ⟨others, frame, (List.cons.inj hpasses).2⟩
    | @wentOn old new behind _ _ _ =>
      cases inner with
      | nil => exact .inl ⟨[], old, by rw [(List.cons.inj hpasses).2]; rfl⟩
      | cons outer others =>
        exact .inl ⟨old :: others, frame, by rw [(List.cons.inj hpasses).2]; rfl⟩
    | @ended old pass behind _ _ _ _ _ =>
      exact .inl ⟨old :: inner, frame, by rw [hpasses]; rfl⟩
  rcases hcases with ⟨inner', frame', hbefore⟩ | hbegins
  · obtain ⟨before, t, readAt, later, rfl, ht, hpath⟩ := hI inner' frame' rest hbefore
    exact ⟨before, t, readAt, later ++ [(s, m)], by simp, ht, hpath.snoc hstep hwithin⟩
  · exact ⟨past ++ [(s, m)], s', s.time, [], by simp, hbegins, .nil⟩

/-- The steps `later` at the end of the history `past` are those since the innermost pass has
begun. -/
def DuringPass (past later : History κ) (s : Host κ) : Prop :=
  ∃ before t readAt rest, past = before ++ later ∧ t.passes = .ready .start readAt :: rest ∧
    s.passes.length = rest.length + 1 ∧ Path (Within (rest.length + 1)) before t later s

/-- A pass that ends has begun. -/
theorem Run.exists_duringPass (h : Run c ok past s) {pass : Pass}
    (hended : s.ended? m = some pass) : ∃ later, DuringPass past later s := by
  obtain ⟨-, activation, readAt, rest, hpasses⟩ := passes_of_ended? hended
  obtain ⟨before, t, readAt', later, hpast, ht, hpath⟩ := h.exists_begin [] _ rest hpasses
  exact ⟨later, before, t, readAt', rest, hpast, ht, by rw [hpasses, List.length_cons], hpath⟩

/-- What a pass reports is what it has called by itself since it began. -/
theorem DuringPass.reports (h : Run c ok past s)
    (hok : ∀ past s m s', ok past s m s' → s.redispatches m = false)
    (hduring : DuringPass past later s) {pass : Pass} (hended : s.ended? m = some pass) :
    pass.events = (log (atDepth s.passes.length called?) later).length ∧
      pass.ending.fired?.toList
        = (log (atDepth s.passes.length timerCalled?) later).map Prod.fst := by
  obtain ⟨before, t, readAt, rest, rfl, ht, hdepth, hpath⟩ := hduring
  obtain ⟨hbegin, -⟩ := h.along hpath
  have hcalls {t : Host κ} {m : Move κ} (hmem : (t, m) ∈ later) : t.CallsTaken m :=
    h.callsTaken_of_mem hok (List.mem_append_right before hmem)
  have hevents : log (atDepth s.passes.length popped?) later
      = (log (atDepth s.passes.length called?) later).map Prod.fst :=
    log_eq_map fun t m hmem => atDepth_eq_map (hcalls hmem).popped?_eq
  have htimers : log (atDepth s.passes.length firedKey?) later
      = (log (atDepth s.passes.length timerCalled?) later).map Prod.fst :=
    log_eq_map fun t m hmem => atDepth_eq_map (hcalls hmem).firedKey?_eq
  obtain ⟨hreportsEvents, hreportsTimer⟩ := hpath.reports hbegin.wellFormed ht hdepth hended
  rw [← hdepth] at hreportsEvents hreportsTimer
  exact ⟨by rw [hreportsEvents, hevents, List.length_map], by rw [hreportsTimer, htimers]⟩

/-! ### What a run says about executions -/

/-- Whatever is counted and reported was run. -/
structure Execution (past : History κ) (s : Host κ) : Prop where
  /-- The counters count calls of callbacks. -/
  counters : s.scheduler.stats.eventsDispatched = (log called? past).length ∧
    s.scheduler.stats.timersFired = (log timerCalled? past).length
  /-- Whatever a step took off a queue, its callback was called. -/
  callsTaken : ∀ {t m}, (t, m) ∈ past → t.CallsTaken m
  /-- The events that were run and those that wait are the accepted sends that were not withdrawn,
  in order. -/
  sends : (log called? past).map Prod.fst ++ s.scheduler.state.eventQueue.pending = sends past
  /-- A countdown that has left the queue was withdrawn by a request about its task, or the task was
  run, or the task was gone and a countdown had been left behind. -/
  countdowns : ∀ {t m t' q}, (t, m) ∈ past → t.step m = some t' →
    q ∈ t.scheduler.state.timerQueue.entries → q ∉ t'.scheduler.state.timerQueue.entries →
      t.intervened? m = some q.key ∨ (∃ callback, t.timerCalled? m = some (q.key, callback)) ∨
        t.scheduler.state.timers.get? q.key = none ∧
          ∃ step ∈ past, step.1.leavesBehind step.2 = true
  /-- The timers that passes have reported, and those of passes in progress, are those that were
  run. -/
  reported : (log reported? past ++ s.dispatching).Perm ((log timerCalled? past).map Prod.fst)
  /-- A pass that ends reports how many callbacks of events it has called since it began, and the
  timer whose callback it has called; those of passes within it do not count. -/
  pass : ∀ {m pass}, s.ended? m = some pass → (∃ later, DuringPass past later s) ∧
    ∀ later, DuringPass past later s →
      pass.events = (log (atDepth s.passes.length called?) later).length ∧
        pass.ending.fired?.toList
          = (log (atDepth s.passes.length timerCalled?) later).map Prod.fst

/-- **Whatever the scheduler counts and its passes report was run**, on every run that redispatches
no task. -/
theorem dispatches_executed (h : Run c ok past s)
    (hok : ∀ past s m s', ok past s m s' → s.redispatches m = false) : Execution past s := by
  have hcalls {t : Host κ} {m : Move κ} (hmem : (t, m) ∈ past) : t.CallsTaken m :=
    h.callsTaken_of_mem hok hmem
  have hevents : log popped? past = (log called? past).map Prod.fst :=
    log_eq_map fun t m hmem => (hcalls hmem).popped?_eq
  have htimers : log firedKey? past = (log timerCalled? past).map Prod.fst :=
    log_eq_map fun t m hmem => (hcalls hmem).firedKey?_eq
  obtain ⟨hdispatched, hfired⟩ := h.counters
  rw [hevents, List.length_map] at hdispatched
  rw [htimers, List.length_map] at hfired
  constructor
  · exact ⟨hdispatched, hfired⟩
  · exact hcalls
  · rw [← hevents]
    exact h.popped_append_pending
  · intro t m t' q hmem hstep hq hleft
    rcases countdown_leaves hstep hq hleft with hintervened | hfires | hgone
    · exact .inl hintervened
    · rw [(hcalls hmem).firedKey?_eq] at hfires
      obtain ⟨call, hcall, hkey⟩ := Option.map_eq_some_iff.mp hfires
      exact .inr (.inl ⟨call.2, by rw [hcall, ← hkey]⟩)
    · obtain ⟨before, -, hrun, -, -, hprefix⟩ := h.exists_of_mem hmem
      rcases hrun.attended_or_leftBehind with ⟨-, hattended⟩ | ⟨step, hstepMem, hleaves⟩
      · simpa [hgone] using hattended q hq
      · have hbefore := (List.prefix_append before [(t, m)]).trans hprefix
        exact .inr (.inr ⟨hgone, step, hbefore.subset hstepMem, hleaves⟩)
  · rw [← htimers]
    exact h.reported_perm
  · exact fun hended => ⟨h.exists_duringPass hended, fun later hduring =>
      hduring.reports h hok hended⟩

/-- The callback of an event sends another event and makes a pass, which runs that event and a timer
that is due. What the pass reports is what it has run, and not what the pass around it has. -/
theorem dispatches_executed_within_callback :
    ∃ (past later : History Nat) (s : Host Nat),
      Run {} (fun _ s m _ => s.redispatches m = false) past s ∧
      s.ended? .resume = some ⟨1, .fired ⟨⟨0⟩, ⟨0, 0⟩⟩⟩ ∧ DuringPass past later s ∧
      (log (atDepth 2 called?) later).length = 1 ∧
      (log (atDepth 2 timerCalled?) later).map Prod.fst = [⟨0, 0⟩] ∧
      (log called? past).length = 2 ∧ (log called? past).map Prod.fst = [⟨0, 0⟩, ⟨1, 0⟩] := by
  obtain ⟨past, s, hrun, hended, hdepth, hcounted, hsends, hpending⟩ :
      ∃ (past : History Nat) (s : Host Nat),
        Run {} (fun _ s m _ => s.redispatches m = false) past s ∧
        s.ended? .resume = some ⟨1, .fired ⟨⟨0⟩, ⟨0, 0⟩⟩⟩ ∧ s.passes.length = 2 ∧
        s.scheduler.stats.eventsDispatched = 2 ∧ sends past = [⟨0, 0⟩, ⟨1, 0⟩] ∧
        s.scheduler.state.eventQueue.pending = [] :=
    ⟨_, _, Run.of_play ⟨0⟩ 0
      [.ask (.createEvent 10), .perform 0, .ask (.createEvent 20), .perform 0,
       .ask (.addTimer 30 (.after 0) false), .perform 0,
       .ask (.send ⟨⟨0⟩, ⟨0, 0⟩⟩ .thread), .perform 0, .enter, .resume,
       .ask (.send ⟨⟨0⟩, ⟨1, 0⟩⟩ .thread), .perform 0, .enter, .resume, .resume, .resume, .resume,
       .resume, .resume, .resume, .resume] rfl, rfl, rfl, rfl, rfl, rfl⟩
  obtain ⟨⟨hevents, -⟩, -, hran, -, -, hpass⟩ := dispatches_executed hrun fun _ _ _ _ hok => hok
  obtain ⟨⟨later, hduring⟩, hreports⟩ := hpass hended
  obtain ⟨hpassEvents, hpassTimer⟩ := hreports later hduring
  rw [hdepth] at hpassEvents hpassTimer
  rw [hpending, List.append_nil, hsends] at hran
  exact ⟨past, later, s, hrun, hended, hduring, hpassEvents.symm, hpassTimer.symm,
    hevents.symm.trans hcounted, hran⟩

/-- **An event that is counted and reported, and not run**: its callback sends it again and then
makes a pass. That pass and the one around it report an event each, and two are counted; but only
one callback was called, and the second send is used up. -/
theorem dispatched_without_execution :
    ∃ (past : History Nat) (s : Host Nat) (wait : Duration),
      Run {} (fun _ _ _ _ => True) past s ∧ s.passes = [] ∧ s.inFlight = [] ∧
      log ended? past = [⟨1, .parked wait⟩, ⟨1, .parked wait⟩] ∧
      log called? past = [(⟨0, 0⟩, 10)] ∧ log timerCalled? past = [] ∧
      s.scheduler.stats.eventsDispatched = 2 ∧ sends past = [⟨0, 0⟩, ⟨0, 0⟩] ∧
      s.scheduler.state.eventQueue.pending = [] :=
  ⟨_, _, _, Run.of_play ⟨0⟩ 0
    [.ask (.createEvent 10), .perform 0, .ask (.send ⟨⟨0⟩, ⟨0, 0⟩⟩ .thread), .perform 0, .enter,
     .resume, .ask (.send ⟨⟨0⟩, ⟨0, 0⟩⟩ .thread), .perform 0, .enter, .resume, .resume, .resume,
     .resume, .resume, .resume, .resume, .resume, .resume, .resume, .resume, .resume, .resume] rfl,
   rfl, rfl, rfl, rfl, rfl, rfl, rfl, rfl⟩

end Host

end CoopScheduler
