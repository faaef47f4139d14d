import CoopScheduler.Proofs.Executions

/-!
# Events go before timers

A pass first runs the events that wait, and decides about its timers in another critical section.
Between the two, and while a callback runs or the clock is read, events may be sent, and passes may
be nested. No timer is fired before an event that was sent up to the decision.

* `Host.Run.pending_eq`: what a step does with the queue of events. Hence an event that waits goes
  on waiting until it is dispatched or released (`Host.Run.waits_until`).
* `Host.Path.timers_kept`: up to its decision, a pass leaves timers and their queue alone.
* `Host.events_before_timers`: **all accepted events are dispatched before a timer is fired**, and a
  pass that finds an event waiting as it decides changes no task and no queue.
-/

namespace CoopScheduler

variable {κ : Type}

/-- Whether a pass has not decided about its timers yet. -/
def Activation.beforeTimers : Activation κ → Bool
  | .drain _ | .eventReturned .. | .evaluate .. => true
  | _ => false

namespace Host

/-- Whether a pass has not decided about its timers yet. -/
def Frame.beforeTimers : Frame κ → Bool
  | .reading next => (next (.ofTime 0)).beforeTimers
  | .parking _ next _ | .ready next _ => next.beforeTimers

variable {c : Config} {ok : Condition κ} {past later : History κ} {s s' : Host κ} {m : Move κ}
  {key : Key}

/-! ### Events that wait -/

/-- **What a step does with the events that wait**: one is taken off in front, one is withdrawn, or
one is added behind. -/
theorem Run.pending_eq (h : Run c ok past s) (hstep : s.step m = some s') :
    (s.popped? m).toList ++ s'.scheduler.state.eventQueue.pending
      = (s.withdrawn? m).elim s.scheduler.state.eventQueue.pending
          s.scheduler.state.eventQueue.pending.erase ++ (s.accepted? m).toList := by
  -- Popped and waiting events make up the sends, before the step and after it.
  have hrun : Run c (fun _ _ _ _ => True) past s := h.mono fun _ _ _ _ _ => trivial
  have hbefore := hrun.popped_append_pending
  have hafter := (hrun.snoc hstep trivial).popped_append_pending
  rw [log_concat, sends_concat, ← hbefore, List.append_assoc, reviseSends] at hafter
  cases hwithdrawn : s.withdrawn? m with
  | none =>
    rw [hwithdrawn] at hafter
    exact List.append_cancel_left (hafter.trans (List.append_assoc ..))
  | some key =>
    have hmem : key ∈ s.scheduler.state.eventQueue.pending := by
      simpa using (Option.filter_eq_some_iff.mp hwithdrawn).2
    rw [hwithdrawn] at hafter
    simp only [erase_reverse_append h.eventsAgree.nodup hmem] at hafter
    exact List.append_cancel_left (hafter.trans (List.append_assoc ..))

/-- An event that is accepted waits. -/
theorem Run.mem_pending_of_accepted (h : Run c ok past s) (hstep : s.step m = some s')
    (haccepted : s.accepted? m = some key) : key ∈ s'.scheduler.state.eventQueue.pending := by
  have hpopped : s.popped? m = none := by
    cases hresumed : s.resumed? m with
    | none => simp [popped?, hresumed]
    | some resumed =>
      obtain ⟨rfl, -⟩ := resumed?_eq_some hresumed
      cases haccepted
  have hpending := h.pending_eq hstep
  rw [hpopped, haccepted, Option.toList_none, List.nil_append] at hpending
  simp [hpending]

/-- An event that waits is dispatched or withdrawn by a step, or goes on waiting. -/
theorem Run.mem_pending_step (h : Run c ok past s) (hstep : s.step m = some s')
    (hmem : key ∈ s.scheduler.state.eventQueue.pending) :
    s.popped? m = some key ∨ s.withdrawn? m = some key ∨
      key ∈ s'.scheduler.state.eventQueue.pending := by
  have hpending := h.pending_eq hstep
  by_cases hwithdrawn : s.withdrawn? m = some key
  · exact .inr (.inl hwithdrawn)
  · have hkept : key ∈ (s.withdrawn? m).elim s.scheduler.state.eventQueue.pending
        s.scheduler.state.eventQueue.pending.erase := by
      cases hother : s.withdrawn? m with
      | none => exact hmem
      | some other =>
        have hne : key ≠ other := by
          rintro rfl
          exact hwithdrawn hother
        exact (List.mem_erase_of_ne hne).mpr hmem
    have hafter := hpending ▸ List.mem_append_left (s.accepted? m).toList hkept
    rw [List.mem_append, Option.mem_toList] at hafter
    exact hafter.imp id .inr

/-- **An event waits until** it is dispatched or withdrawn. -/
theorem Run.waits_until (h : Run c ok past s) (hpath : Path ok past s later s')
    (hmem : key ∈ s.scheduler.state.eventQueue.pending) :
    (∃ step ∈ later, step.1.popped? step.2 = some key) ∨ key ∈ log withdrawn? later ∨
      key ∈ s'.scheduler.state.eventQueue.pending := by
  induction hpath with
  | nil => exact .inr (.inr hmem)
  | @snoc later s' s'' m hpath hstep hok ih =>
    rw [log_concat, List.mem_append, Option.mem_toList]
    rcases ih with ⟨step, hstepMem, hpopped⟩ | hwithdrawn | hwaits
    · exact .inl ⟨step, List.mem_append_left _ hstepMem, hpopped⟩
    · exact .inr (.inl (.inl hwithdrawn))
    · rcases (h.append hpath).mem_pending_step hstep hwaits with hpopped | hwithdrawn | hwaits
      · exact .inl ⟨(s', m), by simp, hpopped⟩
      · exact .inr (.inl (.inr hwithdrawn))
      · exact .inr (.inr hwaits)

/-! ### Decisions -/

/-- No timer is fired while an event waits. -/
theorem pending_eq_nil_of_fired (hfired : s.firedKey? m = some key) :
    s.scheduler.state.eventQueue.pending = [] := by
  by_contra hpending
  obtain ⟨⟨fired, readAt⟩, hfired, -⟩ := Option.map_eq_some_iff.mp hfired
  unfold fired? at hfired
  split at hfired
  · simp [State.evaluate_of_pending hpending, Decision.fired?] at hfired
  · cases hfired

/-- A pass that finds an event waiting as it decides ends, and counts that. -/
theorem evaluate_pending {events readAt : Nat} {now : Tick}
    (hresumed : s.resumed? m = some (.evaluate events now, readAt))
    (hpending : s.scheduler.state.eventQueue.pending ≠ []) :
    s.ended? m = some ⟨events, .recheck⟩ ∧ s.firedKey? m = none ∧
      ∃ s', s.step m = some s' ∧ s'.scheduler =
        { s.scheduler with
          state := { s.scheduler.state with
            counters.rechecks := s.scheduler.state.counters.rechecks + 1 } } := by
  obtain ⟨rfl, rest, hpasses⟩ := resumed?_eq_some hresumed
  have hdecision := State.evaluate_of_pending hpending s.scheduler.config now
  refine ⟨?_, ?_, ?_⟩
  · simp only [ended?, hresumed, Scheduler.resume, hdecision]
  · rw [firedKey?_of_evaluate hresumed, hdecision]
    rfl
  · exact ⟨_, by simp only [step, hpasses]; rfl, by
      simp only [resumeFrame, Scheduler.resume, hdecision]⟩

/-! ### Passes up to their decision -/

/-- A step leaves timers and their queue as they are. -/
def KeepsTimers (s : Host κ) (m : Move κ) : Prop :=
  ∀ {s'}, s.step m = some s' → s'.scheduler.state.timers = s.scheduler.state.timers ∧
    s'.scheduler.state.timerQueue = s.scheduler.state.timerQueue

/-- The steps of the passes in this depth leave timers and their queue as they are. -/
def TimersUntouched (depth : Nat) (later : History κ) : Prop :=
  ∀ t m, (t, m) ∈ later → t.passes.length = depth → m = .resume → t.KeepsTimers m

theorem TimersUntouched.concat {depth : Nat} (h : TimersUntouched depth later)
    (hlast : s.passes.length = depth → m = .resume → s.KeepsTimers m) :
    TimersUntouched depth (later ++ [(s, m)]) := by
  intro t m' hmem hdepth hresume
  rcases List.mem_append.mp hmem with hmem | hmem
  · exact h t m' hmem hdepth hresume
  · cases List.mem_singleton.mp hmem
    exact hlast hdepth hresume

/-- A pass that has not decided yet after a step has left timers and their queue alone. -/
theorem keepsTimers_of_goOn {activation : Activation κ} {readAt : Nat} {frame : Frame κ}
    (hresumed : s.resumed? .resume = some (activation, readAt))
    (hafter : framesAfter (s.scheduler.resume activation).1 readAt = [frame])
    (hbefore : frame.beforeTimers = true) :
    activation.beforeTimers = true ∧ s.KeepsTimers .resume := by
  obtain ⟨-, rest, hpasses⟩ := resumed?_eq_some hresumed
  have hkeeps (htimers : s.scheduler.state.TimersKept (s.scheduler.resume activation).2.state) :
      s.KeepsTimers .resume := by
    intro s' hstep
    simp only [step, hpasses, resumeFrame, Option.some.injEq] at hstep
    rw [← hstep]
    exact ⟨htimers.timers_eq, htimers.timerQueue_eq⟩
  cases activation with
  | drain events =>
    refine ⟨rfl, hkeeps ?_⟩
    rw [Scheduler.resume_drain_state]
    exact State.popEvent_timersKept _
  | eventReturned events key callback => exact ⟨rfl, hkeeps (State.finishEvent_timersKept ..)⟩
  | evaluate events now =>
    -- Whatever it decides, the pass has decided afterwards.
    rcases hdecision : s.scheduler.state.evaluate s.scheduler.config now with
      ⟨⟨key, callback⟩ | _ | wait, state⟩
    · simp only [Scheduler.resume, hdecision, framesAfter_callIfPresent] at hafter
      cases hafter
      cases hbefore
    · simp [Scheduler.resume, hdecision, framesAfter] at hafter
    · simp only [Scheduler.resume, hdecision, framesAfter] at hafter
      cases hafter
      cases hbefore
  | timerReturned _ _ _ | settle _ _ _ _ =>
    cases hafter
    cases hbefore
  | woken _ _ | ended _ => cases hafter

theorem exists_framesAfter_eq (effect : Effect κ) (readAt : Nat) :
    ∃ frame? : Option (Frame κ), framesAfter effect readAt = frame?.toList := by
  cases effect with
  | call callback next => exact ⟨some (.ready next readAt), rfl⟩
  | read next => exact ⟨some (.reading next), rfl⟩
  | discard callback next => exact ⟨some (.ready next readAt), rfl⟩
  | park wait next => exact ⟨some (.parking wait next readAt), rfl⟩
  | finish pass => exact ⟨none, rfl⟩

/-- A step leaves the passes in progress as they are and may begin one, or the innermost of them
goes on or ends. If that has not decided after the step, it had not before, and the step has left
timers and their queue alone. -/
theorem step_innermost (hwf : s.WellFormed c) (h : s.step m = some s') :
    (m ≠ .resume ∧ ∃ entered, s'.passes = entered ++ s.passes) ∨
      ∃ frame rest, ∃ frame? : Option (Frame κ),
        s.passes = frame :: rest ∧ s'.passes = frame?.toList ++ rest ∧
          ∀ new ∈ frame?, new.beforeTimers = true →
            frame.beforeTimers = true ∧ s.KeepsTimers m := by
  cases Step.of_step h with
  | enter => exact .inl ⟨by simp, [.ready .start s.time], rfl⟩
  | @read next rest hpasses =>
    refine .inr ⟨_, rest, some (.ready (next (.ofTime s.time)) s.time), hpasses, rfl, ?_⟩
    rintro new ⟨⟩ hnew
    constructor
    · cases hwf.passes _ (hpasses ▸ List.mem_cons_self) with
      | readEvaluate => rfl
      | readSettle => cases hnew
    · intro t ht
      rw [h] at ht
      cases ht
      exact ⟨rfl, rfl⟩
  | @unparked wait next readAt rest hpasses =>
    refine .inr ⟨_, rest, some (.ready next readAt), hpasses, rfl, ?_⟩
    rintro new ⟨⟩ hnew
    cases hwf.passes _ (hpasses ▸ List.mem_cons_self) with
    | parking => cases hnew
  | @goOn activation readAt rest hpasses =>
    have hresumed : s.resumed? .resume = some (activation, readAt) := by simp [resumed?, hpasses]
    obtain ⟨frame?, hframes⟩ := exists_framesAfter_eq (s.scheduler.resume activation).1 readAt
    refine .inr ⟨_, rest, frame?, hpasses, by rw [hframes], ?_⟩
    rintro new ⟨⟩ hnew
    exact keepsTimers_of_goOn hresumed hframes hnew
  | _ => exact .inl ⟨by simp, [], rfl⟩

/-- **Up to its decision, a pass leaves timers and their queue alone**, whatever is nested in it. -/
theorem Path.timers_kept {frame : Frame κ} {rest : List (Frame κ)} (hwf : s.WellFormed c)
    (hpasses : s.passes = frame :: rest)
    (hpath : Path (Within (rest.length + 1)) past s later s') :
    s'.WellFormed c ∧ ∃ inner frame', s'.passes = inner ++ frame' :: rest ∧
      (frame'.beforeTimers = true → TimersUntouched (rest.length + 1) later) := by
  induction hpath with
  | nil => exact ⟨hwf, [], frame, hpasses, fun _ _ _ hmem => absurd hmem List.not_mem_nil⟩
  | @snoc later s' s'' m _ hstep hok ih =>
    obtain ⟨hwf', inner, frame', hpasses', hkept⟩ := ih
    refine ⟨hwf'.step hstep, ?_⟩
    rcases step_innermost hwf' hstep with ⟨hmove, entered, hafter⟩ |
      ⟨top, behind, new?, hbefore, hafter, hnew⟩
    · refine ⟨entered ++ inner, frame', by rw [hafter, hpasses', List.append_assoc],
        fun hdecides => ?_⟩
      exact (hkept hdecides).concat fun _ hresume => absurd hresume hmove
    · rw [hbefore] at hpasses'
      cases inner with
      | nil =>
        -- The pass goes on itself.
        obtain ⟨rfl, rfl⟩ := List.cons.inj hpasses'
        cases new? with
        | none =>
          rw [Within, hafter] at hok
          exact absurd hok (Nat.not_succ_le_self _)
        | some new =>
          refine ⟨[], new, hafter, fun hdecides => ?_⟩
          obtain ⟨htop, hkeeps⟩ := hnew new rfl hdecides
          exact (hkept htop).concat fun _ _ => hkeeps
      | cons outer others =>
        -- A step of a pass within this one does not count.
        rw [List.cons_append] at hpasses'
        obtain ⟨rfl, rfl⟩ := List.cons.inj hpasses'
        refine ⟨new?.toList ++ others, frame', by rw [hafter, List.append_assoc],
          fun hdecides => (hkept hdecides).concat fun hdepth => ?_⟩
        rw [hbefore, List.length_cons, List.length_append, List.length_cons] at hdepth
        omega

/-- A pass that is about to decide has left timers and their queue alone since it began. -/
theorem DuringPass.timersUntouched (h : Run c ok past s) (hduring : DuringPass past later s)
    {events readAt : Nat} {now : Tick}
    (hresumed : s.resumed? m = some (.evaluate events now, readAt)) :
    TimersUntouched s.passes.length later := by
  obtain ⟨before, t, begunAt, rest, rfl, ht, hdepth, hpath⟩ := hduring
  obtain ⟨hbegin, -⟩ := h.along hpath
  obtain ⟨-, inner, frame, hpasses, hkept⟩ := hpath.timers_kept hbegin.wellFormed ht
  obtain ⟨-, outer, htop⟩ := resumed?_eq_some hresumed
  obtain rfl : inner = [] := by
    rw [hpasses, List.length_append, List.length_cons] at hdepth
    exact List.eq_nil_of_length_eq_zero (by omega)
  rw [htop] at hpasses
  obtain ⟨rfl, -⟩ := List.cons.inj hpasses
  rw [hdepth]
  exact hkept rfl

/-! ### Events first -/

/-- What is known when a pass fires a timer. -/
structure EventsDone (past : History κ) (s : Host κ) : Prop where
  pending_eq : s.scheduler.state.eventQueue.pending = []
  isEventPending_eq : ∀ handle, s.scheduler.isEventPending handle = false
  /-- The events that were dispatched are the accepted sends that were not withdrawn, in order. -/
  dispatched : log popped? past = sends past
  /-- An event that was accepted was dispatched afterwards, unless it was released while it
  waited, and the callback was called that it held. -/
  accepted : ∀ {before t m key after}, past = before ++ (t, m) :: after →
    t.accepted? m = some key → key ∉ log withdrawn? after →
      ∃ step ∈ after, step.1.popped? step.2 = some key ∧
        ∃ callback, step.1.scheduler.state.callback? (.event key) = some callback ∧
          step.1.called? step.2 = callback.map fun f => (key, f)

/-- What is known when a pass finds an event waiting as it decides. -/
structure TimersDeferred (past : History κ) (s : Host κ) (m : Move κ) (events : Nat) : Prop where
  ended : s.ended? m = some ⟨events, .recheck⟩
  fired : s.firedKey? m = none
  /-- The decision changes nothing but that it is counted. -/
  step : ∃ s', s.step m = some s' ∧ s'.scheduler =
    { s.scheduler with
      state := { s.scheduler.state with
        counters.rechecks := s.scheduler.state.counters.rechecks + 1 } }
  /-- The steps of the pass before it have changed neither a timer nor their queue. -/
  untouched : ∀ {later}, DuringPass past later s → TimersUntouched s.passes.length later

/-- An event that is dispatched has the callback called that it held. -/
theorem exists_called_of_popped? (hagree : s.scheduler.state.EventsAgree)
    (hpopped : s.popped? m = some key) :
    ∃ callback, s.scheduler.state.callback? (.event key) = some callback ∧
      s.called? m = callback.map fun f => (key, f) := by
  cases dispatch_of_agree hagree m with
  | none hnone | timer _ _ _ hnone => simp [hnone] at hpopped
  | event other callback hheld hother hcalled =>
    obtain rfl : other = key := Option.some.inj (hother.symm.trans hpopped)
    exact ⟨callback, hheld, hcalled⟩

theorem Run.eventsDone (h : Run c ok past s)
    (hpending : s.scheduler.state.eventQueue.pending = []) : EventsDone past s where
  pending_eq := hpending
  isEventPending_eq handle := by
    have hnone : s.scheduler.state.isEventPending handle.key ≠ true := by
      intro hwaits
      rw [← h.eventsAgree.mem_iff, hpending] at hwaits
      cases hwaits
    simp [Scheduler.isEventPending, Bool.eq_false_iff.mpr hnone]
  dispatched := by simpa [hpending] using h.popped_append_pending
  accepted {before t m key after} hpast haccepted hwithdrawn := by
    rw [hpast, List.append_cons] at h
    obtain ⟨t', hrun, hpath⟩ := h.split
    obtain ⟨hbefore, hstep, -⟩ := hrun.of_concat
    have hwaits := hbefore.mem_pending_of_accepted hstep haccepted
    rcases hrun.waits_until hpath hwaits with ⟨step, hmem, hpopped⟩ | hreleased | hlast
    · obtain ⟨before', -, hrun', -⟩ := h.exists_of_mem
        (List.mem_append_right (before ++ [(t, m)]) hmem)
      exact ⟨step, hmem, hpopped, exists_called_of_popped? hrun'.eventsAgree hpopped⟩
    · exact absurd hreleased hwithdrawn
    · rw [hpending] at hlast
      cases hlast

/-- **Events go before timers.** When a pass fires a timer, no event waits, and every event that was
accepted until then was dispatched, unless it was released. A pass that finds an event waiting as it
decides ends, and has changed neither a timer nor their queue; so a timer that is overdue keeps its
place. -/
theorem events_before_timers (h : Run c ok past s) :
    (∀ {m key}, s.firedKey? m = some key → EventsDone past s) ∧
    ∀ {m events now readAt}, s.resumed? m = some (.evaluate events now, readAt) →
      s.scheduler.state.eventQueue.pending ≠ [] → TimersDeferred past s m events := by
  refine ⟨fun hfired => h.eventsDone (pending_eq_nil_of_fired hfired), ?_⟩
  intro m events now readAt hresumed hpending
  obtain ⟨hended, hfired, hstep⟩ := evaluate_pending hresumed hpending
  exact ⟨hended, hfired, hstep, fun hduring => hduring.timersUntouched h hresumed⟩

/-- A timer is overdue as a pass begins, and an event is sent while the pass reads the clock. The
pass ends with the timer where it was, and the next one runs the event before it fires the timer. -/
theorem events_before_timers_late_send :
    (∃ (past : History Nat) (s : Host Nat), Run {} (fun _ _ _ _ => True) past s ∧
      s.scheduler.state.eventQueue.pending = [⟨0, 0⟩] ∧
      s.scheduler.state.timerQueue.entries = [⟨⟨0, 0⟩, ⟨0⟩, 0⟩] ∧
      s.ended? .resume = some ⟨0, .recheck⟩ ∧
      ∃ s', s.step .resume = some s' ∧
        s'.scheduler.state.timerQueue.entries = [⟨⟨0, 0⟩, ⟨0⟩, 0⟩]) ∧
    ∃ (past : History Nat) (s : Host Nat), Run {} (fun _ _ _ _ => True) past s ∧
      s.firedKey? .resume = some ⟨0, 0⟩ ∧ log popped? past = [⟨0, 0⟩] := by
  constructor
  · obtain ⟨past, s, now, readAt, h, hresumed, hpending, hentries⟩ :
        ∃ (past : History Nat) (s : Host Nat) (now : Tick) (readAt : Nat),
          Run {} (fun _ _ _ _ => True) past s ∧
          s.resumed? .resume = some (.evaluate 0 now, readAt) ∧
          s.scheduler.state.eventQueue.pending = [⟨0, 0⟩] ∧
          s.scheduler.state.timerQueue.entries = [⟨⟨0, 0⟩, ⟨0⟩, 0⟩] :=
      ⟨_, _, _, _, Run.of_play ⟨0⟩ 0
        [.ask (.addTimer 30 (.after 0) false), .perform 0, .ask (.createEvent 10), .perform 0,
         .elapse 50, .enter, .resume, .ask (.send ⟨⟨0⟩, ⟨0, 0⟩⟩ .interrupt), .perform 0,
         .resume] rfl, rfl, rfl, rfl⟩
    have hdeferred := (events_before_timers h).2 hresumed (by simp [hpending])
    obtain ⟨s', hstep, hscheduler⟩ := hdeferred.step
    exact ⟨past, s, h, hpending, hentries, hdeferred.ended, s', hstep, by rw [hscheduler, hentries]⟩
  · obtain ⟨past, s, h, hfired, hsends⟩ :
        ∃ (past : History Nat) (s : Host Nat), Run {} (fun _ _ _ _ => True) past s ∧
          s.firedKey? .resume = some ⟨0, 0⟩ ∧ sends past = [⟨0, 0⟩] :=
      ⟨_, _, Run.of_play ⟨0⟩ 0
        [.ask (.addTimer 30 (.after 0) false), .perform 0, .ask (.createEvent 10), .perform 0,
         .elapse 50, .enter, .resume, .ask (.send ⟨⟨0⟩, ⟨0, 0⟩⟩ .interrupt), .perform 0,
         .resume, .resume, .enter, .resume, .resume, .resume, .resume] rfl, rfl, rfl⟩
    exact ⟨past, s, h, hfired, ((events_before_timers h).1 hfired).dispatched.trans hsends⟩

end Host

end CoopScheduler
