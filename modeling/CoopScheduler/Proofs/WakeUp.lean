import CoopScheduler.Proofs.Order

/-!
# No wake-up is lost

A pass that decides to park sets the sleeping flag, and clears it once the park is over. In
between, whatever makes the park too long has to wake the context.

* A request that wakes nobody while the flag is set brings no event, and starts a countdown only
  behind the head of the timer queue (`Scheduler.perform_of_silent`).
* `Host.Slept` is what holds since the decision as long as nobody was woken, and no step but
  a waking one ends it (`Host.Slept.step`).
* `Host.nothing_slept_past`: **a context that nobody wakes has nothing to wake up for**. As long
  as no wake was issued or is about to be, no event is pending and no deadline comes before the
  one that the park waits for.
-/

namespace CoopScheduler

variable {κ : Type}

namespace State

variable {s s' : State κ} {key : Key} {wake : Bool} {now : Tick}

theorem addTimer_wake {callback : κ} {micros : UInt32} {autoRepeat : Bool}
    (h : s.addTimer callback (.after micros) autoRepeat now = .ok (key, wake, s')) :
    wake = (s.timerQueue.wouldLead ⟨key, now, micros⟩ && s.sleeping) := by
  unfold addTimer at h
  split at h
  · cases h
  · obtain ⟨rfl, hwake⟩ := Prod.mk.inj (Except.ok.inj h)
    have hfst : _ = wake := congrArg Prod.fst hwake
    rw [← hfst, wakeIf_fst]
    rfl

theorem rescheduleTimer_wake {micros : UInt32}
    (h : s.rescheduleTimer key (.after micros) now = some (wake, s')) : wake = s.sleeping := by
  unfold rescheduleTimer at h
  split at h
  · cases h
  · have hfst : _ = wake := congrArg Prod.fst (Option.some.inj h)
    rw [← hfst, wakeIf_fst, Bool.true_and]
    exact (removeTimer_eventsKept s key).sleeping_eq

theorem rearmTimer_wake {micros : UInt32} {task : TimerTask κ}
    (h : s.rearmTimer key now = some (wake, s')) (hget : s.timers.get? key = some task)
    (hperiod : task.period = .after micros) :
    wake = (s.timerQueue.wouldLead ⟨key, now, micros⟩ && s.sleeping) := by
  have hremoved := Revised.removeTimer s key
  simp only [rearmTimer, hget, hperiod] at h
  split at h
  · cases h
  · next hphase =>
    have hqueued : s.isTimerQueued key = false := by simp [isTimerQueued, hget, hphase]
    have hqueue : (s.removeTimer key).timerQueue = s.timerQueue :=
      ((revised_some_iff hqueued).mp hremoved).timerQueue_eq
    have hfst : _ = wake := congrArg Prod.fst (Option.some.inj h)
    rw [← hfst, wakeIf_fst, ← hqueue, ← (removeTimer_eventsKept s key).sleeping_eq]
    rfl

/-- A send that is accepted wakes a context that sleeps. -/
theorem sendEvent_of_silent (hsleeping : s.sleeping = true) (h : (s.sendEvent key).1 = false) :
    (s.sendEvent key).2 = s := by
  unfold sendEvent at h ⊢
  split
  · next haccepts =>
    rw [if_pos haccepts, wakeIf_fst, Bool.true_and] at h
    exact absurd hsleeping (Bool.eq_false_iff.mp h)
  · rfl

theorem releaseEvent_pending (s : State κ) (key : Key) (h : s.eventQueue.pending = []) :
    (s.releaseEvent key).2.eventQueue.pending = [] := by
  have hremoved : (s.removeEvent key).eventQueue.pending = [] := by
    unfold removeEvent
    split
    · simp [EventQueue.erase, h]
    · exact h
  unfold releaseEvent
  split
  · exact h
  · dsimp only
    split <;> exact hremoved

end State

namespace Scheduler

variable {s : Scheduler κ} {handle : TimerHandle} {since : Nat} {a : Arming}

private theorem eq_false_of_threadWake {wake : Bool} (h : threadWake wake = none) :
    wake = false := by
  cases wake with
  | false => rfl
  | true => cases h

private theorem addTimer_of_silent {callback : κ} {period : Period} {autoRepeat : Bool}
    (hsleeping : s.state.sleeping = true)
    (hsilent : (s.addTimer callback period autoRepeat (.ofTime since)).1.wake? = none)
    (ha : s.arming? (.addTimer callback period autoRepeat) since = some a) :
    s.state.timerQueue.wouldLead a.countdown = false := by
  cases period with
  | never => cases ha
  | after micros =>
    simp only [addTimer] at hsilent
    cases hadd : s.state.addTimer callback (.after micros) autoRepeat (.ofTime since) with
    | error refusal => cases refusal <;> simp [arming?, addTimer, hadd] at ha
    | ok stored =>
      obtain ⟨key, wake, state⟩ := stored
      simp only [arming?, addTimer, hadd, Option.some.injEq] at ha
      subst ha
      rw [hadd] at hsilent
      have hwake := State.addTimer_wake hadd
      rw [eq_false_of_threadWake hsilent, hsleeping, Bool.and_true] at hwake
      exact hwake.symm

/-- Rescheduling to a period wakes the context, so a silent one starts nothing. -/
private theorem arming?_of_silent_reschedule {period : Period}
    (hsleeping : s.state.sleeping = true)
    (hsilent : (s.reschedule handle period (.ofTime since)).1.wake? = none) :
    s.arming? (.reschedule handle period) since = none := by
  refine Option.eq_none_iff_forall_ne_some.mpr fun a ha => ?_
  have howns := (Scheduler.of_arming? ha).2.1
  simp only [readsClock] at howns
  cases period with
  | never => cases ha
  | after micros =>
    simp only [reschedule, howns, if_true] at hsilent
    cases hresult : s.state.rescheduleTimer handle.key (.after micros) (.ofTime since) with
    | none =>
      have hget : s.state.timers.get? handle.key = none := by
        unfold State.rescheduleTimer at hresult
        split at hresult
        · assumption
        · cases hresult
      simp [arming?, hget] at ha
    | some result =>
      obtain ⟨wake, state⟩ := result
      rw [hresult] at hsilent
      have hwake := State.rescheduleTimer_wake hresult
      rw [eq_false_of_threadWake hsilent, hsleeping] at hwake
      cases hwake

private theorem rearm_of_silent (hsleeping : s.state.sleeping = true)
    (hsilent : (s.rearm handle (.ofTime since)).1.wake? = none)
    (ha : s.arming? (.rearm handle) since = some a) :
    s.state.timerQueue.wouldLead a.countdown = false := by
  have howns := (Scheduler.of_arming? ha).2.1
  simp only [readsClock] at howns
  simp only [rearm, howns, if_true] at hsilent
  simp only [arming?] at ha
  split at ha
  · next hqueued =>
    obtain ⟨task, hget, hmap⟩ := Option.bind_eq_some_iff.mp ha
    obtain ⟨micros, hmicros, rfl⟩ := Option.map_eq_some_iff.mp hmap
    have hphase : task.phase ≠ .queued := fun hphase =>
      Bool.eq_false_iff.mp hqueued.2 (State.isTimerQueued_iff.mpr ⟨task, hget, hphase⟩)
    cases hresult : s.state.rearmTimer handle.key (.ofTime since) with
    | none =>
      simp only [State.rearmTimer, hget, hphase, if_false] at hresult
      split at hresult <;> cases hresult
    | some result =>
      obtain ⟨wake, state⟩ := result
      rw [hresult] at hsilent
      have hwake := State.rearmTimer_wake hresult hget (Period.micros?_eq_some_iff.mp hmicros)
      rw [eq_false_of_threadWake hsilent, hsleeping, Bool.and_true] at hwake
      exact hwake.symm
  · cases ha

private theorem send_of_silent {handle : EventHandle} {source : WakeSource}
    (hsleeping : s.state.sleeping = true) (hsilent : (s.send handle source).1.wake? = none) :
    (s.send handle source).2.state = s.state := by
  simp only [send] at hsilent ⊢
  split
  · next howns =>
    rw [if_pos howns] at hsilent
    refine State.sendEvent_of_silent hsleeping (Bool.eq_false_iff.mpr fun hwake => ?_)
    simp [hwake] at hsilent
  · rfl

/-- **A request that wakes nobody while the context sleeps** brings no event, and a countdown
that it starts goes behind the head of the timer queue. -/
theorem perform_of_silent {op : Operation κ} (hsleeping : s.state.sleeping = true)
    (hsilent : (s.perform op (.ofTime since)).1.wake? = none) :
    (s.state.eventQueue.pending = [] →
      (s.perform op (.ofTime since)).2.state.eventQueue.pending = []) ∧
    ∀ a, s.arming? op since = some a → s.state.timerQueue.wouldLead a.countdown = false := by
  cases op with
  | addTimer callback period autoRepeat =>
    exact ⟨fun hpending => (s.addTimer_eventsKept ..).eventQueue_eq ▸ hpending,
      fun a ha => addTimer_of_silent hsleeping hsilent ha⟩
  | reschedule handle period =>
    refine ⟨fun hpending => (s.reschedule_eventsKept ..).eventQueue_eq ▸ hpending, fun a ha => ?_⟩
    rw [arming?_of_silent_reschedule hsleeping hsilent] at ha
    cases ha
  | removeTimer handle =>
    exact ⟨fun hpending => (s.removeTimer_eventsKept ..).eventQueue_eq ▸ hpending, nofun⟩
  | rearm handle =>
    exact ⟨fun hpending => (s.rearm_eventsKept ..).eventQueue_eq ▸ hpending,
      fun a ha => rearm_of_silent hsleeping hsilent ha⟩
  | releaseTimer handle =>
    exact ⟨fun hpending => (s.releaseTimer_eventsKept ..).eventQueue_eq ▸ hpending, nofun⟩
  | createEvent callback =>
    refine ⟨fun hpending => ?_, nofun⟩
    rw [← hpending]
    exact congrArg _ (s.createEvent_eventQueue callback)
  | send handle source =>
    refine ⟨fun hpending => ?_, nofun⟩
    rw [← hpending]
    exact congrArg (·.eventQueue.pending) (send_of_silent hsleeping hsilent)
  | releaseEvent handle =>
    refine ⟨fun hpending => ?_, nofun⟩
    simp only [perform, releaseEvent]
    split
    · exact State.releaseEvent_pending _ _ hpending
    · exact hpending

end Scheduler

namespace Host

/-! ### Waking the context -/

/-- Whether a move wakes the context. -/
def Move.unparks : Move κ → Bool
  | .unpark _ => true
  | _ => false

/-- Whether a move clears the sleeping flag. -/
def awakens (s : Host κ) (m : Move κ) : Bool :=
  match s.resumed? m with
  | some (.woken .., _) => true
  | _ => false

/-- The park goes on: no pass is nested in the one that parks, and that has not cleared the
sleeping flag. -/
abbrev Asleep : Condition κ :=
  fun _ s m _ => s.nests m = false ∧ s.awakens m = false

/-- The context was woken in the last steps, or someone is about to wake it. -/
def Roused (later : History κ) (s : Host κ) : Prop :=
  (∃ step ∈ later, step.2.unparks = true) ∨ ∃ source, .waking source ∈ s.inFlight

variable {c : Config} {past later : History κ} {s s' : Host κ} {m : Move κ}

private theorem mem_eraseIdx_of_getElem?_ne {α : Type} {l : List α} {i : Nat} {x y : α}
    (hx : x ∈ l) (hi : l[i]? = some y) (hne : x ≠ y) : x ∈ l.eraseIdx i := by
  obtain ⟨j, hj⟩ := List.getElem?_of_mem hx
  refine List.mem_eraseIdx_iff_getElem?.mpr ⟨j, fun heq => hne ?_, hj⟩
  rw [heq, hi] at hj
  exact (Option.some.inj hj).symm

private theorem mem_set_of_getElem?_ne {α : Type} {l : List α} {i : Nat} {x y z : α}
    (hx : x ∈ l) (hi : l[i]? = some y) (hne : x ≠ y) : x ∈ l.set i z := by
  obtain ⟨j, hj⟩ := List.getElem?_of_mem hx
  have hji : i ≠ j := fun heq => hne (by
    rw [← heq, hi] at hj
    exact (Option.some.inj hj).symm)
  exact List.mem_of_getElem? ((List.getElem?_set_ne hji).trans hj)

/-- A context that was woken stays so. -/
theorem Roused.step (h : Roused later s) (hstep : s.step m = some s') :
    Roused (later ++ [(s, m)]) s' := by
  rcases h with ⟨step, hmem, hunparks⟩ | ⟨source, hmem⟩
  · exact .inl ⟨step, List.mem_append_left _ hmem, hunparks⟩
  · cases Step.of_step hstep with
    | ask op => exact .inr ⟨source, List.mem_append_left _ hmem⟩
    | perform hi =>
      refine .inr ⟨source, ?_⟩
      simp only [performAt]
      split
      · exact mem_eraseIdx_of_getElem?_ne hmem hi (by simp)
      · exact mem_set_of_getElem?_ne hmem hi (by simp)
    | unpark _ _ => exact .inl ⟨_, List.mem_append_right _ List.mem_cons_self, rfl⟩
    | stop => exact .inr ⟨source, List.mem_append_left _ hmem⟩
    | _ => exact .inr ⟨source, hmem⟩

/-- A request that asks for a wake rouses the context. -/
theorem roused_performAt {i readAt : Nat} {op : Operation κ} {source : WakeSource}
    (hi : s.inFlight[i]? = some (.asked op readAt))
    (hwake : (s.scheduler.perform op (.ofTime readAt)).1.wake? = some source) :
    Roused later (s.performAt i op readAt) := by
  refine .inr ⟨source, ?_⟩
  obtain ⟨hlt, -⟩ := List.getElem?_eq_some_iff.mp hi
  simp only [performAt, hwake]
  exact List.mem_set hlt _

/-- **What holds since the decision to park** in the state `decided`, as long as the context
sleeps. -/
structure Slept (decided : State κ) (events : Nat) (wait : Duration) (readAt : Nat)
    (later : History κ) (s : Host κ) : Prop where
  /-- The flag is set. -/
  sleeping : s.scheduler.state.sleeping = true
  /-- The park goes on, or is over and the flag is cleared next. A wake that came in the
  meantime ends it. -/
  passes : s.passes = [.parking wait (.woken events wait) readAt] ∧
      ((∃ step ∈ later, step.2.unparks = true) → s.parker.token = true) ∨
    s.passes = [.ready (.woken events wait) readAt]
  /-- Nobody slept past an event. -/
  pending : Roused later s ∨ s.scheduler.state.eventQueue.pending = []
  /-- Nobody slept past a timer without having had one to wait for. -/
  idle : Roused later s ∨ (decided.timerQueue.entries = [] →
    s.scheduler.state.timerQueue.entries = [])

variable {decided : State κ} {events readAt : Nat} {wait : Duration}

/-- While the context sleeps, a step does nothing to the scheduler, or enters the critical
section of a request. -/
private theorem Slept.step_cases (hI : Slept decided events wait readAt later s)
    (hstep : s.step m = some s') (hok : Asleep past s m s') :
    (∃ i op at', m = .perform i ∧ s.inFlight[i]? = some (.asked op at') ∧
      s' = s.performAt i op at') ∨
    s'.scheduler.state = s.scheduler.state ∧ s.arming? m = none := by
  have hnoRead {next : Tick → Activation κ} {rest : List (Frame κ)} :
      s.passes ≠ .reading next :: rest := by
    intro heq
    rcases hI.passes with ⟨hpasses, -⟩ | hpasses <;> simp [hpasses] at heq
  cases Step.of_step hstep with
  | perform hi => exact .inl ⟨_, _, _, rfl, hi, rfl⟩
  | read hpasses => exact absurd hpasses hnoRead
  | unparked hpasses => exact .inr ⟨rfl, by simp [arming?, performed?, resumed?, hpasses]⟩
  | goOn hpasses =>
    rcases hI.passes with ⟨hparking, -⟩ | hwoken
    · simp [hparking] at hpasses
    · -- Going on would clear the flag.
      have hawakens := hok.2
      rw [hwoken] at hpasses
      simp [awakens, resumed?, hwoken] at hawakens
  | _ => exact .inr ⟨rfl, rfl⟩

private theorem unparks_of_mem_concat (hm : m.unparks = false)
    (h : ∃ step ∈ later ++ [(s, m)], step.2.unparks = true) :
    ∃ step ∈ later, step.2.unparks = true := by
  obtain ⟨step, hmem, hunparks⟩ := h
  rcases List.mem_append.mp hmem with hmem | hmem
  · exact ⟨step, hmem, hunparks⟩
  · rw [List.mem_singleton.mp hmem] at hunparks
    rw [hm] at hunparks
    cases hunparks

private theorem Slept.step_passes (hI : Slept decided events wait readAt later s)
    (hstep : s.step m = some s') (hok : Asleep past s m s') :
    s'.passes = [.parking wait (.woken events wait) readAt] ∧
        ((∃ step ∈ later ++ [(s, m)], step.2.unparks = true) → s'.parker.token = true) ∨
      s'.passes = [.ready (.woken events wait) readAt] := by
  obtain ⟨hnests, hawakens⟩ := hok
  rcases hI.passes with ⟨hparking, htoken⟩ | hwoken
  · cases Step.of_step hstep with
    | unpark _ _ => exact .inl ⟨hparking, fun _ => rfl⟩
    | enter => simp [nests, hparking] at hnests
    | read hpasses => simp [hparking] at hpasses
    | unparked hpasses =>
      rw [hparking] at hpasses
      cases hpasses
      exact .inr rfl
    | goOn hpasses => simp [hparking] at hpasses
    | _ => exact .inl ⟨hparking, fun h => htoken (unparks_of_mem_concat rfl h)⟩
  · cases Step.of_step hstep with
    | enter => simp [nests, hwoken] at hnests
    | read hpasses => simp [hwoken] at hpasses
    | unparked hpasses => simp [hwoken] at hpasses
    | goOn hpasses => simp [awakens, resumed?, hwoken] at hawakens
    | _ => exact .inr hwoken

/-- A request that starts no countdown leaves an empty timer queue empty. -/
private theorem entries_perform_eq_nil {op : Operation κ} {since : Nat}
    (harming : s.scheduler.arming? op since = none)
    (h : s.scheduler.state.timerQueue.entries = []) :
    (s.scheduler.perform op (.ofTime since)).2.state.timerQueue.entries = [] := by
  have hrevised := s.scheduler.perform_revised op since
  have hsub := s.scheduler.state.without_sublist (s.scheduler.disarmed? op)
  rw [harming] at hrevised
  rw [h, List.sublist_nil] at hsub
  rw [hrevised.timerQueue_eq]
  exact hsub

/-- **No step ends it but a waking one.** -/
theorem Slept.step (hI : Slept decided events wait readAt later s)
    (hstep : s.step m = some s') (hok : Asleep past s m s') :
    Slept decided events wait readAt (later ++ [(s, m)]) s' := by
  have hpasses := hI.step_passes hstep hok
  rcases hI.step_cases hstep hok with ⟨i, op, at', rfl, hi, rfl⟩ | ⟨hstate, -⟩
  · have hsleeping := (s.scheduler.perform_sleeping op (.ofTime at')).trans hI.sleeping
    cases hwake : (s.scheduler.perform op (.ofTime at')).1.wake? with
    | some source =>
      have hroused : Roused (later ++ [(s, .perform i)]) (s.performAt i op at') :=
        roused_performAt hi hwake
      exact ⟨hsleeping, hpasses, .inl hroused, .inl hroused⟩
    | none =>
      obtain ⟨hpending, hleads⟩ := Scheduler.perform_of_silent hI.sleeping hwake
      refine ⟨hsleeping, hpasses, ?_, ?_⟩
      · exact hI.pending.imp (·.step hstep) hpending
      · refine hI.idle.imp (·.step hstep) fun hidle hdecided => ?_
        refine entries_perform_eq_nil (Option.eq_none_iff_forall_ne_some.mpr fun a ha => ?_)
          (hidle hdecided)
        -- A countdown that starts without a wake goes behind the head, but there is none.
        have hlead := hleads a ha
        simp [TimerQueue.wouldLead, hidle hdecided] at hlead
  · refine ⟨?_, hpasses, ?_, ?_⟩
    · rw [hstate]
      exact hI.sleeping
    · rw [hstate]
      exact hI.pending.imp (·.step hstep) id
    · rw [hstate]
      exact hI.idle.imp (·.step hstep) id

/-- While the context sleeps and nobody rouses it, no countdown is started that is due before
all the others. -/
private theorem Slept.due_le {l : List Arming} {a : Arming} {due : Nat}
    (hI : Slept decided events wait readAt later s) (hordered : Ordered past s l)
    (hstep : s.step m = some s') (hasleep : Asleep past s m s') (hok : Orderly past s m s')
    (ha : s.arming? m = some a) (hdue : ∀ b ∈ l, due ≤ b.due) :
    Roused (later ++ [(s, m)]) s' ∨ due ≤ a.due := by
  rcases hI.step_cases hstep hasleep with ⟨i, op, at', rfl, hi, rfl⟩ | ⟨-, hnone⟩
  · cases hwake : (s.scheduler.perform op (.ofTime at')).1.wake? with
    | some source => exact .inl (roused_performAt hi hwake)
    | none =>
      have hperformed : s.scheduler.arming? op at' = some a := by
        simpa [arming?, performed?, hi] using ha
      have hlead := (Scheduler.perform_of_silent hI.sleeping hwake).2 a hperformed
      cases l with
      | nil => simp [TimerQueue.wouldLead, hordered.entries_eq] at hlead
      | cons q l =>
        -- It goes behind the head, by an order test that is exact at its reading.
        have hwindow := hordered.window a.since (of_arming? ha).1
        have hle := (hwindow.dueNoLaterThan_iff (hok.short a ha) List.mem_cons_self).mp
          (by simpa [TimerQueue.wouldLead, hordered.entries_eq] using hlead)
        exact .inr (Nat.le_trans (hdue q List.mem_cons_self) hle)
  · rw [ha] at hnone
    cases hnone

/-- The step that decides to park. -/
private theorem slept_of_park {s₀ s₁ : Host κ} {now : Tick} (hwf : s₀.WellFormed c)
    (hpasses : s₀.passes = [.ready (.evaluate events now) readAt])
    (hstep : s₀.step .resume = some s₁)
    (hpark : s₁.passes = [.parking wait (.woken events wait) readAt]) :
    wait = c.sleepFor (s₁.scheduler.state.timerQueue.remaining? now) ∧
      Slept s₁.scheduler.state events wait readAt [] s₁ := by
  cases Step.of_step hstep with
  | read hreading => simp [hpasses] at hreading
  | unparked hparking => simp [hpasses] at hparking
  | goOn hready =>
    rw [hpasses] at hready
    cases hready
    cases hdecision : s₀.scheduler.state.evaluate s₀.scheduler.config now with
    | mk decision state =>
      cases decision with
      | fire key callback => simp [Scheduler.resume, hdecision] at hpark
      | recheck => simp [Scheduler.resume, hdecision, framesAfter] at hpark
      | park wait' =>
        simp only [Scheduler.resume, hdecision, framesAfter, List.singleton_append,
          List.cons.injEq, Frame.parking.injEq, and_true] at hpark
        obtain ⟨rfl, -⟩ := hpark
        obtain ⟨hpending, hqueue, hsleeping, hwait⟩ := State.evaluate_of_park hdecision
        rw [hwf.config_eq] at hwait
        simp only [Scheduler.resume, hdecision]
        refine ⟨hwait, hsleeping, .inl ⟨rfl, by simp⟩, .inr ?_, .inr id⟩
        rw [hqueue]
        exact hpending

/-- Since the decision, as long as the context sleeps. -/
theorem Path.slept {s₁ : Host κ} (hpath : Path Asleep past s₁ later s)
    (h : Slept decided events wait readAt [] s₁) : Slept decided events wait readAt later s := by
  induction hpath with
  | nil => exact h
  | snoc _ hstep hok ih => exact ih.step hstep hok

/-- Since the decision, as long as the context sleeps and the run is orderly, no countdown comes
before the ones that were queued then, unless the context is roused. -/
theorem Path.due_le {s₁ : Host κ} {l : List Arming} {due : Nat}
    (hpath : Path (fun past s m s' => Asleep past s m s' ∧ Orderly past s m s') past s₁ later s)
    (hwf : s₁.WellFormed c) (hslept : Slept decided events wait readAt [] s₁)
    (hordered : Ordered past s₁ l) (hdue : ∀ b ∈ l, due ≤ b.due) :
    ∃ l', Ordered (past ++ later) s l' ∧ (Roused later s ∨ ∀ b ∈ l', due ≤ b.due) := by
  suffices h : s.WellFormed c ∧ Slept decided events wait readAt later s ∧
      ∃ l', Ordered (past ++ later) s l' ∧ (Roused later s ∨ ∀ b ∈ l', due ≤ b.due) from h.2.2
  induction hpath with
  | nil => exact ⟨hwf, hslept, l, by rwa [List.append_nil], .inr hdue⟩
  | snoc _ hstep hok ih =>
    obtain ⟨hwf, hslept, l', hordered, hdue⟩ := ih
    obtain ⟨l'', hmem, hordered'⟩ := hordered.step hwf hstep hok.2
    refine ⟨hwf.step hstep, hslept.step hstep hok.1, l'', ?_, ?_⟩
    · rwa [← List.append_assoc]
    · rcases hdue with hroused | hdue
      · exact .inl (hroused.step hstep)
      · refine or_iff_not_imp_left.mpr fun hunroused b hb => ?_
        rcases hmem b hb with hb | hb
        · exact hdue b hb
        · exact (hslept.due_le hordered hstep hok.1 hok.2 hb hdue).resolve_left hunroused

/-- **A context that nobody wakes has nothing to wake up for.** The history `past` leads to a
pass that decides to park, and the steps `later` to a moment before that pass clears the
sleeping flag. If nobody woke the context in these steps, or it is parked and no wake waits for
it, and if no request is about to wake it, then no event is pending and, if the park was the
idle one, no timer is queued. If the run was orderly, no queued timer is due before the one the
park waits for. -/
theorem nothing_slept_past {s₀ s₁ : Host κ} {now : Tick} (hrun : Run c Unnested past s₀)
    (hpasses : s₀.passes = [.ready (.evaluate events now) readAt])
    (hstep : s₀.step .resume = some s₁)
    (hpark : s₁.passes = [.parking wait (.woken events wait) readAt])
    (hpath : Path Asleep (past ++ [(s₀, .resume)]) s₁ later s)
    (hquiet : (∀ step ∈ later, step.2.unparks = false) ∨
      s.passes = [.parking wait (.woken events wait) readAt] ∧ s.parker.token = false)
    (hwaking : ∀ source, .waking source ∉ s.inFlight) :
    wait = c.sleepFor (s₁.scheduler.state.timerQueue.remaining? now) ∧
      s.scheduler.state.eventQueue.pending = [] ∧
      (s₁.scheduler.state.timerQueue.peek? = none →
        s.scheduler.state.timerQueue.entries = []) ∧
      (Run c Orderly (past ++ [(s₀, .resume)] ++ later) s →
        ∀ head, s₁.scheduler.state.timerQueue.peek? = some head →
          ∃ first, armingOf? past head = some first ∧
            ∀ queued ∈ s.scheduler.state.timerQueue.entries, ∃ a,
              armingOf? (past ++ [(s₀, .resume)] ++ later) queued = some a ∧
                first.due ≤ a.due) := by
  have hwf := hrun.wellFormed
  obtain ⟨hwait, hdecided⟩ := slept_of_park hwf hpasses hstep hpark
  have hslept := hpath.slept hdecided
  -- A wake since the decision would have left its token with the parker.
  have hunroused : ¬Roused later s := by
    rintro (⟨step, hmem, hunparks⟩ | ⟨source, hmem⟩)
    · rcases hquiet with hquiet | ⟨hparking, htoken⟩
      · rw [hquiet step hmem] at hunparks
        cases hunparks
      · rcases hslept.passes with ⟨-, hwoken⟩ | hwoken
        · rw [hwoken ⟨step, hmem, hunparks⟩] at htoken
          cases htoken
        · rw [hparking] at hwoken
          cases hwoken
    · exact hwaking source hmem
  refine ⟨hwait, hslept.pending.resolve_left hunroused, fun hpeek => ?_,
    fun horderly head hhead => ?_⟩
  · exact hslept.idle.resolve_left hunroused (List.head?_eq_none_iff.mp hpeek)
  · obtain ⟨hbegin, hboth⟩ := horderly.along hpath
    obtain ⟨l, hordered⟩ := hbegin.ordered
    have hhead' := hhead
    rw [TimerQueue.peek?, hordered.entries_eq, List.head?_map, Option.map_eq_some_iff] at hhead'
    obtain ⟨first, hfirst, rfl⟩ := hhead'
    have hmem : first ∈ l := List.mem_of_mem_head? hfirst
    have hleast : ∀ b ∈ l, first.due ≤ b.due := by
      intro b hb
      obtain ⟨rest, rfl⟩ := List.head?_eq_some_iff.mp hfirst
      rcases List.mem_cons.mp hb with rfl | hb
      · exact Nat.le_refl _
      · exact (List.pairwise_cons.mp hordered.sorted).1 b hb
    obtain ⟨l', hordered', hdue⟩ := hboth.due_le hbegin.wellFormed hdecided hordered hleast
    refine ⟨first, ?_, fun queued hqueued => ?_⟩
    · have hstems := hordered.stems first hmem
      rw [armingOf?_concat] at hstems
      simpa [arming?, performed?, resumed?, hpasses] using hstems
    · rw [hordered'.entries_eq] at hqueued
      obtain ⟨a, ha, rfl⟩ := List.mem_map.mp hqueued
      exact ⟨a, hordered'.stems a ha, hdue.resolve_left hunroused a ha⟩

/-- While the context waits for its only timer, another one with the same deadline is added and
the first one removed, and nobody needs to be woken. -/
theorem nothing_slept_past_equal_deadline :
    ∃ (past later : History Nat) (s₀ s₁ s : Host Nat) (head : Countdown),
      Run {} Orderly (past ++ [(s₀, .resume)] ++ later) s ∧
      s₁.scheduler.state.timerQueue.peek? = some head ∧
      s.scheduler.state.eventQueue.pending = [] ∧
      ∃ first, armingOf? past head = some first ∧
        ∀ queued ∈ s.scheduler.state.timerQueue.entries, ∃ a,
          armingOf? (past ++ [(s₀, .resume)] ++ later) queued = some a ∧ first.due ≤ a.due := by
  obtain ⟨past, later, s₀, s₁, s, head, hrun, hpasses, hstep, hpark, hpath, hparked, hinFlight,
      horderly, hhead⟩ :
      ∃ (past later : History Nat) (s₀ s₁ s : Host Nat) (head : Countdown),
        Run {} Unnested past s₀ ∧
        s₀.passes = [.ready (.evaluate 0 (.ofTime 4294967290)) 4294967290] ∧
        s₀.step .resume = some s₁ ∧
        s₁.passes = [.parking (.ofMicros 2000) (.woken 0 (.ofMicros 2000)) 4294967290] ∧
        Path Asleep (past ++ [(s₀, .resume)]) s₁ later s ∧
        (s.passes = [.parking (.ofMicros 2000) (.woken 0 (.ofMicros 2000)) 4294967290] ∧
          s.parker.token = false) ∧
        s.inFlight = [] ∧ Run {} Orderly (past ++ [(s₀, .resume)] ++ later) s ∧
        s₁.scheduler.state.timerQueue.peek? = some head :=
    ⟨_, _, _, _, _, _,
      Run.of_play ⟨0⟩ 4294967290
        [.ask (.addTimer 10 (.after 2000) true), .perform 0, .enter, .resume, .resume] rfl,
      rfl, rfl, rfl,
      Path.of_play
        [.elapse 500, .ask (.addTimer 20 (.after 1500) false), .perform 0,
         .ask (.removeTimer ⟨⟨0⟩, ⟨0, 0⟩⟩), .perform 0] rfl,
      ⟨rfl, rfl⟩, rfl,
      Run.of_play ⟨0⟩ 4294967290
        [.ask (.addTimer 10 (.after 2000) true), .perform 0, .enter, .resume, .resume, .resume,
         .elapse 500, .ask (.addTimer 20 (.after 1500) false), .perform 0,
         .ask (.removeTimer ⟨⟨0⟩, ⟨0, 0⟩⟩), .perform 0] rfl,
      rfl⟩
  obtain ⟨-, hpending, -, hdue⟩ := nothing_slept_past hrun hpasses hstep hpark hpath
    (.inr hparked) (by simp [hinFlight])
  exact ⟨past, later, s₀, s₁, s, head, horderly, hhead, hpending, hdue horderly head hhead⟩

end Host

end CoopScheduler
