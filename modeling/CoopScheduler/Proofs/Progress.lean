import CoopScheduler.Proofs.Delivery
import CoopScheduler.Proofs.Executions

/-!
# The dispatch loop never spins

As long as passes do not overlap, each of them gets on with something (`Host.Progress`), and the
passes that were cut short are paid for by sends (`Host.never_spins`).

* A pass that reports a timer has called its callback, one that reports a park has parked once, for
  at least the floor of the configuration (`Host.DuringPass.parks`).
* A pass is cut short only by an event that was sent after it had found the queue empty. Such an
  event is **late** (`Host.late`) until the pass ends, and each pass that is cut short uses one up
  (`Host.Path.rechecks_le`).
-/

namespace CoopScheduler

variable {κ : Type}

/-- How long a pass parked, if it ended with that. -/
def PassEnd.parked? : PassEnd → Option Duration
  | .parked wait => some wait
  | _ => none

namespace Activation

/-- How long the pass has the context park. -/
def parked? : Activation κ → Option Duration
  | .woken _ wait => some wait
  | .ended pass => pass.ending.parked?
  | _ => none

/-- Whether the pass has found no event and decides next how it goes on. -/
def decides : Activation κ → Bool
  | .evaluate .. => true
  | _ => false

end Activation

namespace Host

/-- How long the pass has the context park. -/
def Frame.parked? : Frame κ → Option Duration
  | .reading next => (next (.ofTime 0)).parked?
  | .parking _ next _ | .ready next _ => next.parked?

/-- Whether the pass has found no event and decides next how it goes on. -/
def Frame.decides : Frame κ → Bool
  | .reading next => (next (.ofTime 0)).decides
  | .parking _ next _ | .ready next _ => next.decides

/-- How long a move has the context park. -/
def parked? (s : Host κ) (m : Move κ) : Option Duration :=
  match s.resumed? m with
  | none => none
  | some (activation, _) =>
    match (s.scheduler.resume activation).1 with
    | .park wait _ => some wait
    | _ => none

/-- The events that wait although a pass in progress has found none. -/
def late (s : Host κ) : List Key :=
  if s.passes.any Frame.decides then s.scheduler.state.eventQueue.pending else []

/-- Whether a move lets a pass end that is cut short. -/
def cutsShort (s : Host κ) (m : Move κ) : Bool :=
  (s.ended? m).any (·.ending = .recheck)

/-- How many passes were cut short. -/
def rechecks (past : History κ) : Nat :=
  (log ended? past).countP (·.ending = .recheck)

@[simp]
theorem rechecks_concat (past : History κ) (s : Host κ) (m : Move κ) :
    rechecks (past ++ [(s, m)]) = rechecks past + (s.cutsShort m).toNat := by
  rw [rechecks, log_concat, List.countP_append, cutsShort]
  cases s.ended? m with
  | none => rfl
  | some pass => by_cases hrecheck : pass.ending = .recheck <;> simp [rechecks, hrecheck]

variable {c : Config} {ok : Condition κ} {past later : History κ} {s s' : Host κ} {m : Move κ}

/-! ### Passes that do not overlap -/

/-- A pass that is not within another one takes no task that is out already. -/
theorem redispatches_of_unnested (hpasses : s.passes.length ≤ 1) (m : Move κ) :
    s.redispatches m = false := by
  cases htaken : s.taken? m with
  | none => simp [redispatches, htaken]
  | some task =>
    -- The pass takes a task, so it has none.
    have hout : s.out = [] := by
      cases hresumed : s.resumed? m with
      | none => simp [taken?, popped?, firedKey?, fired?, hresumed] at htaken
      | some resumed =>
        obtain ⟨activation, readAt⟩ := resumed
        obtain ⟨-, rest, hframes⟩ := resumed?_eq_some hresumed
        obtain rfl : rest = [] := by
          rw [hframes, List.length_cons] at hpasses
          exact List.eq_nil_of_length_eq_zero (by omega)
        cases activation with
        | drain events => simp [out, hframes, Frame.out?, Activation.out?]
        | evaluate events now => simp [out, hframes, Frame.out?, Activation.out?]
        | _ => simp [taken?, popped?, firedKey?, fired?, hresumed] at htaken
    simp [redispatches, hout]

/-- On a run whose passes do not overlap no task is taken that is out already. -/
theorem Run.unredispatched (h : Run c Unnested past s) :
    Run c (fun _ s m _ => s.redispatches m = false) past s := by
  obtain ⟨id, time, path⟩ := h
  refine ⟨id, time, ?_⟩
  induction path with
  | nil => exact .nil
  | snoc path hstep hok ih =>
    have hrun : Run c Unnested _ _ := ⟨id, time, path⟩
    exact ih.snoc hstep (redispatches_of_unnested hrun.delivering.unnested _)

/-- A pass in progress is the only one. -/
theorem Run.passes_eq (h : Run c Unnested past s) {frame : Frame κ} {rest : List (Frame κ)}
    (hpasses : s.passes = frame :: rest) : s.passes = [frame] := by
  rw [hpasses, h.delivering.passes_eq hpasses]

/-- Whatever is logged of passes happens in the depth of the only one. -/
private theorem log_atDepth_one {α : Type} {did? : Host κ → Move κ → Option α}
    (h : Run c Unnested (past ++ later) s)
    (hresumed : ∀ s m, (did? s m).isSome = true → (s.resumed? m).isSome = true) :
    log (atDepth 1 did?) later = log did? later := by
  refine List.filterMap_congr ?_
  rintro ⟨t, m⟩ hmem
  obtain ⟨before, -, hrun, -, -, -⟩ := h.exists_of_mem (List.mem_append_right past hmem)
  cases hdid : did? t m with
  | none => simp [atDepth, hdid]
  | some what =>
    obtain ⟨⟨activation, readAt⟩, hsome⟩ :=
      Option.isSome_iff_exists.mp (hresumed t m (by simp [hdid]))
    obtain ⟨-, rest, hpasses⟩ := resumed?_eq_some hsome
    simp [atDepth, hdid, hrun.passes_eq hpasses]

/-- The steps of a pass that no other one is nested in or around. -/
private theorem DuringPass.unnested (h : Run c Unnested past s)
    (hduring : DuringPass past later s) : ∃ before t readAt, past = before ++ later ∧
      t.passes = [.ready .start readAt] ∧ s.passes.length = 1 ∧ Run c Unnested before t ∧
      Path (fun past s m s' => 1 ≤ s'.passes.length ∧ Unnested past s m s') before t later s := by
  obtain ⟨before, t, readAt, rest, rfl, ht, hdepth, hpath⟩ := hduring
  obtain ⟨hrun, hboth⟩ := h.along hpath
  obtain rfl := hrun.delivering.passes_eq ht
  exact ⟨before, t, readAt, rfl, ht, hdepth, hrun, hboth⟩

/-! ### Parks -/

/-- No park is shorter than the floor. -/
theorem sleepFloor_le_of_parked? (hwf : s.WellFormed c) {wait : Duration}
    (h : s.parked? m = some wait) : c.sleepFloor ≤ wait := by
  unfold parked? at h
  split at h
  · cases h
  · next activation readAt hresumed =>
    cases activation with
    | evaluate events now =>
      rcases hdecision : s.scheduler.state.evaluate s.scheduler.config now with
        ⟨⟨key, callback⟩ | _ | wait', state⟩
      · cases callback <;> simp [Scheduler.resume, hdecision, Effect.callIfPresent] at h
      · simp [Scheduler.resume, hdecision] at h
      · obtain ⟨-, -, -, rfl⟩ := State.evaluate_of_park hdecision
        simp only [Scheduler.resume, hdecision, Option.some.injEq] at h
        rw [← h, hwf.config_eq]
        exact c.sleepFloor_le_sleepFor _
    | drain events =>
      rcases hpop : s.scheduler.state.popEvent with ⟨_ | ⟨key, callback⟩, state⟩
      · simp [Scheduler.resume, hpop] at h
      · cases callback <;> simp [Scheduler.resume, hpop, Effect.callIfPresent] at h
    | _ => simp [Scheduler.resume] at h

/-- A step of the only pass: the pass carries along how long it has the context park. -/
private theorem goOn_parked {activation : Activation κ} {readAt : Nat}
    (hpasses : s.passes = [.ready activation readAt]) :
    (∃ pass, (s.scheduler.resume activation).1 = .finish pass ∧
      pass.ending.parked? = activation.parked?) ∨
    ∃ frame, framesAfter (s.scheduler.resume activation).1 readAt = [frame] ∧
      frame.parked?.toList = activation.parked?.toList ++ (s.parked? .resume).toList := by
  have hresumed : s.resumed? .resume = some (activation, readAt) := by simp [resumed?, hpasses]
  cases activation with
  | drain events =>
    rcases hpop : s.scheduler.state.popEvent with ⟨_ | ⟨key, callback⟩, state⟩
    · refine .inr ⟨.reading (.evaluate events), by simp [Scheduler.resume, hpop, framesAfter], ?_⟩
      simp [parked?, hresumed, Scheduler.resume, hpop, Frame.parked?, Activation.parked?]
    · refine .inr ⟨.ready (.eventReturned (events + 1) key callback) readAt,
        by simp [Scheduler.resume, hpop], ?_⟩
      cases callback <;> simp [parked?, hresumed, Scheduler.resume, hpop, Effect.callIfPresent,
        Frame.parked?, Activation.parked?]
  | evaluate events now =>
    rcases hdecision : s.scheduler.state.evaluate s.scheduler.config now with
      ⟨⟨key, callback⟩ | _ | wait, state⟩
    · refine .inr ⟨.ready (.timerReturned events key callback) readAt,
        by simp [Scheduler.resume, hdecision], ?_⟩
      cases callback <;> simp [parked?, hresumed, Scheduler.resume, hdecision,
        Effect.callIfPresent, Frame.parked?, Activation.parked?]
    · exact .inl ⟨⟨events, .recheck⟩, by simp [Scheduler.resume, hdecision], rfl⟩
    · refine .inr ⟨.parking wait (.woken events wait) readAt,
        by simp [Scheduler.resume, hdecision, framesAfter], ?_⟩
      simp [parked?, hresumed, Scheduler.resume, hdecision, Frame.parked?, Activation.parked?]
  | eventReturned events key callback =>
    exact .inr ⟨.ready (.drain events) readAt, rfl, by simp [parked?, hresumed, Scheduler.resume,
      Frame.parked?, Activation.parked?]⟩
  | timerReturned events key callback =>
    exact .inr ⟨.reading (.settle events key callback), rfl, by simp [parked?, hresumed,
      Scheduler.resume, Frame.parked?, Activation.parked?]⟩
  | settle events key callback after =>
    exact .inr ⟨.ready (.ended ⟨events, .fired ⟨s.scheduler.id, key⟩⟩) readAt, rfl, by
      simp [parked?, hresumed, Scheduler.resume, Frame.parked?, Activation.parked?,
        PassEnd.parked?]⟩
  | woken events wait => exact .inl ⟨⟨events, .parked wait⟩, rfl, rfl⟩
  | ended pass => exact .inl ⟨pass, rfl, rfl⟩

/-- While the only pass goes on, it carries along for how long it has parked. -/
private theorem step_parked {frame : Frame κ} (hwf : s.WellFormed c)
    (hpasses : s.passes = [frame]) (hstep : s.step m = some s') (hok : s.nests m = false)
    (hstill : 1 ≤ s'.passes.length) : ∃ frame', s'.passes = [frame'] ∧
      frame'.parked?.toList = frame.parked?.toList ++ (s.parked? m).toList := by
  cases Step.of_step hstep with
  | enter => simp [nests, hpasses] at hok
  | read hreading =>
    rw [hpasses] at hreading
    cases hreading
    refine ⟨_, rfl, ?_⟩
    cases hwf.passes _ (hpasses ▸ List.mem_singleton_self _) with
    | readEvaluate | readSettle => simp [parked?, resumed?, hpasses, Frame.parked?,
        Activation.parked?]
  | unparked hparking =>
    rw [hpasses] at hparking
    cases hparking
    exact ⟨_, rfl, by simp [parked?, resumed?, hpasses, Frame.parked?]⟩
  | goOn hready =>
    rw [hpasses] at hready
    cases hready
    rcases goOn_parked hpasses with ⟨pass, hfinish, -⟩ | ⟨frame', hframes, hparked⟩
    · simp [hfinish, framesAfter] at hstill
    · exact ⟨frame', by simp [hframes], hparked⟩
  | _ => exact ⟨frame, hpasses, by simp [parked?, resumed?]⟩

/-- **What a pass reports about parking** is what it did since it began. -/
theorem DuringPass.parks (h : Run c Unnested past s) (hduring : DuringPass past later s)
    {pass : Pass} (hended : s.ended? m = some pass) :
    pass.ending.parked?.toList = log parked? later := by
  obtain ⟨before, t, readAt, rfl, ht, -, hrun, hpath⟩ := hduring.unnested h
  -- The pass carries the park along from its beginning.
  have hcarried : s.WellFormed c ∧
      ∃ frame, s.passes = [frame] ∧ frame.parked?.toList = log parked? later := by
    clear h hduring hended
    induction hpath with
    | nil => exact ⟨hrun.wellFormed, _, ht, rfl⟩
    | snoc _ hstep hok ih =>
      obtain ⟨hwf, frame, hpasses, hparked⟩ := ih
      obtain ⟨frame', hpasses', hparked'⟩ := step_parked hwf hpasses hstep hok.2 hok.1
      exact ⟨hwf.step hstep, frame', hpasses', by rw [log_concat, hparked', hparked]⟩
  obtain ⟨-, frame, hpasses, hparked⟩ := hcarried
  obtain ⟨rfl, activation, readAt', rest, hready⟩ := passes_of_ended? hended
  rw [hpasses] at hready
  cases hready
  have hfinish : (s.scheduler.resume activation).1 = .finish pass := by
    unfold ended? at hended
    simp only [resumed?, hpasses] at hended
    split at hended
    · next hfinish => rw [hfinish, Option.some.inj hended]
    · cases hended
  rcases goOn_parked hpasses with ⟨pass', hfinish', hparked'⟩ | ⟨frame', hframes, -⟩
  · cases hfinish.symm.trans hfinish'
    rw [hparked', ← hparked]
    rfl
  · simp [hfinish, framesAfter] at hframes

/-! ### Passes that are cut short -/

/-- A pass that has nothing left to do has put a timer back. -/
private theorem fired_of_mem_framesAfter (s : Scheduler κ) {activation : Activation κ} {pass : Pass}
    {readAt readAt' : Nat}
    (h : .ready (.ended pass) readAt' ∈ framesAfter (s.resume activation).1 readAt) :
    ∃ handle, pass.ending = .fired handle := by
  cases activation with
  | settle events key callback after =>
    simp only [Scheduler.resume, framesAfter, List.mem_singleton] at h
    cases h
    exact ⟨_, rfl⟩
  | drain events =>
    rcases hpop : s.state.popEvent with ⟨_ | ⟨key, callback⟩, state⟩
    · simp [Scheduler.resume, hpop, framesAfter] at h
    · simp [Scheduler.resume, hpop] at h
  | evaluate events now =>
    rcases hdecision : s.state.evaluate s.config now with ⟨⟨key, callback⟩ | _ | wait, state⟩
    · simp [Scheduler.resume, hdecision] at h
    · simp [Scheduler.resume, hdecision, framesAfter] at h
    · simp [Scheduler.resume, hdecision, framesAfter] at h
  | _ => simp [Scheduler.resume, framesAfter] at h

/-- On any run, a pass that has nothing left to do has put a timer back. -/
private theorem Run.fired_of_ended (h : Run c ok past s) :
    ∀ pass readAt, .ready (.ended pass) readAt ∈ s.passes →
      ∃ handle, pass.ending = .fired handle := by
  refine h.induct (I := fun _ s => ∀ pass readAt, .ready (.ended pass) readAt ∈ s.passes →
    ∃ handle, pass.ending = .fired handle) (fun id time => by simp [create]) ?_
  intro past s m s' hwf hI hstep _ pass readAt hmem
  have hbehind {frame : Frame κ} {rest : List (Frame κ)} (hpasses : s.passes = frame :: rest)
      (hmem : .ready (.ended pass) readAt ∈ rest) : ∃ handle, pass.ending = .fired handle :=
    hI pass readAt (hpasses ▸ List.mem_cons_of_mem _ hmem)
  cases Step.of_step hstep with
  | enter =>
    rcases List.mem_cons.mp hmem with heq | hmem
    · cases heq
    · exact hI pass readAt hmem
  | read hpasses =>
    rcases List.mem_cons.mp hmem with heq | hmem
    · cases hwf.passes _ (hpasses ▸ List.mem_cons_self) with
      | readEvaluate | readSettle => cases heq
    · exact hbehind hpasses hmem
  | unparked hpasses =>
    rcases List.mem_cons.mp hmem with heq | hmem
    · cases hwf.passes _ (hpasses ▸ List.mem_cons_self) with
      | parking => cases heq
    · exact hbehind hpasses hmem
  | goOn hpasses =>
    rcases List.mem_append.mp hmem with hmem | hmem
    · exact fired_of_mem_framesAfter s.scheduler hmem
    · exact hbehind hpasses hmem
  | _ => exact hI pass readAt hmem

/-- The event queue grows by accepted sends only. -/
theorem Run.length_pending_le (h : Run c ok past s) (hstep : s.step m = some s')
    (hok : ok past s m s') : s'.scheduler.state.eventQueue.pending.length
      ≤ s.scheduler.state.eventQueue.pending.length + (s.accepted? m).toList.length := by
  have hbefore := congrArg List.length h.popped_append_pending
  have hafter := congrArg List.length (h.snoc hstep hok).popped_append_pending
  have hrevise := s.length_reviseSends_le m (sends past)
  rw [sends_concat] at hafter
  simp only [log_concat, List.length_append] at hbefore hafter
  omega

private theorem late_of_decides {frame : Frame κ} (hpasses : s.passes = [frame])
    (hdecides : frame.decides = true) : s.late = s.scheduler.state.eventQueue.pending := by
  simp [late, hpasses, hdecides]

private theorem late_of_not_decides {frame : Frame κ} (hpasses : s.passes = [frame])
    (hdecides : frame.decides = false) : s.late = [] := by
  simp [late, hpasses, hdecides]

/-- A step of the only pass. -/
private theorem goOn_late {activation : Activation κ} {readAt : Nat} (h : Run c Unnested past s)
    (hpasses : s.passes = [.ready activation readAt])
    (hstep : s.step .resume = some s')
    (hframes : s'.passes = framesAfter (s.scheduler.resume activation).1 readAt) :
    (s.cutsShort .resume).toNat + s'.late.length ≤ s.late.length := by
  have hresumed : s.resumed? .resume = some (activation, readAt) := by simp [resumed?, hpasses]
  cases activation with
  | drain events =>
    rcases hpop : s.scheduler.state.popEvent with ⟨_ | ⟨key, callback⟩, state⟩
    · -- The pass has found no event, so none is late yet.
      obtain ⟨hpopped, hpending⟩ := popped?_eq_head? h.eventsAgree hresumed hstep
      have hnone : s.scheduler.state.eventQueue.pending = [] := by
        simpa [popped?, hresumed, hpop, eq_comm] using hpopped
      have hlate : s'.late = [] := by simp [late, hpending, hnone]
      simp [hlate, cutsShort, ended?, hresumed, Scheduler.resume, hpop]
    · have hafter : s'.passes = [.ready (.eventReturned (events + 1) key callback) readAt] := by
        simp [hframes, Scheduler.resume, hpop]
      have hlate := late_of_not_decides hafter rfl
      cases callback <;>
        simp [hlate, cutsShort, ended?, hresumed, Scheduler.resume, hpop, Effect.callIfPresent]
  | evaluate events now =>
    rcases hdecision : s.scheduler.state.evaluate s.scheduler.config now with
      ⟨⟨key, callback⟩ | _ | wait, state⟩
    · have hafter : s'.passes = [.ready (.timerReturned events key callback) readAt] := by
        simp [hframes, Scheduler.resume, hdecision]
      have hlate := late_of_not_decides hafter rfl
      cases callback <;>
        simp [hlate, cutsShort, ended?, hresumed, Scheduler.resume, hdecision, Effect.callIfPresent]
    · -- The pass is cut short, so an event is late.
      have hlate : s'.late = [] := by
        simp [late, hframes, Scheduler.resume, hdecision, framesAfter]
      have hpending : s.scheduler.state.eventQueue.pending ≠ [] := by
        intro hnone
        rw [State.evaluate_of_idle hnone] at hdecision
        split at hdecision <;> cases hdecision
      have hlength := List.length_pos_iff.mpr hpending
      rw [hlate, late_of_decides hpasses rfl]
      have hle := Bool.toNat_le (s.cutsShort .resume)
      simp only [List.length_nil]
      omega
    · have hafter : s'.passes = [.parking wait (.woken events wait) readAt] := by
        simp [hframes, Scheduler.resume, hdecision, framesAfter]
      have hlate := late_of_not_decides hafter rfl
      simp [hlate, cutsShort, ended?, hresumed, Scheduler.resume, hdecision]
  | ended pass =>
    obtain ⟨handle, hfired⟩ := h.fired_of_ended pass readAt (by simp [hpasses])
    simp [late, hframes, Scheduler.resume, framesAfter, cutsShort, ended?, hresumed, hfired]
  | _ =>
    simp [late, hframes, Scheduler.resume, framesAfter, cutsShort, ended?, hresumed,
      Frame.decides, Activation.decides]

/-- **A pass that is cut short uses a late event up**, and an event gets late only by being sent. -/
theorem step_late (h : Run c Unnested past s) (hstep : s.step m = some s')
    (hok : s.nests m = false) :
    (s.cutsShort m).toNat + s'.late.length ≤ s.late.length + (s.accepted? m).toList.length := by
  have hpending := h.length_pending_le hstep hok
  have hquiet (hresumed : s.resumed? m = none) : s.cutsShort m = false := by
    simp [cutsShort, ended?, hresumed]
  have hkept (hpasses : s'.passes = s.passes) (hresumed : s.resumed? m = none) :
      (s.cutsShort m).toNat + s'.late.length
        ≤ s.late.length + (s.accepted? m).toList.length := by
    rw [hquiet hresumed, late, late, hpasses]
    split
    · simpa using hpending
    · simp
  cases Step.of_step hstep with
  | enter =>
    have hnone : s.passes = [] := by simpa [nests] using hok
    simp [hquiet rfl, late, hnone, Frame.decides, Activation.start, Activation.decides]
  | read hreading =>
    have hpasses := h.passes_eq hreading
    obtain rfl := h.delivering.passes_eq hreading
    rw [hquiet (by simp [resumed?, hpasses])]
    cases h.wellFormed.passes _ (hpasses ▸ List.mem_singleton_self _) with
    | readEvaluate | readSettle => simp [late, hpasses, Frame.decides, Activation.decides]
  | unparked hparking =>
    have hpasses := h.passes_eq hparking
    obtain rfl := h.delivering.passes_eq hparking
    rw [hquiet (by simp [resumed?, hpasses])]
    cases h.wellFormed.passes _ (hpasses ▸ List.mem_singleton_self _) with
    | parking => simp [late, Frame.decides, Activation.decides]
  | goOn hready =>
    have hpasses := h.passes_eq hready
    obtain rfl := h.delivering.passes_eq hready
    have hgoOn := goOn_late h hpasses hstep (by simp)
    omega
  | _ => exact hkept rfl rfl

/-- Along a path, **the passes that are cut short** use up late events, which were late before or
are sent on the path. -/
theorem Path.rechecks_le (h : Run c Unnested past s) (hpath : Path Unnested past s later s') :
    rechecks later + s'.late.length ≤ s.late.length + (log accepted? later).length := by
  induction hpath with
  | nil => simp [rechecks, log]
  | snoc path hstep hok ih =>
    have hlate := step_late (h.append path) hstep hok
    rw [rechecks_concat, log_concat, List.length_append]
    omega

/-! ### What a pass achieves -/

/-- What a pass has achieved that made the steps `later` and then ended in the host `s'`. -/
structure Progress (c : Config) (later : History κ) (s' : Host κ) (pass : Pass) : Prop where
  /-- It has called the callbacks of the events that it reports. -/
  events_eq : pass.events = (log called? later).length
  /-- If it ended with a timer, it has called the callback of that one and of no other. -/
  fired : ∀ {handle}, pass.ending = .fired handle →
    ∃ callback, log timerCalled? later = [(handle.key, callback)]
  /-- If it was cut short, an event waits, and one was sent since the pass began. -/
  recheck : pass.ending = .recheck →
    s'.scheduler.state.eventQueue.pending ≠ [] ∧ log accepted? later ≠ []
  /-- If it ended with a park, it has had the context park once, for at least the floor. -/
  parked : ∀ {wait}, pass.ending = .parked wait →
    log parked? later = [wait] ∧ c.sleepFloor ≤ wait

/-- A pass that is cut short was about to decide how it goes on. -/
private theorem Run.resumed?_of_recheck (h : Run c ok past s) {pass : Pass}
    (hended : s.ended? m = some pass) (hrecheck : pass.ending = .recheck) :
    ∃ events now readAt, s.resumed? m = some (.evaluate events now, readAt) := by
  obtain ⟨rfl, activation, readAt, rest, hpasses⟩ := passes_of_ended? hended
  have hresumed : s.resumed? .resume = some (activation, readAt) := by simp [resumed?, hpasses]
  simp only [ended?, hresumed] at hended
  split at hended
  · next hfinish =>
    cases Option.some.inj hended
    cases activation with
    | evaluate events now => exact ⟨events, now, readAt, hresumed⟩
    | ended pass =>
      cases hfinish
      obtain ⟨handle, hfired⟩ := h.fired_of_ended pass readAt (by simp [hpasses])
      rw [hfired] at hrecheck
      cases hrecheck
    | drain events =>
      rcases hpop : s.scheduler.state.popEvent with ⟨_ | ⟨key, _ | callback⟩, state⟩ <;>
        simp [Scheduler.resume, hpop, Effect.callIfPresent] at hfinish
    | woken events wait =>
      cases hfinish
      cases hrecheck
    | _ => cases hfinish
  · cases hended

/-- A pass that is cut short leaves an event waiting that was sent since the pass began. -/
private theorem DuringPass.recheck (h : Run c Unnested past s) (hduring : DuringPass past later s)
    {pass : Pass} (hended : s.ended? m = some pass) (hrecheck : pass.ending = .recheck)
    (hstep : s.step m = some s') :
    s'.scheduler.state.eventQueue.pending ≠ [] ∧ log accepted? later ≠ [] := by
  obtain ⟨before, t, readAt, rfl, ht, -, hrun, hpath⟩ := hduring.unnested h
  obtain ⟨rfl, activation, readAt', rest, hready⟩ := passes_of_ended? hended
  have hpasses := h.passes_eq hready
  have hcut : s.cutsShort .resume = true := by simp [cutsShort, hended, hrecheck]
  have hone := step_late h hstep (by simp [nests])
  -- No event was late as the pass began.
  have hlater := Path.rechecks_le hrun (hpath.mono fun _ _ _ _ hok => hok.2)
  rw [late_of_not_decides ht rfl, List.length_nil] at hlater
  rw [hcut, show s.accepted? .resume = none from rfl] at hone
  simp only [Bool.toNat_true, Option.toList_none, List.length_nil] at hone
  refine ⟨?_, fun hnone => ?_⟩
  · obtain ⟨events, now, _, hresumed⟩ := h.resumed?_of_recheck hended hrecheck
    obtain rfl : activation = .evaluate events now := by
      simp only [resumed?, hpasses, Option.some.injEq, Prod.mk.injEq] at hresumed
      exact hresumed.1
    have hstate : s'.scheduler.state.eventQueue = s.scheduler.state.eventQueue := by
      simp only [step, hpasses, resumeFrame, Option.some.injEq] at hstep
      rw [← hstep]
      exact (congrArg State.eventQueue (s.scheduler.resume_evaluate_state events now)).trans
        (State.evaluate_events ..).2
    rw [hstate, ← late_of_decides hpasses rfl]
    exact List.ne_nil_of_length_pos (by omega)
  · rw [hnone, List.length_nil] at hlater
    omega

theorem DuringPass.progress (h : Run c Unnested past s) (hduring : DuringPass past later s)
    {pass : Pass} (hended : s.ended? m = some pass) (hstep : s.step m = some s') :
    Progress c later s' pass := by
  obtain ⟨hevents, htimers⟩ := hduring.reports h.unredispatched (fun _ _ _ _ hok => hok) hended
  have hparks := hduring.parks h hended
  obtain ⟨before, t, readAt, rfl, ht, hdepth, hrun, hpath⟩ := hduring.unnested h
  have hresumed {α : Type} {did? : Host κ → Move κ → Option α}
      (hnone : ∀ s m, s.resumed? m = none → did? s m = none) :
      log (atDepth 1 did?) later = log did? later := by
    refine log_atDepth_one h fun s m hsome => ?_
    rw [Option.isSome_iff_ne_none] at hsome ⊢
    exact fun hresumed => hsome (hnone s m hresumed)
  rw [hdepth, hresumed fun s m hnone => by simp [called?, hnone]] at hevents
  rw [hdepth, hresumed fun s m hnone => by simp [timerCalled?, hnone]] at htimers
  constructor
  · exact hevents
  · intro handle hfired
    rw [hfired] at htimers
    obtain ⟨⟨key, callback⟩, hlog, hkey⟩ := List.map_eq_singleton_iff.mp htimers.symm
    exact ⟨callback, by rw [hlog, ← hkey]⟩
  · exact fun hrecheck => hduring.recheck h hended hrecheck hstep
  · intro wait hparked
    rw [hparked] at hparks
    refine ⟨hparks.symm, ?_⟩
    -- The park was a step of this run.
    have hmem : wait ∈ log parked? later := by
      rw [← hparks]
      exact List.mem_singleton_self wait
    obtain ⟨⟨u, m'⟩, hstepMem, hwait⟩ := List.mem_filterMap.mp hmem
    obtain ⟨_, -, hbefore, -⟩ := h.exists_of_mem (List.mem_append_right before hstepMem)
    exact sleepFloor_le_of_parked? hbefore.wellFormed hwait

/-- **The dispatch loop never spins**, with whatever configuration, as long as passes do not
overlap: each pass that ends has dispatched a task, or leaves an event waiting, or has had the
context park for at least the floor. No more passes are cut short than sends were accepted. -/
theorem never_spins (h : Run c Unnested past s) :
    (∀ {m pass s'}, s.ended? m = some pass → s.step m = some s' →
      (∃ later, DuringPass past later s) ∧
        ∀ later, DuringPass past later s → Progress c later s' pass) ∧
    rechecks past ≤ (log accepted? past).length := by
  refine ⟨fun hended hstep => ⟨h.exists_duringPass hended, fun later hduring =>
    hduring.progress h hended hstep⟩, ?_⟩
  have hpath : ∃ id time, Path Unnested [] (create id c time) past s := h
  obtain ⟨id, time, hpath⟩ := hpath
  have hle := Path.rechecks_le (c := c) ⟨id, time, .nil⟩ hpath
  simp only [late, create, List.any_nil, Bool.false_eq_true, if_false, List.length_nil] at hle
  omega

/-- An event that is sent after a pass has found none, and before the pass reads the clock, cuts
the pass short. -/
theorem never_spins_late_send :
    ∃ (past later : History Nat) (s s' : Host Nat), Run {} Unnested past s ∧
      s.ended? .resume = some ⟨0, .recheck⟩ ∧ s.step .resume = some s' ∧
      DuringPass past later s ∧ s'.scheduler.state.eventQueue.pending ≠ [] ∧
      log accepted? later ≠ [] ∧ rechecks (past ++ [(s, .resume)]) = 1 ∧
      1 ≤ (log accepted? (past ++ [(s, .resume)])).length := by
  obtain ⟨past, s, s', hrun, hended, hstep, hcut⟩ :
      ∃ (past : History Nat) (s s' : Host Nat), Run {} Unnested past s ∧
        s.ended? .resume = some ⟨0, .recheck⟩ ∧ s.step .resume = some s' ∧
        rechecks (past ++ [(s, .resume)]) = 1 :=
    ⟨_, _, _, Run.of_play ⟨0⟩ 0
      [.ask (.createEvent 10), .perform 0, .enter, .resume,
       .ask (.send ⟨⟨0⟩, ⟨0, 0⟩⟩ .thread), .perform 0, .resume] rfl, rfl, rfl, rfl⟩
  obtain ⟨⟨later, hduring⟩, hprogress⟩ := (never_spins hrun).1 hended hstep
  obtain ⟨hwaits, hsent⟩ := (hprogress later hduring).recheck rfl
  have hbound := (never_spins (hrun.snoc hstep rfl)).2
  rw [hcut] at hbound
  exact ⟨past, later, s, s', hrun, hended, hstep, hduring, hwaits, hsent, hcut, hbound⟩

end Host

end CoopScheduler
