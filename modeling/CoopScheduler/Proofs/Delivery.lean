import CoopScheduler.Proofs.EventHistory

/-!
# The delivery of events

On every run without nested passes, events are delivered exactly once and in order
(`Host.delivers`).

* Popped events and the queue together are the accepted sends that were not withdrawn.
* Each popped event has the callback called with which it was created, and that has returned
  before the next event is popped.
* A drain goes on for at most two steps for each event that waits or is sent meanwhile, and one
  for a callback that is out, and leaves the queue empty.
-/

namespace CoopScheduler

variable {κ : Type}

namespace Host

variable {c : Config} {past later : History κ} {s s' : Host κ} {m : Move κ}

/-! ### Drains -/

/-- Whether a move lets the innermost pass go on. -/
def Move.resumes : Move κ → Bool
  | .resume => true
  | _ => false

/-- Whether the innermost pass is running events. -/
def drains (s : Host κ) : Bool :=
  match s.passes with
  | .ready (.drain _) _ :: _ | .ready (.eventReturned ..) _ :: _ => true
  | _ => false

/-- The pass goes on running events, and no other one is nested in it. -/
abbrev Draining : Condition κ :=
  fun _ s m s' => s.nests m = false ∧ s'.drains = true

private theorem passes_of_drains (h : Delivering past s) (hdrains : s.drains = true) :
    (∃ events readAt, s.passes = [.ready (.drain events) readAt]) ∨
      ∃ events key callback readAt,
        s.passes = [.ready (.eventReturned events key callback) readAt] := by
  unfold drains at hdrains
  split at hdrains
  · next events readAt rest hpasses =>
    obtain rfl := h.passes_eq hpasses
    exact .inl ⟨events, readAt, hpasses⟩
  · next events key callback readAt rest hpasses =>
    obtain rfl := h.passes_eq hpasses
    exact .inr ⟨events, key, callback, readAt, hpasses⟩
  · cases hdrains

/-- A drain ends with the queue empty. -/
private theorem pending_of_drained (h : Delivering past s) (hdrains : s.drains = true)
    (hstep : s.step m = some s') (hok : s.nests m = false) (hdrains' : s'.drains = false) :
    s'.scheduler.state.eventQueue.pending = [] := by
  rcases passes_of_drains h hdrains with ⟨events, readAt, hpasses⟩ |
    ⟨events, key, callback, readAt, hpasses⟩
  · cases Step.of_step hstep with
    | enter => simp [nests, hpasses] at hok
    | read hreading => simp [hpasses] at hreading
    | unparked hparking => simp [hpasses] at hparking
    | goOn hready =>
      rw [hpasses] at hready
      cases hready
      -- Only a drain that finds the queue empty goes on to the timers.
      cases hpending : s.scheduler.state.eventQueue.pending with
      | nil => simp [Scheduler.resume_drain_of_nil hpending, hpending]
      | cons key rest =>
        obtain ⟨callback, -, hcalled⟩ := h.called?_of_drain hpasses hpending
        simp only [called?, resumed?, hpasses] at hcalled
        split at hcalled
        · next hcall => simp [drains, hcall, framesAfter] at hdrains'
        · cases hcalled
    | _ => simp [drains, hpasses, performAt] at hdrains'
  · cases Step.of_step hstep with
    | enter => simp [nests, hpasses] at hok
    | read hreading => simp [hpasses] at hreading
    | unparked hparking => simp [hpasses] at hparking
    | goOn hready =>
      rw [hpasses] at hready
      cases hready
      -- After a callback the drain goes on.
      simp [drains, Scheduler.resume, framesAfter] at hdrains'
    | _ => simp [drains, hpasses, performAt] at hdrains'

/-- While a pass is draining, each of its steps pops an event or puts one back. -/
private theorem resumes_le (h : Delivering past s) (hdrains : s.drains = true)
    (hstep : s.step m = some s') (hdrains' : s'.drains = true) (hresumes : m.resumes = true) :
    1 ≤ (s.popped? m).toList.length + (s.returned? m).toList.length := by
  cases m with
  | resume =>
    rcases passes_of_drains h hdrains with ⟨events, readAt, hpasses⟩ |
      ⟨events, key, callback, readAt, hpasses⟩
    · rw [h.popped?_of_drain hpasses]
      cases hpending : s.scheduler.state.eventQueue.pending with
      | nil =>
        simp only [Host.step, hpasses, resumeFrame, Scheduler.resume_drain_of_nil hpending,
          Option.some.injEq] at hstep
        subst hstep
        simp [drains, framesAfter] at hdrains'
      | cons key rest => simp
    · simp [returned?, resumed?, hpasses]
  | _ => cases hresumes

/-- A move adds no more sends than it accepts. -/
theorem length_reviseSends_le (s : Host κ) (m : Move κ) (sends : List Key) :
    (s.reviseSends m sends).length ≤ sends.length + (s.accepted? m).toList.length := by
  rw [reviseSends, List.length_append]
  cases s.withdrawn? m with
  | none => exact Nat.le_refl _
  | some key =>
    have herase := List.length_erase_le (a := key) (l := sends.reverse)
    simp only [List.length_reverse] at herase ⊢
    omega

private theorem length_sends_le (past later : History κ) :
    (sends (past ++ later)).length ≤ (sends past).length + (log accepted? later).length := by
  induction later generalizing past with
  | nil => simp
  | cons step later ih =>
    obtain ⟨s, m⟩ := step
    have hrevise := s.length_reviseSends_le m (sends past)
    have hlater := ih (past ++ [(s, m)])
    rw [sends_concat, ← List.append_cons] at hlater
    have hlog : (log accepted? ((s, m) :: later)).length
        = (s.accepted? m).toList.length + (log accepted? later).length := by
      rw [← List.singleton_append, log_append, List.length_append, ← List.nil_append [(s, m)],
        log_concat]
      rfl
    omega

private theorem Path.draining (hrun : Run c Unnested past s) (hdrains : s.drains = true)
    (hpath : Path Draining past s later s') :
    s'.drains = true ∧ later.countP (fun step => step.2.resumes)
      ≤ (log popped? later).length + (log returned? later).length := by
  induction hpath with
  | nil => exact ⟨hdrains, Nat.zero_le _⟩
  | @snoc later s' s'' m path hstep hok ih =>
    obtain ⟨hdrains', hle⟩ := ih
    have hrun' := hrun.append (path.mono fun _ _ _ _ hok => hok.1)
    refine ⟨hok.2, ?_⟩
    have hone := resumes_le hrun'.delivering hdrains' hstep hok.2
    rw [List.countP_append, log_concat, log_concat, List.length_append, List.length_append,
      List.countP_singleton]
    split
    · next hresumes =>
      have := hone hresumes
      omega
    · omega

/-- While a pass is draining, its steps are two for each event that waits or is sent meanwhile,
and one more if a callback was out. -/
private theorem Path.resumes_bounded (hrun : Run c Unnested past s) (hdrains : s.drains = true)
    (hpath : Path Draining past s later s') :
    later.countP (fun step => step.2.resumes)
      ≤ 2 * (s.scheduler.state.eventQueue.pending.length + (log accepted? later).length) + 1 := by
  -- What is popped waited before or was sent meanwhile, and what returns was popped or was out
  -- before.
  obtain ⟨-, hle⟩ := hpath.draining hrun hdrains
  have hend := (hrun.append (hpath.mono fun _ _ _ _ hok => hok.1)).delivering
  have hsends := length_sends_le past later
  have hrunning : (s.running?.map Prod.fst).toList.length ≤ 1 := by
    cases s.running? <;> simp
  have hfifo := congrArg List.length hrun.delivering.fifo
  have hreturned := congrArg List.length hrun.delivering.returned
  have hfifo' := congrArg List.length hend.fifo
  have hreturned' := congrArg List.length hend.returned
  simp only [log_append, List.length_append] at hfifo hreturned hfifo' hreturned'
  omega

/-- **A drain ends**, with the queue empty, once it has taken enough steps. -/
private theorem Path.drained (hrun : Run c Unnested past s) (hdrains : s.drains = true)
    (hpath : Path Unnested past s later s')
    (hmany : 2 * (s.scheduler.state.eventQueue.pending.length + (log accepted? later).length) + 1
      < later.countP fun step => step.2.resumes) :
    ∃ drain last m rest s'', later = drain ++ (last, m) :: rest ∧
      Path Draining past s drain last ∧ last.step m = some s'' ∧ s''.drains = false ∧
      s''.scheduler.state.eventQueue.pending = [] := by
  -- Either the pass is still draining at the end of the path, or it has stopped on the way.
  have hcases : Path Draining past s later s' ∨
      ∃ drain last m rest s'', later = drain ++ (last, m) :: rest ∧
        Path Draining past s drain last ∧ last.step m = some s'' ∧ s''.drains = false ∧
        s''.scheduler.state.eventQueue.pending = [] := by
    clear hmany
    induction hpath with
    | nil => exact .inl .nil
    | @snoc later s' s'' m path hstep hok ih =>
      rcases ih with hdraining | ⟨drain, last, m₀, rest, s₁, rfl, hended⟩
      · cases hdrains' : s''.drains with
        | true => exact .inl (hdraining.snoc hstep ⟨hok, hdrains'⟩)
        | false =>
          have hstill := (hdraining.draining hrun hdrains).1
          have hempty :=
            pending_of_drained (hrun.append path).delivering hstill hstep hok hdrains'
          exact .inr ⟨later, s', m, [], s'', rfl, hdraining, hstep, hdrains', hempty⟩
      · exact .inr ⟨drain, last, m₀, rest ++ [(s', m)], s₁, by simp, hended⟩
  refine hcases.resolve_left fun hdraining => ?_
  have hbounded := hdraining.resumes_bounded hrun hdrains
  omega

/-! ### What a run says about events -/

/-- Events are delivered exactly once and in order. -/
structure Delivery (past : History κ) (s : Host κ) : Prop where
  /-- A send is accepted exactly if the event is owned, was created and not released since, and
  does not wait. -/
  accepted_iff : ∀ {m handle source readAt},
    s.performed? m = some (.send handle source, readAt) →
      (s.accepted? m = some handle.key ↔ s.scheduler.owns handle.owner = true ∧
        Live past handle.key ∧ handle.key ∉ s.scheduler.state.eventQueue.pending)
  /-- A send that is refused is over and has changed nothing. -/
  refused : ∀ {i handle source readAt},
    s.performed? (.perform i) = some (.send handle source, readAt) →
      s.accepted? (.perform i) = none →
        s.step (.perform i) = some { s with inFlight := s.inFlight.eraseIdx i }
  /-- Popped events and the queue are the accepted sends, in order, without those that were
  withdrawn. -/
  fifo : log popped? past ++ s.scheduler.state.eventQueue.pending = sends past
  /-- No event waits twice. -/
  nodup : s.scheduler.state.eventQueue.pending.Nodup
  /-- What is popped is the oldest event that waits. It has its callback called in the same
  step, while no other event's callback is out. -/
  popped : ∀ {m key}, s.popped? m = some key →
    s.scheduler.state.eventQueue.pending.head? = some key ∧ s.running? = none ∧
      ∃ callback, createdWith past key = some callback ∧ s.called? m = some (key, callback)
  /-- Callbacks are called for popped events only, once for each. -/
  called : (log called? past).map Prod.fst = log popped? past
  /-- The callback of each popped event has returned, in order, or is the one that is out. -/
  returned : log popped? past = log returned? past ++ (s.running?.map Prod.fst).toList
  /-- A drain can always go on. -/
  proceeds : s.drains = true → (s.step .resume).isSome = true
  /-- A drain ends, with the queue empty, before it has taken more steps than two for each event
  that waits or is sent meanwhile, and one for a callback that is out. -/
  drained : ∀ {later s'}, s.drains = true → Path Unnested past s later s' →
    2 * (s.scheduler.state.eventQueue.pending.length + (log accepted? later).length) + 1
        < later.countP (fun step => step.2.resumes) →
      ∃ drain last m rest s'', later = drain ++ (last, m) :: rest ∧
        Path Draining past s drain last ∧ last.step m = some s'' ∧ s''.drains = false ∧
        s''.scheduler.state.eventQueue.pending = []

private theorem step_perform_of_refused {i : Nat} {handle : EventHandle} {source : WakeSource}
    {readAt : Nat} (hperformed : s.performed? (.perform i) = some (.send handle source, readAt))
    (hrefused : s.accepted? (.perform i) = none) :
    s.step (.perform i) = some { s with inFlight := s.inFlight.eraseIdx i } := by
  obtain ⟨j, hj, hi⟩ := performed?_eq_some hperformed
  cases hj
  have hsend : s.scheduler.send handle source = ({}, s.scheduler) :=
    Scheduler.send_of_refused fun hpushes => by
      simp [accepted?, hperformed, hpushes] at hrefused
  simp [step, hi, performAt, Scheduler.perform, hsend]

/-- What a drain pops, its callback is called. -/
private theorem called?_of_popped? {key : Key} (h : Delivering past s)
    (hpopped : s.popped? m = some key) :
    s.scheduler.state.eventQueue.pending.head? = some key ∧ s.running? = none ∧
      ∃ callback, createdWith past key = some callback ∧ s.called? m = some (key, callback) := by
  have hdrain : ∃ events readAt, s.resumed? m = some (.drain events, readAt) := by
    simp only [popped?] at hpopped
    split at hpopped
    · next events readAt hresumed => exact ⟨events, readAt, hresumed⟩
    · cases hpopped
  obtain ⟨events, readAt, hresumed⟩ := hdrain
  obtain ⟨rfl, rest, hpasses⟩ := resumed?_eq_some hresumed
  obtain rfl := h.passes_eq hpasses
  rw [h.popped?_of_drain hpasses] at hpopped
  obtain ⟨rest, hpending⟩ := List.head?_eq_some_iff.mp hpopped
  exact ⟨hpopped, by simp [running?, hpasses, Frame.running?], h.called?_of_drain hpasses hpending⟩

/-- **Events are delivered exactly once and in order** on every run without nested passes. -/
theorem delivers (h : Run c Unnested past s) : Delivery past s := by
  have hdelivering := h.delivering
  constructor
  · intro m handle source readAt hperformed
    have hpushes : s.accepted? m = some handle.key ↔
        (s.scheduler.send handle source).2.state.eventQueue.pending
          = s.scheduler.state.eventQueue.pending ++ [handle.key] := by
      simp [accepted?, hperformed]
    rw [hpushes, Scheduler.send_pushes_iff, hdelivering.sound.acceptsSend_iff,
      ← h.eventLive_iff, State.EventLive, and_comm (a := handle.key ∉ _)]
  · exact step_perform_of_refused
  · exact hdelivering.fifo
  · exact hdelivering.sound.nodup
  · exact called?_of_popped? hdelivering
  · exact hdelivering.called
  · exact hdelivering.returned
  · intro hdrains
    rcases passes_of_drains hdelivering hdrains with ⟨events, readAt, hpasses⟩ |
      ⟨events, key, callback, readAt, hpasses⟩ <;> simp [step, hpasses]
  · exact fun hdrains hpath hmany => hpath.drained h hdrains hmany

/-- An event that is sent twice before a pass, and once more while its callback is out, runs
twice. -/
theorem delivers_resent_event :
    ∃ (past : History Nat) (s : Host Nat), Run {} Unnested past s ∧
      sends past = [⟨0, 0⟩, ⟨0, 0⟩] ∧ (log called? past).map Prod.fst = [⟨0, 0⟩, ⟨0, 0⟩] := by
  obtain ⟨past, s, hrun, hsends, hpending⟩ :
      ∃ (past : History Nat) (s : Host Nat), Run {} Unnested past s ∧
        sends past = [⟨0, 0⟩, ⟨0, 0⟩] ∧ s.scheduler.state.eventQueue.pending = [] :=
    ⟨_, _, Run.of_play ⟨0⟩ 0
      [.ask (.createEvent 10), .perform 0, .ask (.send ⟨⟨0⟩, ⟨0, 0⟩⟩ .thread), .perform 0,
       .ask (.send ⟨⟨0⟩, ⟨0, 0⟩⟩ .interrupt), .perform 0, .enter, .resume,
       .ask (.send ⟨⟨0⟩, ⟨0, 0⟩⟩ .thread), .perform 0, .resume, .resume, .resume, .resume] rfl,
      rfl, rfl⟩
  have hfifo := (delivers hrun).fifo
  rw [hpending, List.append_nil] at hfifo
  exact ⟨past, s, hrun, hsends, by rw [(delivers hrun).called, hfifo, hsends]⟩

end Host

end CoopScheduler
