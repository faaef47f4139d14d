import CoopScheduler.Proofs.LiveEvents

/-!
# What a history says about events

* `Host.sends` are the accepted sends in order, without those that were withdrawn because their
  event was released while it waited.
* `Host.createdWith` is the callback with which an event was created, `Host.running?` the event
  whose callback is out.

As long as passes are not nested, all this belongs together with the records of the event tasks
and their queue (`Host.Delivering`), on every run (`Host.Run.delivering`). The proof has one lemma
for each request about events and each half of the run of an event.
-/

namespace CoopScheduler

variable {κ : Type}

namespace Host

/-! ### What a history says about events -/

/-- The event whose callback is out, with that callback. -/
def Frame.running? : Frame κ → Option (Key × Option κ)
  | .ready (.eventReturned _ key callback) _ => some (key, callback)
  | _ => none

/-- The event whose callback is out, with that callback. -/
def running? (s : Host κ) : Option (Key × Option κ) :=
  s.passes.findSome? Frame.running?

/-- The event that a move puts into the queue. -/
def accepted? (s : Host κ) (m : Move κ) : Option Key :=
  match s.performed? m with
  | some (.send handle source, _) =>
    if (s.scheduler.send handle source).2.state.eventQueue.pending
        = s.scheduler.state.eventQueue.pending ++ [handle.key] then
      some handle.key
    else
      none
  | _ => none

/-- The event that a move releases while it waits. -/
def withdrawn? (s : Host κ) (m : Move κ) : Option Key :=
  (s.released? m).filter fun key => key ∈ s.scheduler.state.eventQueue.pending

/-- The event that a move takes off the queue. -/
def popped? (s : Host κ) (m : Move κ) : Option Key :=
  match s.resumed? m with
  | some (.drain _, _) => s.scheduler.state.popEvent.1.map Prod.fst
  | _ => none

/-- The event whose callback a move calls, with that callback. -/
def called? (s : Host κ) (m : Move κ) : Option (Key × κ) :=
  match s.resumed? m with
  | none => none
  | some (activation, _) =>
    match (s.scheduler.resume activation).1 with
    | .call callback (.eventReturned _ key _) => some (key, callback)
    | _ => none

/-- The event whose callback has returned when a move is made. -/
def returned? (s : Host κ) (m : Move κ) : Option Key :=
  match s.resumed? m with
  | some (.eventReturned _ key _, _) => some key
  | _ => none

/-- The callback with which an event was created. -/
def createdWith (past : History κ) (key : Key) : Option κ :=
  ((log created? past).reverse.find? (·.1 = key)).map Prod.snd

/-- What a move does to the sends: one may be withdrawn, which is the last one of its event, and
one may be accepted. -/
def reviseSends (s : Host κ) (m : Move κ) (sends : List Key) : List Key :=
  (match s.withdrawn? m with
    | none => sends
    | some key => (sends.reverse.erase key).reverse) ++ (s.accepted? m).toList

/-- The accepted sends that were not withdrawn, in order. -/
def sends (past : History κ) : List Key :=
  past.foldl (fun sends (s, m) => s.reviseSends m sends) []

@[simp]
theorem sends_concat (past : History κ) (s : Host κ) (m : Move κ) :
    sends (past ++ [(s, m)]) = s.reviseSends m (sends past) := by
  rw [sends, List.foldl_append]
  rfl

theorem createdWith_concat (past : History κ) (s : Host κ) (m : Move κ) (key : Key) :
    createdWith (past ++ [(s, m)]) key
      = (((s.created? m).filter fun c => c.1 = key).map Prod.snd).or (createdWith past key) := by
  rw [createdWith, log_concat]
  cases h : s.created? m with
  | none => simp [createdWith]
  | some c => by_cases hc : c.1 = key <;> simp [createdWith, hc, Option.filter]

/-! ### How it belongs together -/

/-- What holds as long as passes are not nested. -/
structure Delivering (past : History κ) (s : Host κ) : Prop where
  unnested : s.passes.length ≤ 1
  sound : s.scheduler.state.EventsSound (s.running?.map Prod.fst) (createdWith past)
  /-- The callback that is out is the one with which its event was created. -/
  held : ∀ key callback, s.running? = some (key, callback) → callback = createdWith past key
  called : (log called? past).map Prod.fst = log popped? past
  returned : log popped? past = log returned? past ++ (s.running?.map Prod.fst).toList
  fifo : log popped? past ++ s.scheduler.state.eventQueue.pending = sends past

variable {c : Config} {past : History κ} {s s' : Host κ} {m : Move κ}

/-- A move that makes no request and lets no pass go on says nothing about events. -/
theorem Delivering.of_apart (h : Delivering past s) (hperformed : s.performed? m = none)
    (hresumed : s.resumed? m = none) (hstate : s'.scheduler.state = s.scheduler.state)
    (hrunning : s'.running? = s.running?) (hpasses : s'.passes.length ≤ 1) :
    Delivering (past ++ [(s, m)]) s' := by
  have hcreated : createdWith (past ++ [(s, m)]) = createdWith past := by
    funext key
    simp [createdWith_concat, created?, hperformed]
  constructor
  · exact hpasses
  · rw [hstate, hrunning, hcreated]
    exact h.sound
  · rw [hrunning, hcreated]
    exact h.held
  · simpa [called?, popped?, hresumed] using h.called
  · simpa [returned?, popped?, hresumed, hrunning] using h.returned
  · simpa [popped?, hresumed, hstate, reviseSends, withdrawn?, released?, accepted?, hperformed]
      using h.fifo

/-- Withdrawing the last send of an event that waits takes the event off the queue. -/
theorem erase_reverse_append {popped pending : List Key} {key : Key}
    (hnodup : pending.Nodup) (hmem : key ∈ pending) :
    ((popped ++ pending).reverse.erase key).reverse = popped ++ pending.erase key := by
  have hreverse : pending.reverse.Nodup := (List.reverse_perm pending).nodup_iff.mpr hnodup
  rw [List.reverse_append, List.erase_append_left _ (List.mem_reverse.mpr hmem),
    List.reverse_append, List.reverse_reverse, hreverse.erase_eq_filter, hnodup.erase_eq_filter,
    List.filter_reverse, List.reverse_reverse]

/-- A request, by what it does to the records and the queue. -/
private theorem Delivering.of_request (h : Delivering past s) (hresumed : s.resumed? m = none)
    (hpasses : s'.passes = s.passes)
    (hsound : s'.scheduler.state.EventsSound (s.running?.map Prod.fst)
      (createdWith (past ++ [(s, m)])))
    (hheld : ∀ key callback, s.running? = some (key, callback) →
      createdWith (past ++ [(s, m)]) key = createdWith past key)
    (hfifo : log popped? past ++ s'.scheduler.state.eventQueue.pending
      = s.reviseSends m (log popped? past ++ s.scheduler.state.eventQueue.pending)) :
    Delivering (past ++ [(s, m)]) s' := by
  have hrunning : s'.running? = s.running? := by rw [running?, running?, hpasses]
  constructor
  · rw [hpasses]
    exact h.unnested
  · rw [hrunning]
    exact hsound
  · intro key callback hrun
    rw [hrunning] at hrun
    rw [hheld key callback hrun]
    exact h.held key callback hrun
  · simpa [called?, popped?, hresumed] using h.called
  · simpa [returned?, popped?, hresumed, hrunning] using h.returned
  · rw [sends_concat, ← h.fifo, ← hfifo, log_concat, popped?, hresumed]
    simp

/-- A request that creates no event leaves the callbacks of events as they were created. -/
private theorem createdWith_of_none (h : s.created? m = none) :
    createdWith (past ++ [(s, m)]) = createdWith past := by
  funext key
  simp [createdWith_concat, h]

private theorem Delivering.createEvent {callback : κ} {readAt : Nat} (h : Delivering past s)
    (hperformed : s.performed? m = some (.createEvent callback, readAt))
    (hresumed : s.resumed? m = none) (hpasses : s'.passes = s.passes)
    (hstate : s'.scheduler = (s.scheduler.createEvent callback).2) :
    Delivering (past ++ [(s, m)]) s' := by
  have hfifo : log popped? past ++ s'.scheduler.state.eventQueue.pending
      = s.reviseSends m (log popped? past ++ s.scheduler.state.eventQueue.pending) := by
    rw [hstate, s.scheduler.createEvent_eventQueue callback]
    simp [reviseSends, withdrawn?, released?, accepted?, hperformed]
  rcases created?_cases hperformed with ⟨hcreated, hsame⟩ | ⟨key, hcreated, hcreate⟩
  · refine h.of_request hresumed hpasses ?_ (fun key callback _ => ?_) hfifo
    · rw [hstate, hsame, createdWith_of_none hcreated]
      exact h.sound
    · rw [createdWith_of_none hcreated]
  · have hother (other : Key) (hne : other ≠ key) :
        createdWith (past ++ [(s, m)]) other = createdWith past other := by
      simp [createdWith_concat, hcreated, Option.filter, Ne.symm hne]
    have hkey : createdWith (past ++ [(s, m)]) key = some callback := by
      simp [createdWith_concat, hcreated, Option.filter]
    refine h.of_request hresumed hpasses ?_ (fun other held hrun => hother other ?_) hfifo
    · rw [hstate]
      exact h.sound.createEvent hcreate hkey hother
    · -- The event that is running exists, and the new one did not.
      rintro rfl
      obtain ⟨events, hinsert, -⟩ := State.createEvent_eq hcreate
      have hlive := h.sound.isSome_of_running other (by rw [hrun]; rfl)
      rw [Arena.get?_eq_none_of_insert hinsert] at hlive
      cases hlive

private theorem Delivering.send {handle : EventHandle} {source : WakeSource} {readAt : Nat}
    (h : Delivering past s) (hperformed : s.performed? m = some (.send handle source, readAt))
    (hresumed : s.resumed? m = none) (hpasses : s'.passes = s.passes)
    (hstate : s'.scheduler = (s.scheduler.send handle source).2) :
    Delivering (past ++ [(s, m)]) s' := by
  have hcreated : s.created? m = none := by simp [created?, hperformed]
  have hsound : (s.scheduler.send handle source).2.state.EventsSound
      (s.running?.map Prod.fst) (createdWith past) := by
    unfold Scheduler.send
    split
    · exact h.sound.sendEvent handle.key
    · exact h.sound
  refine h.of_request hresumed hpasses ?_ (fun key callback _ => ?_) ?_
  · rw [hstate, createdWith_of_none hcreated]
    exact hsound
  · rw [createdWith_of_none hcreated]
  · rw [hstate]
    by_cases haccepted : (s.scheduler.send handle source).2.state.eventQueue.pending
        = s.scheduler.state.eventQueue.pending ++ [handle.key]
    · simp [reviseSends, withdrawn?, released?, accepted?, hperformed, haccepted]
    · simp [reviseSends, withdrawn?, released?, accepted?, hperformed,
        Scheduler.send_of_refused haccepted]

private theorem Delivering.releaseEvent {handle : EventHandle} {readAt : Nat}
    (h : Delivering past s) (hperformed : s.performed? m = some (.releaseEvent handle, readAt))
    (hresumed : s.resumed? m = none) (hpasses : s'.passes = s.passes)
    (hstate : s'.scheduler = (s.scheduler.releaseEvent handle).2) :
    Delivering (past ++ [(s, m)]) s' := by
  have hcreated : s.created? m = none := by simp [created?, hperformed]
  by_cases howns : s.scheduler.owns handle.owner = true
  · have hnew : s'.scheduler.state = (s.scheduler.state.releaseEvent handle.key).2 := by
      rw [hstate, Scheduler.releaseEvent, if_pos howns]
    refine h.of_request hresumed hpasses ?_ (fun key callback _ => ?_) ?_
    · rw [hnew, createdWith_of_none hcreated]
      exact h.sound.releaseEvent handle.key
    · rw [createdWith_of_none hcreated]
    · rw [hnew, State.releaseEvent_pending_eq _ h.sound.isEventPending]
      by_cases hmem : handle.key ∈ s.scheduler.state.eventQueue.pending
      · have hwithdrawn : s.withdrawn? m = some handle.key := by
          simp [withdrawn?, released?, hperformed, howns, hmem]
        have haccepted : s.accepted? m = none := by simp [accepted?, hperformed]
        simp only [reviseSends, hwithdrawn, haccepted, erase_reverse_append h.sound.nodup hmem]
        simp
      · have hwithdrawn : s.withdrawn? m = none := by
          simp [withdrawn?, released?, hperformed, howns, hmem]
        simp [reviseSends, hwithdrawn, accepted?, hperformed, List.erase_of_not_mem hmem]
  · have hsame : s'.scheduler.state = s.scheduler.state := by
      rw [hstate, Scheduler.releaseEvent, if_neg howns]
    refine h.of_request hresumed hpasses ?_ (fun key callback _ => ?_) ?_
    · rw [hsame, createdWith_of_none hcreated]
      exact h.sound
    · rw [createdWith_of_none hcreated]
    · simp [hsame, reviseSends, withdrawn?, released?, accepted?, hperformed, howns]

private theorem Delivering.perform {op : Operation κ} {readAt : Nat} (h : Delivering past s)
    (hperformed : s.performed? m = some (op, readAt)) (hresumed : s.resumed? m = none)
    (hpasses : s'.passes = s.passes)
    (hstate : s'.scheduler = (s.scheduler.perform op (.ofTime readAt)).2) :
    Delivering (past ++ [(s, m)]) s' := by
  cases hop : op.onEvents with
  | false =>
    have hkept := s.scheduler.perform_eventsKept (.ofTime readAt) hop
    obtain ⟨hcreated, hreleased⟩ := created?_released?_of_not_onEvents hperformed hop
    have haccepted : s.accepted? m = none := by
      cases op <;> simp_all [Operation.onEvents, accepted?]
    refine h.of_request hresumed hpasses ?_ (fun key callback _ => ?_) ?_
    · rw [hstate, createdWith_of_none hcreated]
      exact h.sound.of_events_eq hkept.events_eq hkept.eventQueue_eq
    · rw [createdWith_of_none hcreated]
    · rw [hstate]
      simp [hkept.eventQueue_eq, reviseSends, withdrawn?, hreleased, haccepted]
  | true =>
    cases op with
    | createEvent callback => exact h.createEvent hperformed hresumed hpasses hstate
    | send handle source => exact h.send hperformed hresumed hpasses hstate
    | releaseEvent handle => exact h.releaseEvent hperformed hresumed hpasses hstate
    | _ => cases hop

/-! ### Steps of a pass -/

/-- A step of a pass that has nothing to do with events. -/
private theorem Delivering.of_resumed (h : Delivering past s) (hpopped : s.popped? .resume = none)
    (hcalled : s.called? .resume = none) (hreturned : s.returned? .resume = none)
    (hrunning : s.running? = none) (hrunning' : s'.running? = none)
    (hpasses : s'.passes.length ≤ 1)
    (hevents : s'.scheduler.state.events = s.scheduler.state.events)
    (hqueue : s'.scheduler.state.eventQueue = s.scheduler.state.eventQueue) :
    Delivering (past ++ [(s, .resume)]) s' := by
  have hsound := h.sound
  have hreturned' := h.returned
  rw [hrunning] at hsound hreturned'
  constructor
  · exact hpasses
  · rw [hrunning', createdWith_of_none rfl]
    exact hsound.of_events_eq hevents hqueue
  · rw [hrunning']
    exact nofun
  · simpa [hcalled, hpopped] using h.called
  · simpa [hpopped, hreturned, hrunning'] using hreturned'
  · rw [hqueue]
    simpa [hpopped, reviseSends, withdrawn?, released?, accepted?, performed?] using h.fifo

/-- While nothing runs, the records tell so. -/
private theorem Delivering.sound_of_drain {events readAt : Nat} (h : Delivering past s)
    (hpasses : s.passes = [.ready (.drain events) readAt]) :
    s.scheduler.state.EventsSound none (createdWith past) := by
  have hrunning : s.running? = none := by simp [running?, hpasses, Frame.running?]
  have hsound := h.sound
  rwa [hrunning] at hsound

/-- The next event to be popped is the oldest one that waits. -/
theorem Delivering.popped?_of_drain {events readAt : Nat} (h : Delivering past s)
    (hpasses : s.passes = [.ready (.drain events) readAt]) :
    s.popped? .resume = s.scheduler.state.eventQueue.pending.head? := by
  simp only [popped?, resumed?, hpasses]
  cases hpending : s.scheduler.state.eventQueue.pending with
  | nil => simp [State.popEvent_of_nil hpending]
  | cons key rest => simp [(h.sound_of_drain hpasses).popEvent_eq hpending]

/-- The next event to be popped has its callback called. -/
theorem Delivering.called?_of_drain {events readAt : Nat} {key : Key} {rest : List Key}
    (h : Delivering past s) (hpasses : s.passes = [.ready (.drain events) readAt])
    (hpending : s.scheduler.state.eventQueue.pending = key :: rest) :
    ∃ callback, createdWith past key = some callback ∧
      s.called? .resume = some (key, callback) := by
  obtain ⟨callback, hcreated, hresume⟩ :=
    Scheduler.resume_drain_of_cons (h.sound_of_drain hpasses) hpending events
  exact ⟨callback, hcreated, by simp [called?, resumed?, hpasses, hresume]⟩

/-- The step that takes an event off the queue. -/
private theorem Delivering.drain {events readAt : Nat} (h : Delivering past s)
    (hpasses : s.passes = [.ready (.drain events) readAt]) :
    Delivering (past ++ [(s, .resume)])
      { s with
        scheduler := (s.scheduler.resume (.drain events)).2
        passes := framesAfter (s.scheduler.resume (.drain events)).1 readAt } := by
  have hrunning : s.running? = none := by simp [running?, hpasses, Frame.running?]
  have hreturned : s.returned? .resume = none := by simp [returned?, resumed?, hpasses]
  have hpopped := h.popped?_of_drain hpasses
  have hapart : s.withdrawn? .resume = none ∧ s.accepted? .resume = none := ⟨rfl, rfl⟩
  cases hpending : s.scheduler.state.eventQueue.pending with
  | nil =>
    rw [hpending, List.head?_nil] at hpopped
    have hresume := Scheduler.resume_drain_of_nil hpending events
    rw [hresume]
    refine h.of_resumed hpopped ?_ hreturned hrunning ?_ ?_ rfl rfl
    · simp [called?, resumed?, hpasses, hresume]
    · simp [running?, framesAfter, Frame.running?]
    · simp [framesAfter]
  | cons key rest =>
    rw [hpending, List.head?_cons] at hpopped
    have hsound := h.sound_of_drain hpasses
    have hpopSound := hsound.popEvent hpending
    rw [hsound.popEvent_eq hpending] at hpopSound
    obtain ⟨callback, hcreated, hresume⟩ := Scheduler.resume_drain_of_cons hsound hpending events
    have hcalled : s.called? .resume = some (key, callback) := by
      simp [called?, resumed?, hpasses, hresume]
    rw [hresume]
    refine ⟨Nat.le_refl 1, ?_, ?_, ?_, ?_, ?_⟩
    · rw [createdWith_of_none rfl]
      exact hpopSound
    · intro other held hrun
      cases hrun
      rw [createdWith_of_none rfl, hcreated]
    · simpa [hcalled, hpopped] using h.called
    · have hall := h.returned
      rw [hrunning] at hall
      simpa [hpopped, hreturned, running?, framesAfter, Frame.running?] using hall
    · have hfifo := h.fifo
      rw [hpending] at hfifo
      simpa [hpopped, reviseSends, hapart, State.startEvent] using hfifo

/-- The step that puts an event back. -/
private theorem Delivering.eventReturned {events readAt : Nat} {key : Key} {callback : Option κ}
    (h : Delivering past s)
    (hpasses : s.passes = [.ready (.eventReturned events key callback) readAt]) :
    Delivering (past ++ [(s, .resume)])
      { s with
        scheduler := (s.scheduler.resume (.eventReturned events key callback)).2
        passes :=
          framesAfter (s.scheduler.resume (.eventReturned events key callback)).1 readAt } := by
  have hresumed : s.resumed? .resume = some (.eventReturned events key callback, readAt) := by
    simp [resumed?, hpasses]
  have hrunning : s.running? = some (key, callback) := by
    simp [running?, hpasses, Frame.running?]
  have hsound := h.sound
  have hreturned := h.returned
  rw [hrunning] at hsound hreturned
  have hcallback := h.held key callback hrunning
  have hpopped : s.popped? .resume = none := by simp [popped?, hresumed]
  have hcalled : s.called? .resume = none := by simp [called?, hresumed, Scheduler.resume]
  have hreturned' : s.returned? .resume = some key := by simp [returned?, hresumed]
  refine ⟨Nat.le_refl 1, ?_, fun other held hrun => ?_, ?_, ?_, ?_⟩
  · rw [createdWith_of_none rfl, hcallback]
    exact hsound.finishEvent
  · cases hrun
  · simpa [hcalled, hpopped] using h.called
  · simpa [hpopped, hreturned', running?, framesAfter, Frame.running?, Scheduler.resume]
      using hreturned
  · have hqueue := State.finishEvent_eventQueue s.scheduler.state key callback
    have hfifo := h.fifo
    simpa [hpopped, reviseSends, withdrawn?, released?, accepted?, performed?, Scheduler.resume,
      hqueue] using hfifo

private theorem Delivering.goOn {activation : Activation κ} {readAt : Nat}
    (h : Delivering past s) (hpasses : s.passes = [.ready activation readAt]) :
    Delivering (past ++ [(s, .resume)])
      { s with
        scheduler := (s.scheduler.resume activation).2
        passes := framesAfter (s.scheduler.resume activation).1 readAt } := by
  have hresumed : s.resumed? .resume = some (activation, readAt) := by simp [resumed?, hpasses]
  cases activation with
  | drain events => exact h.drain hpasses
  | eventReturned events key callback => exact h.eventReturned hpasses
  | evaluate events now =>
    have hrunning : s.running? = none := by simp [running?, hpasses, Frame.running?]
    obtain ⟨hevents, hqueue⟩ := s.scheduler.state.evaluate_events s.scheduler.config now
    have hstate := s.scheduler.resume_evaluate_state events now
    refine h.of_resumed (by simp [popped?, hresumed]) ?_ (by simp [returned?, hresumed]) hrunning
      ?_ ?_ ?_ ?_
    · simp only [called?, hresumed, Scheduler.resume]
      rcases s.scheduler.state.evaluate s.scheduler.config now with
        ⟨⟨key, _ | callback⟩ | _ | wait, state⟩ <;> rfl
    · simp only [running?, Scheduler.resume]
      rcases s.scheduler.state.evaluate s.scheduler.config now with
        ⟨⟨key, _ | callback⟩ | _ | wait, state⟩ <;> rfl
    · simp only [Scheduler.resume]
      rcases s.scheduler.state.evaluate s.scheduler.config now with
        ⟨⟨key, _ | callback⟩ | _ | wait, state⟩ <;> simp [framesAfter, Effect.callIfPresent]
    · rw [hstate]
      exact hevents
    · rw [hstate]
      exact hqueue
  | settle events key callback after =>
    have hrunning : s.running? = none := by simp [running?, hpasses, Frame.running?]
    have hkept := s.scheduler.state.finishTimer_eventsKept key callback after
    exact h.of_resumed (by simp [popped?, hresumed]) (by simp [called?, hresumed, Scheduler.resume])
      (by simp [returned?, hresumed]) hrunning rfl (Nat.le_refl 1) hkept.events_eq
      hkept.eventQueue_eq
  | timerReturned events key callback =>
    have hrunning : s.running? = none := by simp [running?, hpasses, Frame.running?]
    exact h.of_resumed (by simp [popped?, hresumed]) (by simp [called?, hresumed, Scheduler.resume])
      (by simp [returned?, hresumed]) hrunning rfl (Nat.le_refl 1) rfl rfl
  | woken events wait =>
    have hrunning : s.running? = none := by simp [running?, hpasses, Frame.running?]
    exact h.of_resumed (by simp [popped?, hresumed]) (by simp [called?, hresumed, Scheduler.resume])
      (by simp [returned?, hresumed]) hrunning rfl (Nat.zero_le 1) rfl rfl
  | ended pass =>
    have hrunning : s.running? = none := by simp [running?, hpasses, Frame.running?]
    exact h.of_resumed (by simp [popped?, hresumed]) (by simp [called?, hresumed, Scheduler.resume])
      (by simp [returned?, hresumed]) hrunning rfl (Nat.zero_le 1) rfl rfl

/-- Without nesting there is one pass at most. -/
theorem Delivering.passes_eq (h : Delivering past s) {frame : Frame κ} {rest : List (Frame κ)}
    (hpasses : s.passes = frame :: rest) : rest = [] := by
  have hlength := h.unnested
  rw [hpasses, List.length_cons] at hlength
  exact List.eq_nil_of_length_eq_zero (by omega)

/-- **Each step keeps it up**, if it nests no pass. -/
theorem Delivering.step (h : Delivering past s) (hwf : s.WellFormed c)
    (hstep : s.step m = some s') (hok : s.nests m = false) : Delivering (past ++ [(s, m)]) s' := by
  cases Step.of_step hstep with
  | perform hi => exact h.perform (by simp [performed?, hi]) rfl rfl rfl
  | enter =>
    have hpasses : s.passes = [] := by simpa [nests] using hok
    have hrunning : s.running? = none := by simp [running?, hpasses]
    refine h.of_apart rfl rfl rfl ?_ ?_
    · rw [hrunning, running?, hpasses]
      rfl
    · simp [hpasses]
  | read hpasses =>
    obtain rfl := h.passes_eq hpasses
    refine h.of_apart rfl (by simp [resumed?, hpasses]) rfl ?_ (Nat.le_refl 1)
    cases hwf.passes _ (hpasses ▸ List.mem_cons_self) with
    | readEvaluate events => simp [running?, hpasses, Frame.running?]
    | readSettle events key callback => simp [running?, hpasses, Frame.running?]
  | unparked hpasses =>
    obtain rfl := h.passes_eq hpasses
    refine h.of_apart rfl (by simp [resumed?, hpasses]) rfl ?_ (Nat.le_refl 1)
    cases hwf.passes _ (hpasses ▸ List.mem_cons_self) with
    | parking events wait readAt => simp [running?, hpasses, Frame.running?]
  | goOn hpasses =>
    obtain rfl := h.passes_eq hpasses
    rw [List.append_nil]
    exact h.goOn hpasses
  | _ => exact h.of_apart rfl rfl rfl rfl h.unnested

/-- On a run without nested passes it holds throughout. -/
theorem Run.delivering (h : Run c Unnested past s) : Delivering past s := by
  refine h.induct (fun id time => ?_) fun hwf hI hstep hok => hI.step hwf hstep hok
  constructor
  · exact Nat.zero_le 1
  · refine ⟨List.nodup_nil, ?_, ?_, fun key task hget => ?_⟩
    · simp [create, Scheduler.create, State.ofConfig]
    · simp [create, running?]
    · simp [create, Scheduler.create, State.ofConfig, Arena.get?] at hget
  · simp [create, running?]
  all_goals rfl

end Host

end CoopScheduler
