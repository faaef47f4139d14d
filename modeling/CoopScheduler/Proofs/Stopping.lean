import CoopScheduler.Proofs.Progress

/-!
# The dispatch loop stops

The loop of a scheduler tests its mark before each pass, and an order to stop comes in two halves:
it sets the mark, and then it wakes the context. `DispatchLoop` is a host together with its loop;
the halves of orders to stop, the tests, the steps of the pass in progress and all that other
contexts do come in any order.

* Once the mark is set, it stays, and the loop begins no pass (`DispatchLoop.Leads.no_pass`).
* Once the context was woken too, either the token of that wake is still there or the pass in
  progress has parked and woken up (`DispatchLoop.WakeKept`). Each step keeps this up.
* So **an order to stop is never lost** (`DispatchLoop.stop_never_lost`): at most one park follows,
  it ends at once, and the loop returns as soon as the pass in progress is over.
-/

namespace CoopScheduler

variable {κ : Type}

/-! ### The mark -/

namespace Scheduler

/-- A request touches nothing but the state. -/
theorem perform_eq_state (s : Scheduler κ) (op : Operation κ) (now : Tick) :
    (s.perform op now).2 = { s with state := (s.perform op now).2.state } := by
  cases op <;>
    simp only [perform, addTimer, reschedule, removeTimer, rearm, releaseTimer, createEvent, send,
      releaseEvent] <;>
    split <;> try split
  all_goals rfl

/-- A step of a pass touches nothing but the state. -/
theorem resume_eq_state (s : Scheduler κ) (activation : Activation κ) :
    (s.resume activation).2 = { s with state := (s.resume activation).2.state } := by
  unfold resume
  split <;> try split
  all_goals rfl

end Scheduler

namespace Host

variable {c : Config} {s s' : Host κ} {m : Move κ}

/-- No step touches the mark that the dispatch loop was started. -/
theorem step_started (h : s.step m = some s') :
    s'.scheduler.started = s.scheduler.started := by
  rcases step_scheduler h with ⟨op, readAt, -, -, heq⟩ | ⟨activation, readAt, -, -, heq⟩ |
    ⟨-, -, heq⟩
  · rw [heq, Scheduler.perform_eq_state]
  · rw [heq, Scheduler.resume_eq_state]
  · rw [heq]

/-- The mark of the dispatch loop is never cleared. -/
theorem step_shutdown (h : s.step m = some s') (hshutdown : s.scheduler.shutdown = true) :
    s'.scheduler.shutdown = true := by
  cases Step.of_step h with
  | @perform i op readAt hi =>
    have hperform := congrArg Scheduler.shutdown (s.scheduler.perform_eq_state op (.ofTime readAt))
    exact hperform.trans hshutdown
  | @goOn activation readAt rest hpasses =>
    have hresume := congrArg Scheduler.shutdown (s.scheduler.resume_eq_state activation)
    exact hresume.trans hshutdown
  | stop => rfl
  | _ => exact hshutdown

/-- An order to stop sets the mark first. -/
theorem step_stopping (h : s.step m = some s')
    (hstopping : .stopping ∈ s.inFlight → s.scheduler.shutdown = true)
    (hmem : .stopping ∈ s'.inFlight) : s'.scheduler.shutdown = true := by
  by_cases hbefore : .stopping ∈ s.inFlight
  · exact step_shutdown h (hstopping hbefore)
  · cases Step.of_step h with
    | stop => rfl
    | ask op =>
      rcases List.mem_append.mp hmem with hmem | hmem
      · exact absurd hmem hbefore
      · cases List.mem_singleton.mp hmem
    | unpark hi _ => exact absurd (List.mem_of_mem_eraseIdx hmem) hbefore
    | perform hi =>
      simp only [performAt] at hmem
      split at hmem
      · exact absurd (List.mem_of_mem_eraseIdx hmem) hbefore
      · rcases List.mem_or_eq_of_mem_set hmem with hmem | heq
        · exact absurd hmem hbefore
        · cases heq
    | _ => exact absurd hmem hbefore

/-! ### Parks -/

/-- Whether the pass is parked. -/
def Frame.isParked : Frame κ → Bool
  | .parking .. => true
  | _ => false

/-- Whether the pass was parked and has nothing left to do but to note that it is awake. -/
def Frame.isAwake : Frame κ → Bool
  | .ready (.woken ..) _ => true
  | _ => false

/-- How many passes are parked. -/
def parkedPasses (s : Host κ) : Nat :=
  s.passes.countP Frame.isParked

/-- Whether a move lets a pass park. -/
def parks (s : Host κ) (m : Move κ) : Bool :=
  (s.parked? m).isSome

/-- What a step of the only pass does to parks: it begins one or none, ends the one there is, or was
behind it. -/
inductive ParkStep (s : Host κ) (m : Move κ) (s' : Host κ) : Prop where
  | kept (hparked : s'.parkedPasses = s.parkedPasses + (s.parks m).toNat)
      (htoken : s.parker.token = true → s'.parker.token = true)
      (hawake : s.passes.all Frame.isAwake = true →
        s.parks m = false ∧ s'.passes.all Frame.isAwake = true)
  | unparked (hbefore : s.parkedPasses = 1) (hparks : s.parks m = false)
      (hawake : s'.passes.all Frame.isAwake = true)
      (hasleep : s.passes.all Frame.isAwake = false)

/-- **All that a step may do to parks**, if no pass begins. -/
theorem step_park (hwf : s.WellFormed c) (hpasses : s.passes.length ≤ 1)
    (h : s.step m = some s') (hmove : m ≠ .enter) :
    s'.passes.length ≤ 1 ∧ s.ParkStep m s' := by
  have hquiet (hresumed : s.resumed? m = none) : s.parks m = false := by
    simp [parks, parked?, hresumed]
  have halone {frame : Frame κ} {rest : List (Frame κ)} (hframes : s.passes = frame :: rest) :
      rest = [] := by
    rw [hframes, List.length_cons] at hpasses
    exact List.eq_nil_of_length_eq_zero (by omega)
  cases Step.of_step h with
  | enter => exact absurd rfl hmove
  | read hreading =>
    obtain rfl := halone hreading
    have hparks := hquiet (by simp [resumed?, hreading])
    refine ⟨Nat.le_refl 1, ?_⟩
    cases hwf.passes _ (hreading ▸ List.mem_cons_self) with
    | readEvaluate | readSettle =>
      exact .kept (by simp [parkedPasses, hreading, hparks, Frame.isParked]) id
        (by simp [hreading, Frame.isAwake])
  | unparked hparking =>
    obtain rfl := halone hparking
    have hparks := hquiet (by simp [resumed?, hparking])
    refine ⟨Nat.le_refl 1, ?_⟩
    cases hwf.passes _ (hparking ▸ List.mem_cons_self) with
    | parking =>
      exact .unparked (by simp [parkedPasses, hparking, Frame.isParked]) hparks
        (by simp [Frame.isAwake]) (by simp [hparking, Frame.isAwake])
  | @goOn activation readAt rest hready =>
    obtain rfl := halone hready
    have hresumed : s.resumed? .resume = some (activation, readAt) := by simp [resumed?, hready]
    rw [List.append_nil]
    refine ⟨?_, .kept ?_ id fun hawake => ?_⟩
    · cases (s.scheduler.resume activation).1 <;> simp [framesAfter]
    · cases heffect : (s.scheduler.resume activation).1 <;>
        simp [parkedPasses, hready, heffect, framesAfter, parks, parked?, hresumed, Frame.isParked]
    · simp only [hready, List.all_cons, List.all_nil, Bool.and_true] at hawake
      cases activation with
      | woken events wait => simp [parks, parked?, hresumed, Scheduler.resume, framesAfter]
      | _ => cases hawake
  | _ =>
    exact ⟨hpasses, .kept (by simp [hquiet rfl, parkedPasses, performAt])
      (by simp [performAt, Parker.unpark]) (by simp [hquiet rfl, performAt])⟩

/-- What has become of a wake, if the pass in progress was parked or has parked `parks` times since:
the token waits, or one park has taken it. -/
inductive WakeKept (parks : Nat) (s : Host κ) : Prop where
  | waiting (htoken : s.parker.token = true) (hparks : parks = s.parkedPasses)
  | taken (hawake : s.passes.all Frame.isAwake = true) (hparks : parks ≤ 1)

theorem WakeKept.step {parks : Nat} (h : s.WakeKept parks) (hwf : s.WellFormed c)
    (hpasses : s.passes.length ≤ 1) (hstep : s.step m = some s') (hmove : m ≠ .enter) :
    s'.WakeKept (parks + (s.parks m).toNat) := by
  cases (step_park hwf hpasses hstep hmove).2 with
  | kept hparked htoken hawake =>
    cases h with
    | waiting hwaits hparks => exact .waiting (htoken hwaits) (by rw [hparked, hparks])
    | taken hawakeBefore hparks =>
      obtain ⟨hnone, hstill⟩ := hawake hawakeBefore
      exact .taken hstill (by simpa [hnone] using hparks)
  | unparked hbefore hnone hawake hasleep =>
    cases h with
    | waiting hwaits hparks => exact .taken hawake (by simp [hnone, hparks, hbefore])
    | taken hawakeBefore hparks => simp [hawakeBefore] at hasleep

/-- Since the context was woken, it has parked at most once. -/
theorem WakeKept.parks_le {parks : Nat} (h : s.WakeKept parks) (hpasses : s.passes.length ≤ 1) :
    parks ≤ 1 := by
  cases h with
  | waiting htoken hparks =>
    have hcount : s.parkedPasses ≤ s.passes.length := List.countP_le_length
    omega
  | taken hawake hparks => exact hparks

/-- A pass that is parked still has the token. -/
theorem WakeKept.woken {parks : Nat} (h : s.WakeKept parks) {frame : Frame κ}
    (hmem : frame ∈ s.passes) (hparked : frame.isParked = true) : s.parker.token = true := by
  cases h with
  | waiting htoken hparks => exact htoken
  | taken hawake hparks =>
    have hframe := List.all_eq_true.mp hawake frame hmem
    cases frame with
    | parking wait next readAt => cases hframe
    | _ => cases hparked

end Host

/-! ### The loop -/

/-- Where a dispatch loop stands. -/
inductive LoopPhase where
  /-- It was not started. -/
  | idle
  /-- It runs passes. -/
  | running
  /-- It was told to stop and has returned. -/
  | returned
deriving DecidableEq

/-- What may happen next to a dispatch loop and around it. -/
inductive LoopMove (κ : Type) where
  /-- A caller starts the loop on a context of its own. -/
  | start (stack : Nat) (failure? : Option String)
  /-- A caller starts the loop on its own context. -/
  | startOnCaller
  /-- The loop tests its mark, and begins a pass or returns. -/
  | test
  /-- Anything else, except that a pass begins. -/
  | act (move : Host.Move κ)

/-- Whether a caller starts the loop. -/
def LoopMove.starts : LoopMove κ → Bool
  | .start .. | .startOnCaller => true
  | _ => false

/-- A host with the dispatch loop of its scheduler. -/
structure DispatchLoop (κ : Type) where
  /-- The scheduler among its surroundings. -/
  host : Host κ
  /-- Where the loop stands. -/
  phase : LoopPhase := .idle

namespace DispatchLoop

/-- A loop on whose scheduler nothing has happened yet. -/
def create (id : SchedulerId) (c : Config) (time : Nat) : DispatchLoop κ :=
  { host := .create id c time }

/-- What comes of a start. -/
def startWith (l : DispatchLoop κ) (result : LoopStart × Scheduler κ) : DispatchLoop κ where
  host := { l.host with scheduler := result.2 }
  phase := match result.1 with
    | .running _ => .running
    | _ => l.phase

/-- One step, if the move is possible. The loop tests its mark when no pass is in progress, and
nothing but the loop begins a pass. -/
def step (l : DispatchLoop κ) : LoopMove κ → Option (DispatchLoop κ)
  | .start stack failure? => some (l.startWith (l.host.scheduler.start stack failure?))
  | .startOnCaller => some (l.startWith l.host.scheduler.startOnCaller)
  | .test =>
    if l.phase = .running ∧ l.host.passes.isEmpty = true then
      if l.host.scheduler.keepsRunning then
        some { l with host := { l.host with passes := [.ready .start l.host.time] } }
      else
        some { l with phase := .returned }
    else
      none
  | .act .enter => none
  | .act move => (l.host.step move).map fun host => { l with host := host }

/-- Whether a move lets the loop begin a pass. -/
def begins (l : DispatchLoop κ) : LoopMove κ → Bool
  | .test => l.host.scheduler.keepsRunning
  | _ => false

/-- Whether a move lets the pass in progress park. -/
def parks (l : DispatchLoop κ) : LoopMove κ → Bool
  | .act move => l.host.parks move
  | _ => false

/-- The steps, one constructor for each thing that may happen. -/
inductive Step (l : DispatchLoop κ) : LoopMove κ → DispatchLoop κ → Prop where
  | started {m : LoopMove κ} (hmove : m.starts = true)
      (hunstarted : l.host.scheduler.started = false) (phase : LoopPhase)
      (hphase : phase = .running ∨ phase = l.phase) :
      Step l m
        { host := { l.host with scheduler := { l.host.scheduler with started := true } }
          phase := phase }
  | refused {m : LoopMove κ} (hmove : m.starts = true) : Step l m l
  | pass (hphase : l.phase = .running) (hpasses : l.host.passes = [])
      (hkeeps : l.host.scheduler.keepsRunning = true) :
      Step l .test { l with host := { l.host with passes := [.ready .start l.host.time] } }
  | leave (hphase : l.phase = .running) (hpasses : l.host.passes = [])
      (hkeeps : l.host.scheduler.keepsRunning = false) :
      Step l .test { l with phase := .returned }
  | act {move : Host.Move κ} {host : Host κ} (hmove : move ≠ .enter)
      (hstep : l.host.step move = some host) : Step l (.act move) { l with host := host }

variable {c : Config} {l l' l'' : DispatchLoop κ} {m : LoopMove κ}

theorem Step.of_step (h : l.step m = some l') : Step l m l' := by
  cases m with
  | start stack failure? =>
    simp only [step, Scheduler.start, Option.some.injEq] at h
    subst h
    split
    · exact .refused rfl
    · next hstarted =>
      have hunstarted : l.host.scheduler.started = false := by simpa using hstarted
      split
      · exact .started rfl hunstarted l.phase (.inr rfl)
      · exact .refused rfl
      · exact .started rfl hunstarted .running (.inl rfl)
  | startOnCaller =>
    simp only [step, Scheduler.startOnCaller, Option.some.injEq] at h
    subst h
    split
    · exact .refused rfl
    · next hstarted => exact .started rfl (by simpa using hstarted) .running (.inl rfl)
  | test =>
    simp only [step] at h
    split at h
    · next htests =>
      have hpasses := List.isEmpty_iff.mp htests.2
      split at h
      · next hkeeps =>
        cases h
        exact .pass htests.1 hpasses hkeeps
      · next hkeeps =>
        cases h
        exact .leave htests.1 hpasses (by simpa using hkeeps)
    · cases h
  | act move =>
    have hmove : move ≠ .enter := by
      rintro rfl
      cases h
    have hhost : (l.host.step move).map (fun host => { l with host := host }) = some l' := by
      cases move with
      | enter => exact absurd rfl hmove
      | _ => exact h
    obtain ⟨host, hstep, rfl⟩ := Option.map_eq_some_iff.mp hhost
    exact .act hmove hstep

/-- The steps `later` lead from one loop to another. -/
inductive Leads (l : DispatchLoop κ) : List (DispatchLoop κ × LoopMove κ) → DispatchLoop κ → Prop
  where
  | nil : Leads l [] l
  | snoc {later : List (DispatchLoop κ × LoopMove κ)} {l' l'' : DispatchLoop κ} {m : LoopMove κ}
      (path : Leads l later l') (hstep : l'.step m = some l'') : Leads l (later ++ [(l', m)]) l''

variable {past later : List (DispatchLoop κ × LoopMove κ)}

/-- Makes some moves, as long as each is possible. -/
def play (l : DispatchLoop κ) : List (LoopMove κ) →
    Option (List (DispatchLoop κ × LoopMove κ) × DispatchLoop κ)
  | [] => some ([], l)
  | m :: moves =>
    match l.step m with
    | none => none
    | some l' => (l'.play moves).map fun (later, l'') => ((l, m) :: later, l'')

theorem Leads.cons (hstep : l.step m = some l') (h : Leads l' later l'') :
    Leads l ((l, m) :: later) l'' := by
  induction h with
  | nil => exact Leads.nil.snoc hstep
  | snoc _ hlast ih => exact ih.snoc hlast

theorem Leads.of_play (moves : List (LoopMove κ)) (h : l.play moves = some (later, l')) :
    Leads l later l' := by
  induction moves generalizing l later with
  | nil => cases h; exact .nil
  | cons m moves ih =>
    simp only [play] at h
    split at h
    · cases h
    · next l₁ hstep =>
      obtain ⟨⟨later, l₂⟩, hplay, hpair⟩ := Option.map_eq_some_iff.mp h
      cases hpair
      exact .cons hstep (ih hplay)

/-! ### What holds on every path -/

/-- What a loop may look like. -/
structure WellFormed (c : Config) (l : DispatchLoop κ) : Prop where
  host : l.host.WellFormed c
  /-- No pass is nested in another one. -/
  unnested : l.host.passes.length ≤ 1
  /-- Whoever is about to wake the context of a loop that has to stop has set the mark. -/
  marked : .stopping ∈ l.host.inFlight → l.host.scheduler.shutdown = true
  /-- A loop that runs or has returned was started. -/
  started : l.phase ≠ .idle → l.host.scheduler.started = true

theorem WellFormed.step (h : l.WellFormed c) (hstep : l.step m = some l') : l'.WellFormed c := by
  obtain ⟨hhost, hunnested, hmarked, hstarted⟩ := h
  cases Step.of_step hstep with
  | started =>
    exact ⟨⟨hhost.config_eq, hhost.passes, hhost.inFlight⟩, hunnested, hmarked, fun _ => rfl⟩
  | refused => exact ⟨hhost, hunnested, hmarked, hstarted⟩
  | pass hphase hpasses hkeeps =>
    refine ⟨⟨hhost.config_eq, ?_, hhost.inFlight⟩, Nat.le_refl 1, hmarked, hstarted⟩
    intro frame hmem
    rw [List.mem_singleton.mp hmem]
    exact .drain ..
  | leave hphase _ _ =>
    exact ⟨hhost, hunnested, hmarked, fun _ => hstarted (by simp [hphase])⟩
  | act hmove hact =>
    refine ⟨hhost.step hact, (Host.step_park hhost hunnested hact hmove).1,
      Host.step_stopping hact hmarked, fun hphase => ?_⟩
    exact (Host.step_started hact).trans (hstarted hphase)

/-- Every loop on a path is well-formed. -/
theorem WellFormed.leads (h : l.WellFormed c) (hpath : Leads l later l') : l'.WellFormed c := by
  induction hpath with
  | nil => exact h
  | snoc _ hstep ih => exact ih.step hstep

theorem wellFormed_create (id : SchedulerId) (c : Config) (time : Nat) :
    (create (κ := κ) id c time).WellFormed c :=
  ⟨⟨rfl, by simp [create, Host.create], by simp [create, Host.create]⟩,
    by simp [create, Host.create], by simp [create, Host.create], fun h => absurd rfl h⟩

/-- The mark is never cleared, and a loop that has returned never runs again. -/
theorem WellFormed.kept (h : l.WellFormed c) (hstep : l.step m = some l') :
    (l.host.scheduler.shutdown = true → l'.host.scheduler.shutdown = true) ∧
      (l.phase = .returned → l'.phase = .returned) := by
  cases Step.of_step hstep with
  | started hmove hunstarted phase hphase =>
    refine ⟨id, fun hreturned => ?_⟩
    have hstarted := h.started (by simp [hreturned])
    rw [hunstarted] at hstarted
    cases hstarted
  | act hmove hact => exact ⟨Host.step_shutdown hact, id⟩
  | refused => exact ⟨id, id⟩
  | pass => exact ⟨id, id⟩
  | leave => exact ⟨id, fun _ => rfl⟩

/-- **Once the mark is set**, it stays, and the loop begins no pass. -/
theorem Leads.no_pass (h : l.WellFormed c) (hshutdown : l.host.scheduler.shutdown = true)
    (hpath : Leads l later l') :
    l'.host.scheduler.shutdown = true ∧ ∀ step ∈ later, step.1.begins step.2 = false := by
  induction hpath with
  | nil => exact ⟨hshutdown, by simp⟩
  | @snoc later l₁ l₂ m path hstep ih =>
    obtain ⟨hmarked, hnone⟩ := ih
    refine ⟨((h.leads path).kept hstep).1 hmarked, fun step hmem => ?_⟩
    rcases List.mem_append.mp hmem with hmem | hmem
    · exact hnone step hmem
    · rw [List.mem_singleton.mp hmem]
      cases m <;> simp [begins, Scheduler.keepsRunning, hmarked]

private theorem parks_of_starts (h : m.starts = true) : l.parks m = false := by
  cases m with
  | start | startOnCaller => rfl
  | test | act => cases h

/-- Once the context was woken to stop, the wake is kept for the pass in progress. -/
private theorem Leads.wakeKept (h : l.WellFormed c) (hshutdown : l.host.scheduler.shutdown = true)
    (htoken : l.host.parker.token = true) (hpath : Leads l later l') :
    l'.host.WakeKept (l.host.parkedPasses + later.countP fun step => step.1.parks step.2) := by
  induction hpath with
  | nil => exact .waiting htoken rfl
  | @snoc later l₁ l₂ m path hstep ih =>
    have hwf := h.leads path
    obtain ⟨hmarked, -⟩ := path.no_pass h hshutdown
    rw [List.countP_append, ← Nat.add_assoc, List.countP_singleton]
    cases Step.of_step hstep with
    | act hmove hact =>
      have hkept := ih.step hwf.host hwf.unnested hact hmove
      rw [parks]
      cases hparks : l₁.host.parks _ <;> rwa [hparks] at hkept
    | pass _ _ hkeeps => simp [Scheduler.keepsRunning, hmarked] at hkeeps
    | leave => exact ih
    | started hmove hunstarted phase hphase =>
      rw [parks_of_starts hmove]
      cases ih with
      | waiting htoken hparks => exact .waiting htoken hparks
      | taken hawake hparks => exact .taken hawake hparks
    | refused hmove =>
      rw [parks_of_starts hmove]
      exact ih

/-! ### Orders to stop -/

/-- What an order to stop has brought about that had woken the context of the loop `l`, after the
steps `later`, which lead to the loop `l'`. -/
structure Stopped (l : DispatchLoop κ) (later : List (DispatchLoop κ × LoopMove κ))
    (l' : DispatchLoop κ) : Prop where
  /-- The mark was not cleared. -/
  marked : l'.host.scheduler.shutdown = true
  /-- The loop has begun no pass, and no start has let it. -/
  no_pass : ∀ step ∈ later, step.1.begins step.2 = false
  /-- The pass in progress was parked or has parked since, and only once. -/
  parks_le : l.host.parkedPasses + later.countP (fun step => step.1.parks step.2) ≤ 1
  /-- If it is parked, its park is woken. -/
  woken : ∀ {wait next readAt}, .parking wait next readAt ∈ l'.host.passes →
    l'.host.parker.park.1 = true
  /-- As soon as the pass is over, the loop returns. -/
  returns : l'.phase = .running → l'.host.passes = [] →
    l'.step .test = some { l' with phase := .returned }
  /-- A loop that has returned does not run again. -/
  returned : l.phase = .returned → l'.phase = .returned

/-- **An order to stop is never lost**, whenever it comes: from the time at which it has woken the
context, the loop begins no pass, the pass in progress parks at most once and without waiting, and
then the loop returns. -/
theorem stop_never_lost {id : SchedulerId} {time i : Nat} (h : Leads (create id c time) past l)
    (hstopping : l.host.inFlight[i]? = some .stopping) (hwake : l.step (.act (.unpark i)) = some l')
    (hpath : Leads l' later l'') : Stopped l' later l'' := by
  have hwf := (wellFormed_create id c time).leads h
  have hwf' := hwf.step hwake
  have hshutdown : l'.host.scheduler.shutdown = true :=
    (hwf.kept hwake).1 (hwf.marked (List.mem_of_getElem? hstopping))
  have htoken : l'.host.parker.token = true := by
    simp only [step, Host.step, hstopping, Option.map_some, Option.some.injEq] at hwake
    rw [← hwake]
    rfl
  obtain ⟨hmarked, hnone⟩ := hpath.no_pass hwf' hshutdown
  have hkept := hpath.wakeKept hwf' hshutdown htoken
  constructor
  · exact hmarked
  · exact hnone
  · exact hkept.parks_le (hwf'.leads hpath).unnested
  · exact fun hmem => hkept.woken hmem rfl
  · intro hrunning hpasses
    simp [step, hrunning, hpasses, Scheduler.keepsRunning, hmarked]
  · intro hreturned
    clear hkept hnone hmarked
    induction hpath with
    | nil => exact hreturned
    | snoc path hstep ih => exact ((hwf'.leads path).kept hstep).2 ih

/-- An order to stop that comes after the loop has tested its mark and before the pass decides: the
pass parks once and is woken, and the loop returns. -/
theorem stop_never_lost_before_park :
    ∃ (past later parked : List (DispatchLoop Nat × LoopMove Nat))
      (l l' asleep l'' : DispatchLoop Nat),
      Leads (create ⟨0⟩ {} 0) past l ∧ l.host.inFlight[0]? = some .stopping ∧
      l.step (.act (.unpark 0)) = some l' ∧ Leads l' parked asleep ∧
      asleep.host.parkedPasses = 1 ∧ Stopped l' parked asleep ∧ Leads l' later l'' ∧
      l''.phase = .returned ∧ Stopped l' later l'' := by
  obtain ⟨past, l, l', hpast, hstopping, hwake, ⟨parked, asleep, hparked, hasleep⟩,
      later, l'', hlater, hreturned⟩ :
      ∃ (past : List (DispatchLoop Nat × LoopMove Nat)) (l l' : DispatchLoop Nat),
        Leads (create ⟨0⟩ {} 0) past l ∧ l.host.inFlight[0]? = some .stopping ∧
        l.step (.act (.unpark 0)) = some l' ∧
        (∃ parked asleep, Leads l' parked asleep ∧ asleep.host.parkedPasses = 1) ∧
        ∃ later l'', Leads l' later l'' ∧ l''.phase = .returned :=
    ⟨_, _, _, Leads.of_play [.startOnCaller, .test, .act .stop] rfl, rfl, rfl,
      ⟨_, _, Leads.of_play [.act .resume, .act .resume, .act .resume] rfl, rfl⟩,
      _, _, Leads.of_play [.act .resume, .act .resume, .act .resume, .act .resume, .act .resume,
        .test] rfl, rfl⟩
  exact ⟨past, later, parked, l, l', asleep, l'', hpast, hstopping, hwake, hparked, hasleep,
    stop_never_lost hpast hstopping hwake hparked, hlater, hreturned,
    stop_never_lost hpast hstopping hwake hlater⟩

end DispatchLoop

end CoopScheduler
