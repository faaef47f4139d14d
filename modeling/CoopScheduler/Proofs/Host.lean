import CoopScheduler.Parker
import CoopScheduler.Pass
import CoopScheduler.Proofs.TrueTime
import CoopScheduler.Scheduler.Operation
import Mathlib.Data.List.Induction

/-!
# Hosts: a scheduler among its surroundings

A `Host` is a scheduler with all that acts on it: a clock, the requests that callers have in
flight, the passes in progress on the dispatching context, innermost first, and the parker of
that context. **True time** is a natural number that only grows; the clock shows its remainder
(`Tick.ofTime`).

* `Host.step` makes one `Host.Move`. A request is in flight from its clock reading until it has
  woken the context, and a pass goes from one activation to the next, so every order of the
  critical sections of passes, callbacks and other contexts is some list of moves.
* `Host.Path` is a run by its steps, each under a condition `ok` that may look at all that
  happened before it. `Host.Run` is a path from a scheduler on which nothing has happened yet,
  and `Host.Path.invariant` the induction over it: what every step keeps holds at its end.
* `Host.step_scheduler` tells the steps that touch the scheduler, `Host.Run.wellFormed` what
  the passes in progress look like, and `Host.Run.induct` puts that at hand at each step of an
  induction, `Host.Run.inductAlong` all that is known of runs.
-/

namespace CoopScheduler

namespace Host

/-- A pass in progress. -/
inductive Frame (κ : Type) where
  /-- It reads the clock next. -/
  | reading (next : Tick → Activation κ)
  /-- It has decided to park and goes on when the park is over. -/
  | parking (wait : Duration) (next : Activation κ) (readAt : Nat)
  /-- It goes on from here; its last clock reading was taken at the true time `readAt`. -/
  | ready (activation : Activation κ) (readAt : Nat)

/-- A request that is not over yet. -/
inductive InFlight (κ : Type) where
  /-- It has not entered its critical section; if it takes a clock reading, that was taken at
  the true time `readAt`. -/
  | asked (op : Operation κ) (readAt : Nat)
  /-- It has left its critical section and will wake the context. -/
  | waking (source : WakeSource)
  /-- It has told the dispatch loop to stop and will wake the context. -/
  | stopping

/-- What may happen next. -/
inductive Move (κ : Type) where
  /-- The clock goes on. -/
  | elapse (micros : Nat)
  /-- A caller makes a request and takes the clock reading, if it needs one. -/
  | ask (op : Operation κ)
  /-- A request in flight enters its critical section. -/
  | perform (i : Nat)
  /-- A request in flight wakes the context. -/
  | unpark (i : Nat)
  /-- A caller tells the dispatch loop to stop. -/
  | stop
  /-- The dispatching context begins a pass, within the one in progress if there is one. -/
  | enter
  /-- The innermost pass goes on: a callback or a park is over, the clock is read, or a
  critical section is entered. -/
  | resume

end Host

open Host in
/-- A scheduler with its clock, its callers and the context that dispatches for it. -/
structure Host (κ : Type) where
  /-- The scheduler. -/
  scheduler : Scheduler κ
  /-- The true time. -/
  time : Nat
  /-- The wake token of the context. -/
  parker : Parker := {}
  /-- The passes in progress, the innermost first. -/
  passes : List (Frame κ) := []
  /-- The requests in flight. -/
  inFlight : List (InFlight κ) := []

namespace Host

variable {κ : Type}

/-- A scheduler on which nothing has happened yet. -/
def create (id : SchedulerId) (c : Config) (time : Nat) : Host κ :=
  { scheduler := .create id c, time := time }

/-! ### Steps -/

/-- What is left of a pass that has to do `effect`. -/
def framesAfter (effect : Effect κ) (readAt : Nat) : List (Frame κ) :=
  match effect with
  | .call _ next => [.ready next readAt]
  | .read next => [.reading next]
  | .discard _ next => [.ready next readAt]
  | .park wait next => [.parking wait next readAt]
  | .finish _ => []

/-- Enters the critical section of a request whose reading was taken at `readAt`. -/
def performAt (s : Host κ) (i : Nat) (op : Operation κ) (readAt : Nat) : Host κ :=
  let (outcome, scheduler) := s.scheduler.perform op (.ofTime readAt)
  { s with
    scheduler := scheduler
    inFlight := match outcome.wake? with
      | none => s.inFlight.eraseIdx i
      | some source => s.inFlight.set i (.waking source) }

/-- Goes on with a pass; `rest` are the passes around it. -/
def resumeFrame (s : Host κ) (rest : List (Frame κ)) : Frame κ → Host κ
  | .reading next => { s with passes := .ready (next (.ofTime s.time)) s.time :: rest }
  | .parking _ next readAt =>
    { s with parker := s.parker.park.2, passes := .ready next readAt :: rest }
  | .ready activation readAt =>
    let (effect, scheduler) := s.scheduler.resume activation
    { s with scheduler := scheduler, passes := framesAfter effect readAt ++ rest }

/-- One step, if the move is possible. -/
def step (s : Host κ) : Move κ → Option (Host κ)
  | .elapse micros => some { s with time := s.time + micros }
  | .ask op => some { s with inFlight := s.inFlight ++ [.asked op s.time] }
  | .perform i =>
    match s.inFlight[i]? with
    | some (.asked op readAt) => some (s.performAt i op readAt)
    | _ => none
  | .unpark i =>
    match s.inFlight[i]? with
    | none | some (.asked ..) => none
    | some _ => some { s with parker := s.parker.unpark, inFlight := s.inFlight.eraseIdx i }
  | .stop =>
    some { s with scheduler := s.scheduler.stop, inFlight := s.inFlight ++ [.stopping] }
  | .enter => some { s with passes := .ready .start s.time :: s.passes }
  | .resume =>
    match s.passes with
    | [] => none
    | frame :: rest => some (s.resumeFrame rest frame)

/-- The request whose critical section a move enters, with the true time of its reading. -/
def performed? (s : Host κ) : Move κ → Option (Operation κ × Nat)
  | .perform i =>
    match s.inFlight[i]? with
    | some (.asked op readAt) => some (op, readAt)
    | _ => none
  | _ => none

/-- The activation from which a move lets the innermost pass go on, with the true time of the
last reading of that pass. -/
def resumed? (s : Host κ) : Move κ → Option (Activation κ × Nat)
  | .resume =>
    match s.passes with
    | .ready activation readAt :: _ => some (activation, readAt)
    | _ => none
  | _ => none

theorem performed?_eq_some {s : Host κ} {m : Move κ} {op : Operation κ} {readAt : Nat}
    (h : s.performed? m = some (op, readAt)) :
    ∃ i, m = .perform i ∧ s.inFlight[i]? = some (.asked op readAt) := by
  cases m with
  | perform i =>
    simp only [performed?] at h
    split at h
    · next hi =>
      cases h
      exact ⟨i, rfl, hi⟩
    · cases h
  | _ => cases h

theorem resumed?_eq_some {s : Host κ} {m : Move κ} {activation : Activation κ} {readAt : Nat}
    (h : s.resumed? m = some (activation, readAt)) :
    m = .resume ∧ ∃ rest, s.passes = .ready activation readAt :: rest := by
  cases m with
  | resume =>
    simp only [resumed?] at h
    split at h
    · next rest hpasses =>
      cases h
      exact ⟨rfl, rest, hpasses⟩
    · cases h
  | _ => cases h

/-- Whether a move takes a clock reading. -/
def readsClock (s : Host κ) : Move κ → Bool
  | .ask op => s.scheduler.readsClock op
  | .resume =>
    match s.passes with
    | .reading _ :: _ => true
    | _ => false
  | _ => false

/-- The steps, one constructor for each thing that may happen. -/
inductive Step (s : Host κ) : Move κ → Host κ → Prop where
  | elapse (micros : Nat) : Step s (.elapse micros) { s with time := s.time + micros }
  | ask (op : Operation κ) :
      Step s (.ask op) { s with inFlight := s.inFlight ++ [.asked op s.time] }
  | perform {i : Nat} {op : Operation κ} {readAt : Nat}
      (hi : s.inFlight[i]? = some (.asked op readAt)) :
      Step s (.perform i) (s.performAt i op readAt)
  | unpark {i : Nat} {request : InFlight κ} (hi : s.inFlight[i]? = some request)
      (hasked : ∀ op readAt, request ≠ .asked op readAt) :
      Step s (.unpark i)
        { s with parker := s.parker.unpark, inFlight := s.inFlight.eraseIdx i }
  | stop :
      Step s .stop
        { s with scheduler := s.scheduler.stop, inFlight := s.inFlight ++ [.stopping] }
  | enter : Step s .enter { s with passes := .ready .start s.time :: s.passes }
  | read {next : Tick → Activation κ} {rest : List (Frame κ)}
      (hpasses : s.passes = .reading next :: rest) :
      Step s .resume { s with passes := .ready (next (.ofTime s.time)) s.time :: rest }
  | unparked {wait : Duration} {next : Activation κ} {readAt : Nat} {rest : List (Frame κ)}
      (hpasses : s.passes = .parking wait next readAt :: rest) :
      Step s .resume { s with parker := s.parker.park.2, passes := .ready next readAt :: rest }
  | goOn {activation : Activation κ} {readAt : Nat} {rest : List (Frame κ)}
      (hpasses : s.passes = .ready activation readAt :: rest) :
      Step s .resume
        { s with
          scheduler := (s.scheduler.resume activation).2
          passes := framesAfter (s.scheduler.resume activation).1 readAt ++ rest }

theorem Step.of_step {s s' : Host κ} {m : Move κ} (h : s.step m = some s') : Step s m s' := by
  cases m with
  | perform i =>
    simp only [step] at h
    split at h
    · next hi => cases h; exact .perform hi
    · cases h
  | unpark i =>
    simp only [step] at h
    split at h
    · cases h
    · cases h
    · next request hasked hi => cases h; exact .unpark hi fun op readAt => hasked op readAt
  | resume =>
    simp only [step] at h
    split at h
    · cases h
    · next frame rest hpasses =>
      cases h
      cases frame with
      | reading next => exact .read hpasses
      | parking wait next readAt => exact .unparked hpasses
      | ready activation readAt => exact .goOn hpasses
  | elapse micros => cases h; exact .elapse micros
  | ask op => cases h; exact .ask op
  | stop => cases h; exact .stop
  | enter => cases h; exact .enter

/-- **What touches the scheduler**: the critical section of a request, a step of a pass, and
the order to stop, which leaves all but one mark as it is. -/
theorem step_scheduler {s s' : Host κ} {m : Move κ} (h : s.step m = some s') :
    (∃ op readAt, s.performed? m = some (op, readAt) ∧ s.resumed? m = none ∧
      s'.scheduler = (s.scheduler.perform op (.ofTime readAt)).2) ∨
    (∃ activation readAt, s.performed? m = none ∧ s.resumed? m = some (activation, readAt) ∧
      s'.scheduler = (s.scheduler.resume activation).2) ∨
    (s.performed? m = none ∧ s.resumed? m = none ∧
      s'.scheduler = { s.scheduler with shutdown := s'.scheduler.shutdown }) := by
  cases Step.of_step h with
  | @perform i op readAt hi => exact .inl ⟨op, readAt, by simp [performed?, hi], rfl, rfl⟩
  | @goOn activation readAt rest hpasses =>
    exact .inr (.inl ⟨activation, readAt, rfl, by simp [resumed?, hpasses], rfl⟩)
  | read hpasses => exact .inr (.inr ⟨rfl, by simp [resumed?, hpasses], rfl⟩)
  | unparked hpasses => exact .inr (.inr ⟨rfl, by simp [resumed?, hpasses], rfl⟩)
  | _ => exact .inr (.inr ⟨rfl, rfl, rfl⟩)

/-- Time never goes back. -/
theorem step_time_le {s s' : Host κ} {m : Move κ} (h : s.step m = some s') : s.time ≤ s'.time := by
  cases Step.of_step h with
  | elapse micros => exact Nat.le_add_right _ _
  | _ => exact Nat.le_refl _

/-! ### Runs -/

/-- What has happened: each host with the move it made, in order. -/
abbrev History (κ : Type) : Type :=
  List (Host κ × Move κ)

/-- What the steps of a history did, in order, as far as `did?` has something to say. -/
def log {α : Type} (did? : Host κ → Move κ → Option α) (past : History κ) : List α :=
  past.filterMap fun (s, m) => did? s m

@[simp]
theorem log_concat {α : Type} (did? : Host κ → Move κ → Option α) (past : History κ)
    (s : Host κ) (m : Move κ) :
    log did? (past ++ [(s, m)]) = log did? past ++ (did? s m).toList := by
  rw [log, List.filterMap_append]
  cases h : did? s m <;> simp [h, log]

theorem log_append {α : Type} (did? : Host κ → Move κ → Option α) (past later : History κ) :
    log did? (past ++ later) = log did? past ++ log did? later :=
  List.filterMap_append ..

/-- The last entry that was made lately is the last one. -/
theorem find?_reverse_log_of_suffix {α : Type} {did? : Host κ → Move κ → Option α} {p : α → Bool}
    {past later : History κ} {entry : α} (hlater : later <:+ past)
    (h : (log did? later).reverse.find? p = some entry) :
    (log did? past).reverse.find? p = some entry := by
  obtain ⟨before, rfl⟩ := hlater
  rw [log_append, List.reverse_append, List.find?_append, h, Option.some_or]

/-- A condition on a step from one host to another, in the light of what happened before. -/
abbrev Condition (κ : Type) : Type :=
  History κ → Host κ → Move κ → Host κ → Prop

/-- From the host `s`, which had the history `past`, the steps `later` lead to another host,
each of them under the condition `ok`. -/
inductive Path (ok : Condition κ) (past : History κ) (s : Host κ) : History κ → Host κ → Prop where
  | nil : Path ok past s [] s
  | snoc {later : History κ} {s' s'' : Host κ} {m : Move κ} (path : Path ok past s later s')
      (hstep : s'.step m = some s'') (hok : ok (past ++ later) s' m s'') :
      Path ok past s (later ++ [(s', m)]) s''

/-- Whether a move begins a pass within another one. -/
def nests (s : Host κ) : Move κ → Bool
  | .enter => !s.passes.isEmpty
  | _ => false

/-- No pass is nested in another one. -/
abbrev Unnested : Condition κ :=
  fun _ s m _ => s.nests m = false

/-- The history `past` of a scheduler with the configuration `c`, from its creation on, leads
to the host `s`, each step under the condition `ok`. -/
def Run (c : Config) (ok : Condition κ) (past : History κ) (s : Host κ) : Prop :=
  ∃ id time, Path ok [] (create id c time) past s

variable {ok ok' : Condition κ} {past later : History κ} {s s' s'' : Host κ} {m : Move κ}
  {c : Config}

/-- **Induction over a path**: what holds at its beginning and is kept by each step holds at
its end. -/
theorem Path.invariant {I : History κ → Host κ → Prop}
    (hkeep : ∀ {past s m s'}, I past s → s.step m = some s' → ok past s m s' →
      I (past ++ [(s, m)]) s')
    (h : Path ok past s later s') (hinit : I past s) : I (past ++ later) s' := by
  induction h with
  | nil => rwa [List.append_nil]
  | snoc _ hstep hok ih =>
    rw [← List.append_assoc]
    exact hkeep ih hstep hok

/-- Induction over a run. -/
theorem Run.invariant {I : History κ → Host κ → Prop}
    (hcreate : ∀ id time, I [] (create id c time))
    (hkeep : ∀ {past s m s'}, I past s → s.step m = some s' → ok past s m s' →
      I (past ++ [(s, m)]) s')
    (h : Run c ok past s) : I past s := by
  obtain ⟨id, time, path⟩ := h
  exact path.invariant hkeep (hcreate id time)

theorem Path.mono (h : Path ok past s later s')
    (himp : ∀ past s m s', ok past s m s' → ok' past s m s') : Path ok' past s later s' := by
  induction h with
  | nil => exact .nil
  | snoc _ hstep hok ih => exact ih.snoc hstep (himp _ _ _ _ hok)

theorem Run.mono (h : Run c ok past s)
    (himp : ∀ past s m s', ok past s m s' → ok' past s m s') : Run c ok' past s := by
  obtain ⟨id, time, path⟩ := h
  exact ⟨id, time, path.mono himp⟩

/-- A path may begin with a step. -/
theorem Path.cons (hstep : s.step m = some s') (hok : ok past s m s')
    (h : Path ok (past ++ [(s, m)]) s' later s'') : Path ok past s ((s, m) :: later) s'' := by
  induction h with
  | nil => exact Path.nil.snoc hstep (by rwa [List.append_nil])
  | snoc _ hstep hok ih =>
    exact ih.snoc hstep (by rwa [List.append_cons])

/-- A run goes on with a step. -/
theorem Run.snoc (h : Run c ok past s) (hstep : s.step m = some s') (hok : ok past s m s') :
    Run c ok (past ++ [(s, m)]) s' := by
  obtain ⟨id, time, path⟩ := h
  exact ⟨id, time, path.snoc hstep hok⟩

/-- A path goes on along another one. -/
theorem Path.append {more : History κ} (h : Path ok past s later s')
    (hmore : Path ok (past ++ later) s' more s'') : Path ok past s (later ++ more) s'' := by
  induction hmore with
  | nil => rwa [List.append_nil]
  | snoc _ hstep hok ih =>
    rw [← List.append_assoc]
    exact ih.snoc hstep (by rwa [← List.append_assoc])

/-- A run goes on along a path. -/
theorem Run.append (h : Run c ok past s) (hpath : Path ok past s later s') :
    Run c ok (past ++ later) s' := by
  obtain ⟨id, time, path⟩ := h
  exact ⟨id, time, path.append hpath⟩

/-- A run is split before its last step. -/
theorem Run.of_concat (h : Run c ok (past ++ [(s, m)]) s') :
    Run c ok past s ∧ s.step m = some s' ∧ ok past s m s' := by
  obtain ⟨id, time, path⟩ := h
  -- The history has to be a variable for the case analysis on the path.
  generalize hhistory : past ++ [(s, m)] = history at path
  cases path with
  | nil => simp at hhistory
  | snoc path hstep hok =>
    obtain ⟨rfl, hlast⟩ := List.append_inj' hhistory rfl
    cases hlast
    exact ⟨⟨id, time, path⟩, hstep, hok⟩

/-- A run came by each step of its history. -/
theorem Run.exists_of_mem (h : Run c ok past s) {t : Host κ} (hmem : (t, m) ∈ past) :
    ∃ before t', Run c ok before t ∧ t.step m = some t' ∧ ok before t m t' ∧
      before ++ [(t, m)] <+: past := by
  obtain ⟨id, time, path⟩ := h
  induction path with
  | nil => cases hmem
  | snoc path hstep hok ih =>
    rcases List.mem_append.mp hmem with hmem | hmem
    · obtain ⟨before, t', hrun, hstep', hok', hprefix⟩ := ih hmem
      exact ⟨before, t', hrun, hstep', hok', hprefix.trans (List.prefix_append _ _)⟩
    · cases List.mem_singleton.mp hmem
      exact ⟨_, _, ⟨id, time, path⟩, hstep, hok, List.prefix_refl _⟩

/-- If a run under another condition took the same steps as a path, then it came by the
beginning of the path, and the steps of the path meet both conditions. -/
theorem Run.along (h : Run c ok' (past ++ later) s') (hpath : Path ok past s later s') :
    Run c ok' past s ∧
      Path (fun past s m s' => ok past s m s' ∧ ok' past s m s') past s later s' := by
  induction hpath with
  | nil => exact ⟨by rwa [List.append_nil] at h, .nil⟩
  | snoc _ hstep hok ih =>
    rw [← List.append_assoc] at h
    obtain ⟨hrun, -, hok'⟩ := h.of_concat
    obtain ⟨hbegin, hpath⟩ := ih hrun
    exact ⟨hbegin, hpath.snoc hstep ⟨hok, hok'⟩⟩

/-- A run may be cut anywhere. -/
theorem Run.split (h : Run c ok (past ++ later) s) :
    ∃ t, Run c ok past t ∧ Path ok past t later s := by
  induction later using List.reverseRecOn generalizing s with
  | nil => exact ⟨s, by rwa [List.append_nil] at h, .nil⟩
  | append_singleton later step ih =>
    rw [← List.append_assoc] at h
    obtain ⟨hrun, hstep, hok⟩ := h.of_concat
    obtain ⟨t, hbegin, hpath⟩ := ih hrun
    exact ⟨t, hbegin, hpath.snoc hstep hok⟩

/-- What is possible does not depend on what happened before. -/
theorem Path.anyPast (h : Path (fun _ _ _ _ => True) past s later s') (past' : History κ) :
    Path (fun _ _ _ _ => True) past' s later s' := by
  induction h with
  | nil => exact .nil
  | snoc _ hstep _ ih => exact ih.snoc hstep trivial

/-- Makes some moves, as long as each is possible and meets the condition. -/
def play (ok : Condition κ) [∀ past s m s', Decidable (ok past s m s')] (past : History κ)
    (s : Host κ) : List (Move κ) → Option (History κ × Host κ)
  | [] => some ([], s)
  | m :: moves =>
    match s.step m with
    | none => none
    | some s' =>
      if ok past s m s' then
        (play ok (past ++ [(s, m)]) s' moves).map fun (later, s'') => ((s, m) :: later, s'')
      else
        none

theorem Path.of_play [∀ past s m s', Decidable (ok past s m s')] (moves : List (Move κ))
    (h : play ok past s moves = some (later, s')) : Path ok past s later s' := by
  induction moves generalizing past s later with
  | nil => cases h; exact .nil
  | cons m moves ih =>
    simp only [play] at h
    split at h
    · cases h
    · next s₁ hstep =>
      split at h
      · next hok =>
        obtain ⟨⟨later, s₂⟩, hplay, hpair⟩ := Option.map_eq_some_iff.mp h
        cases hpair
        exact .cons hstep hok (ih hplay)
      · cases h

theorem Run.of_play [∀ past s m s', Decidable (ok past s m s')] (id : SchedulerId) (time : Nat)
    (moves : List (Move κ)) (h : play ok [] (create id c time) moves = some (past, s)) :
    Run c ok past s :=
  ⟨id, time, Path.of_play moves h⟩

/-! ### Passes in progress -/

/-- What a pass in progress may look like: it reads the clock only to decide about its timers
or to put one back, its reading is in its activation, and a park is followed by the waking. -/
inductive Frame.WellFormed (time : Nat) : Frame κ → Prop where
  | readEvaluate (events : Nat) : WellFormed time (.reading (.evaluate events))
  | readSettle (events : Nat) (key : Key) (callback : Option κ) :
      WellFormed time (.reading (.settle events key callback))
  | parking (events : Nat) (wait : Duration) (readAt : Nat) :
      WellFormed time (.parking wait (.woken events wait) readAt)
  | drain (events readAt : Nat) : WellFormed time (.ready (.drain events) readAt)
  | eventReturned (events : Nat) (key : Key) (callback : Option κ) (readAt : Nat) :
      WellFormed time (.ready (.eventReturned events key callback) readAt)
  | evaluate (events readAt : Nat) (hread : readAt ≤ time) :
      WellFormed time (.ready (.evaluate events (.ofTime readAt)) readAt)
  | timerReturned (events : Nat) (key : Key) (callback : Option κ) (readAt : Nat) :
      WellFormed time (.ready (.timerReturned events key callback) readAt)
  | settle (events : Nat) (key : Key) (callback : Option κ) (readAt : Nat)
      (hread : readAt ≤ time) :
      WellFormed time (.ready (.settle events key callback (.ofTime readAt)) readAt)
  | woken (events : Nat) (wait : Duration) (readAt : Nat) :
      WellFormed time (.ready (.woken events wait) readAt)
  | ended (pass : Pass) (readAt : Nat) : WellFormed time (.ready (.ended pass) readAt)

/-- What a host may look like. -/
structure WellFormed (c : Config) (s : Host κ) : Prop where
  /-- The configuration never changes. -/
  config_eq : s.scheduler.config = c
  /-- The passes in progress. -/
  passes : ∀ frame ∈ s.passes, frame.WellFormed s.time
  /-- No reading is ahead of the time. -/
  inFlight : ∀ op readAt, .asked op readAt ∈ s.inFlight → readAt ≤ s.time

@[simp]
theorem framesAfter_callIfPresent (callback : Option κ) (next : Activation κ) (readAt : Nat) :
    framesAfter (.callIfPresent callback next) readAt = [.ready next readAt] := by
  cases callback <;> rfl

/-- No step of a pass changes the configuration or the identity of its scheduler. -/
theorem resume_config_id (s : Scheduler κ) (activation : Activation κ) :
    (s.resume activation).2.config = s.config ∧ (s.resume activation).2.id = s.id := by
  unfold Scheduler.resume
  split <;> try split
  all_goals exact ⟨rfl, rfl⟩

/-- No request changes the configuration or the identity of its scheduler. -/
theorem perform_config_id (s : Scheduler κ) (op : Operation κ) (now : Tick) :
    (s.perform op now).2.config = s.config ∧ (s.perform op now).2.id = s.id := by
  cases op <;>
    simp only [Scheduler.perform, Scheduler.addTimer, Scheduler.reschedule,
      Scheduler.removeTimer, Scheduler.rearm, Scheduler.releaseTimer, Scheduler.createEvent,
      Scheduler.send, Scheduler.releaseEvent] <;>
    split <;> try split
  all_goals exact ⟨rfl, rfl⟩

theorem framesAfter_resume_wellFormed (s : Scheduler κ) (activation : Activation κ)
    (readAt time : Nat) :
    ∀ frame ∈ framesAfter (s.resume activation).1 readAt, frame.WellFormed time := by
  cases activation with
  | drain events =>
    simp only [Scheduler.resume]
    split
    · simpa [framesAfter] using .readEvaluate events
    · simpa using .eventReturned ..
  | eventReturned events key callback =>
    simpa [Scheduler.resume, framesAfter] using .drain ..
  | evaluate events now =>
    simp only [Scheduler.resume]
    split
    · simpa using .timerReturned ..
    · simp [framesAfter]
    · simpa [framesAfter] using .parking ..
  | timerReturned events key callback =>
    simpa [Scheduler.resume, framesAfter] using .readSettle ..
  | settle events key callback after =>
    simpa [Scheduler.resume, framesAfter] using .ended ..
  | woken events wait => simp [Scheduler.resume, framesAfter]
  | ended pass => simp [Scheduler.resume, framesAfter]

theorem Frame.WellFormed.mono {frame : Frame κ} {time time' : Nat}
    (h : frame.WellFormed time) (hle : time ≤ time') : frame.WellFormed time' := by
  cases h with
  | evaluate events readAt hread => exact .evaluate events readAt (Nat.le_trans hread hle)
  | settle events key callback readAt hread =>
    exact .settle events key callback readAt (Nat.le_trans hread hle)
  | readEvaluate => exact .readEvaluate ..
  | readSettle => exact .readSettle ..
  | parking => exact .parking ..
  | drain => exact .drain ..
  | eventReturned => exact .eventReturned ..
  | timerReturned => exact .timerReturned ..
  | woken => exact .woken ..
  | ended => exact .ended ..

theorem WellFormed.step (h : s.WellFormed c) (hstep : s.step m = some s') :
    s'.WellFormed c := by
  obtain ⟨hconfig, hpasses, hinFlight⟩ := h
  cases Step.of_step hstep with
  | elapse micros =>
    exact ⟨hconfig, fun frame hf => (hpasses frame hf).mono (Nat.le_add_right _ _),
      fun op readAt hi => Nat.le_trans (hinFlight op readAt hi) (Nat.le_add_right _ _)⟩
  | ask op =>
    refine ⟨hconfig, hpasses, fun op' readAt hi => ?_⟩
    rcases List.mem_append.mp hi with hi | hi
    · exact hinFlight op' readAt hi
    · cases List.mem_singleton.mp hi; exact Nat.le_refl _
  | @perform i op readAt hi =>
    refine ⟨(perform_config_id ..).1.trans hconfig, hpasses, fun op' readAt' hmem => ?_⟩
    simp only [performAt] at hmem
    split at hmem
    · exact hinFlight op' readAt' (List.mem_of_mem_eraseIdx hmem)
    · rcases List.mem_or_eq_of_mem_set hmem with hmem | heq
      · exact hinFlight op' readAt' hmem
      · cases heq
  | unpark hi _ =>
    exact ⟨hconfig, hpasses,
      fun op readAt hmem => hinFlight op readAt (List.mem_of_mem_eraseIdx hmem)⟩
  | stop =>
    refine ⟨hconfig, hpasses, fun op readAt hi => ?_⟩
    rcases List.mem_append.mp hi with hi | hi
    · exact hinFlight op readAt hi
    · cases List.mem_singleton.mp hi
  | enter =>
    refine ⟨hconfig, fun frame hf => ?_, hinFlight⟩
    rcases List.mem_cons.mp hf with rfl | hf
    · exact .drain ..
    · exact hpasses frame hf
  | read heq =>
    refine ⟨hconfig, fun frame hf => ?_, hinFlight⟩
    rw [heq] at hpasses
    rcases List.mem_cons.mp hf with rfl | hf
    · cases hpasses _ List.mem_cons_self with
      | readEvaluate => exact .evaluate _ _ (Nat.le_refl _)
      | readSettle => exact .settle _ _ _ _ (Nat.le_refl _)
    · exact hpasses frame (List.mem_cons_of_mem _ hf)
  | unparked heq =>
    refine ⟨hconfig, fun frame hf => ?_, hinFlight⟩
    rw [heq] at hpasses
    rcases List.mem_cons.mp hf with rfl | hf
    · cases hpasses _ List.mem_cons_self with
      | parking => exact .woken ..
    · exact hpasses frame (List.mem_cons_of_mem _ hf)
  | goOn heq =>
    refine ⟨(resume_config_id ..).1.trans hconfig, fun frame hf => ?_, hinFlight⟩
    rw [heq] at hpasses
    rcases List.mem_append.mp hf with hf | hf
    · exact framesAfter_resume_wellFormed _ _ _ _ frame hf
    · exact hpasses frame (List.mem_cons_of_mem _ hf)

/-- Every host on a run is well-formed. -/
theorem Run.wellFormed (h : Run c ok past s) : s.WellFormed c :=
  h.invariant (I := fun _ s => s.WellFormed c)
    (fun _ _ => ⟨rfl, by simp [create], by simp [create]⟩)
    fun hwf hstep _ => hwf.step hstep

/-- **Induction over a run**, with the run up to each step at hand. -/
theorem Run.inductAlong {I : History κ → Host κ → Prop} (h : Run c ok past s)
    (hcreate : ∀ id time, I [] (create id c time))
    (hkeep : ∀ {past s m s'}, Run c ok past s → I past s → s.step m = some s' → ok past s m s' →
      I (past ++ [(s, m)]) s') : I past s := by
  obtain ⟨id, time, path⟩ := h
  induction path with
  | nil => exact hcreate id time
  | snoc path hstep hok ih =>
    have hrun : Run c ok _ _ := ⟨id, time, path⟩
    exact hkeep hrun ih hstep hok

/-- Induction over a run, with the passes in progress known at each step. -/
theorem Run.induct {I : History κ → Host κ → Prop} (h : Run c ok past s)
    (hcreate : ∀ id time, I [] (create id c time))
    (hkeep : ∀ {past s m s'}, s.WellFormed c → I past s → s.step m = some s' → ok past s m s' →
      I (past ++ [(s, m)]) s') : I past s :=
  h.inductAlong hcreate fun hrun => hkeep hrun.wellFormed

/-- **What comes in is carried until it goes out**, if each step keeps to that; it may go out in
parts of something. -/
theorem Run.carriedParts_perm {α δ : Type} (h : Run c ok past s)
    (done? : Host κ → Move κ → Option δ) (parts : δ → List α) (carried : Host κ → List α)
    (enters? : Host κ → Move κ → Option α) (hcreate : ∀ id time, carried (create id c time) = [])
    (hkeep : ∀ {past s m s'}, Run c ok past s → s.step m = some s' →
      ((done? s m).toList.flatMap parts ++ carried s').Perm (carried s ++ (enters? s m).toList)) :
    ((log done? past).flatMap parts ++ carried s).Perm (log enters? past) := by
  refine h.inductAlong (I := fun past s =>
    ((log done? past).flatMap parts ++ carried s).Perm (log enters? past)) (fun id time => ?_) ?_
  · rw [hcreate]
    exact .refl _
  intro past s m s' hrun hI hstep _
  rw [log_concat, log_concat, List.flatMap_append, List.append_assoc]
  refine ((hkeep hrun hstep).append_left _).trans ?_
  rw [← List.append_assoc]
  exact hI.append_right _

/-- What comes in is carried until it goes out as a whole, if each step keeps to that. -/
theorem Run.carried_perm {α : Type} (h : Run c ok past s) (done? : Host κ → Move κ → Option α)
    (carried : Host κ → List α) (enters? : Host κ → Move κ → Option α)
    (hcreate : ∀ id time, carried (create id c time) = [])
    (hkeep : ∀ {past s m s'}, Run c ok past s → s.step m = some s' →
      ((done? s m).toList ++ carried s').Perm (carried s ++ (enters? s m).toList)) :
    (log done? past ++ carried s).Perm (log enters? past) := by
  have hperm := h.carriedParts_perm done? (fun what => [what]) carried enters? hcreate
    fun hrun hstep => by
      rw [List.flatMap_singleton']
      exact hkeep hrun hstep
  rwa [List.flatMap_singleton'] at hperm

/-- A pass that decides about its timers does so by its own reading. -/
theorem WellFormed.evaluate_now (h : s.WellFormed c) {events readAt : Nat} {now : Tick}
    {rest : List (Frame κ)} (hpasses : s.passes = .ready (.evaluate events now) readAt :: rest) :
    now = .ofTime readAt ∧ readAt ≤ s.time := by
  cases h.passes _ (hpasses ▸ List.mem_cons_self) with
  | evaluate _ _ hread => exact ⟨rfl, hread⟩

end Host

end CoopScheduler
