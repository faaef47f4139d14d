import CoopScheduler.Proofs.EventHistory
import CoopScheduler.Proofs.Firings

/-!
# What passes report

A pass in progress carries along how many events it has taken off their queue (`Frame.events`) and
which timer it has fired (`Frame.dispatched?`), and reports both when it ends (`Host.ended?`).

* `Host.step_passes`: **all that a step may do to the passes in progress**, by one constructor of
  `Host.PassStep` for each way.
* `Host.Run.reported_perm`: the timers that were fired are those that passes have reported, and
  those of passes in progress.
* `Host.Path.reports`: what a pass reports are **its own** events and its own timer. With passes
  nested to any depth, a pass is at work as long as those within it are over (`Host.atDepth`).
-/

namespace CoopScheduler

variable {κ : Type}

/-- The timer that a pass fired, if it ended with that. -/
def PassEnd.fired? : PassEnd → Option Key
  | .fired handle => some handle.key
  | _ => none

namespace Activation

/-- How many events the pass has taken off their queue. -/
def events : Activation κ → Nat
  | .drain events | .eventReturned events _ _ | .evaluate events _ | .timerReturned events _ _
  | .settle events _ _ _ | .woken events _ => events
  | .ended pass => pass.events

/-- The timer that the pass has fired. -/
def dispatched? : Activation κ → Option Key
  | .timerReturned _ key _ | .settle _ key _ _ => some key
  | .ended pass => pass.ending.fired?
  | _ => none

end Activation

namespace Host

/-- How many events the pass has taken off their queue. -/
def Frame.events : Frame κ → Nat
  | .reading next => (next (.ofTime 0)).events
  | .parking _ next _ | .ready next _ => next.events

/-- The timer that the pass has fired. -/
def Frame.dispatched? : Frame κ → Option Key
  | .reading next => (next (.ofTime 0)).dispatched?
  | .parking _ next _ | .ready next _ => next.dispatched?

/-- The pass that a move lets end. -/
def ended? (s : Host κ) (m : Move κ) : Option Pass :=
  match s.resumed? m with
  | none => none
  | some (activation, _) =>
    match (s.scheduler.resume activation).1 with
    | .finish pass => some pass
    | _ => none

/-- The timer that a move lets a pass fire. -/
def firedKey? (s : Host κ) (m : Move κ) : Option Key :=
  (s.fired? m).map Prod.fst

/-- The timer that a pass reports which a move lets end. -/
def reported? (s : Host κ) (m : Move κ) : Option Key :=
  (s.ended? m).bind (·.ending.fired?)

/-- The timers that passes in progress have fired, the innermost first. -/
def dispatching (s : Host κ) : List Key :=
  s.passes.flatMap (·.dispatched?.toList)

/-- What the passes do which a move lets go on in the depth `depth`, counted from the outermost. -/
def atDepth {α : Type} (depth : Nat) (did? : Host κ → Move κ → Option α) (s : Host κ)
    (m : Move κ) : Option α :=
  if s.passes.length = depth then did? s m else none

variable {c : Config} {ok : Condition κ} {past later : History κ} {s s' s'' : Host κ} {m : Move κ}

theorem fires_iff {key : Key} : s.fires m key = true ↔ s.firedKey? m = some key := by
  rw [fires, firedKey?]
  cases s.fired? m <;> simp

theorem firedKey?_of_evaluate {events readAt : Nat} {now : Tick}
    (h : s.resumed? m = some (.evaluate events now, readAt)) :
    s.firedKey? m = (s.scheduler.state.evaluate s.scheduler.config now).1.fired? := by
  simp only [firedKey?, fired?, h, Option.map_map]
  exact Option.map_id'

/-- A move that lets a pass end lets the innermost one go on. -/
theorem passes_of_ended? {pass : Pass} (h : s.ended? m = some pass) :
    m = .resume ∧ ∃ activation readAt rest, s.passes = .ready activation readAt :: rest := by
  unfold ended? at h
  split at h
  · cases h
  · next activation readAt hresumed =>
    obtain ⟨hmove, rest, hpasses⟩ := resumed?_eq_some hresumed
    exact ⟨hmove, activation, readAt, rest, hpasses⟩

/-! ### Steps -/

/-- The ways in which a move `m` may change the passes in progress. -/
inductive PassStep (s : Host κ) (m : Move κ) : List (Frame κ) → List (Frame κ) → Prop where
  | kept (passes : List (Frame κ)) (hpopped : s.popped? m = none) (hfired : s.firedKey? m = none)
      (hended : s.ended? m = none) : PassStep s m passes passes
  | entered {frame : Frame κ} (passes : List (Frame κ)) (hmove : m = .enter)
      (hevents : frame.events = 0) (hdispatched : frame.dispatched? = none) :
      PassStep s m passes (frame :: passes)
  | wentOn {frame frame' : Frame κ} (rest : List (Frame κ)) (hended : s.ended? m = none)
      (hevents : frame'.events = frame.events + (s.popped? m).toList.length)
      (hdispatched : frame'.dispatched?.toList
        = frame.dispatched?.toList ++ (s.firedKey? m).toList) :
      PassStep s m (frame :: rest) (frame' :: rest)
  | ended {frame : Frame κ} {pass : Pass} (rest : List (Frame κ)) (hended : s.ended? m = some pass)
      (hpopped : s.popped? m = none) (hfired : s.firedKey? m = none)
      (hevents : pass.events = frame.events)
      (hdispatched : pass.ending.fired? = frame.dispatched?) : PassStep s m (frame :: rest) rest

/-- A step of a pass. -/
private theorem goOn_passes {activation : Activation κ} {readAt : Nat} {rest : List (Frame κ)}
    (hpasses : s.passes = .ready activation readAt :: rest) :
    PassStep s .resume (.ready activation readAt :: rest)
      (framesAfter (s.scheduler.resume activation).1 readAt ++ rest) := by
  have hresumed : s.resumed? .resume = some (activation, readAt) := by simp [resumed?, hpasses]
  cases activation with
  | drain events =>
    rcases hpop : s.scheduler.state.popEvent with ⟨_ | ⟨key, callback⟩, state⟩
    · simp only [Scheduler.resume, hpop, framesAfter]
      refine .wentOn rest ?_ ?_ ?_
      · simp [ended?, hresumed, Scheduler.resume, hpop]
      · simp [popped?, hresumed, hpop, Frame.events, Activation.events]
      · simp [firedKey?, fired?, hresumed, Frame.dispatched?, Activation.dispatched?]
    · simp only [Scheduler.resume, hpop, framesAfter_callIfPresent]
      refine .wentOn rest ?_ ?_ ?_
      · cases callback <;>
          simp [ended?, hresumed, Scheduler.resume, hpop, Effect.callIfPresent]
      · simp [popped?, hresumed, hpop, Frame.events, Activation.events]
      · simp [firedKey?, fired?, hresumed, Frame.dispatched?, Activation.dispatched?]
  | evaluate events now =>
    rcases hdecision : s.scheduler.state.evaluate s.scheduler.config now with
      ⟨⟨key, callback⟩ | _ | wait, state⟩
    · simp only [Scheduler.resume, hdecision, framesAfter_callIfPresent]
      refine .wentOn rest ?_ ?_ ?_
      · cases callback <;>
          simp [ended?, hresumed, Scheduler.resume, hdecision, Effect.callIfPresent]
      · simp [popped?, hresumed, Frame.events, Activation.events]
      · simp [firedKey?, fired?, hresumed, hdecision, Decision.fired?, Frame.dispatched?,
          Activation.dispatched?]
    · simp only [Scheduler.resume, hdecision, framesAfter]
      have hended : s.ended? .resume = some ⟨events, .recheck⟩ := by
        simp [ended?, hresumed, Scheduler.resume, hdecision]
      refine .ended rest hended ?_ ?_ rfl rfl
      · simp [popped?, hresumed]
      · simp [firedKey?, fired?, hresumed, hdecision, Decision.fired?]
    · simp only [Scheduler.resume, hdecision, framesAfter]
      refine .wentOn rest ?_ ?_ ?_
      · simp [ended?, hresumed, Scheduler.resume, hdecision]
      · simp [popped?, hresumed, Frame.events, Activation.events]
      · simp [firedKey?, fired?, hresumed, hdecision, Decision.fired?, Frame.dispatched?,
          Activation.dispatched?]
  | eventReturned _ _ _ | timerReturned _ _ _ | settle _ _ _ _ =>
    simp only [Scheduler.resume, framesAfter]
    refine .wentOn rest ?_ ?_ ?_ <;>
      simp [ended?, popped?, firedKey?, fired?, hresumed, Scheduler.resume, Frame.events,
        Activation.events, Frame.dispatched?, Activation.dispatched?, PassEnd.fired?]
  | woken events wait =>
    have hended : s.ended? .resume = some ⟨events, .parked wait⟩ := by
      simp [ended?, hresumed, Scheduler.resume]
    exact .ended rest hended (by simp [popped?, hresumed])
      (by simp [firedKey?, fired?, hresumed]) rfl rfl
  | ended pass =>
    exact .ended rest (by simp [ended?, hresumed, Scheduler.resume]) (by simp [popped?, hresumed])
      (by simp [firedKey?, fired?, hresumed]) rfl rfl

/-- **All that a step may do to the passes in progress.** -/
theorem step_passes (hwf : s.WellFormed c) (h : s.step m = some s') :
    PassStep s m s.passes s'.passes := by
  have hquiet (hresumed : s.resumed? m = none) :
      s.popped? m = none ∧ s.firedKey? m = none ∧ s.ended? m = none := by
    simp [popped?, firedKey?, fired?, ended?, hresumed]
  cases Step.of_step h with
  | enter => exact .entered _ rfl rfl rfl
  | @read next rest hpasses =>
    obtain ⟨hpopped, hfired, hended⟩ := hquiet (by simp [resumed?, hpasses])
    rw [hpasses]
    cases hwf.passes _ (hpasses ▸ List.mem_cons_self) with
    | readEvaluate | readSettle =>
      refine .wentOn rest hended ?_ ?_ <;>
        simp [hpopped, hfired, Frame.events, Activation.events, Frame.dispatched?,
          Activation.dispatched?]
  | @unparked wait next readAt rest hpasses =>
    obtain ⟨hpopped, hfired, hended⟩ := hquiet (by simp [resumed?, hpasses])
    rw [hpasses]
    exact .wentOn rest hended (by simp [hpopped, Frame.events])
      (by simp [hfired, Frame.dispatched?])
  | goOn hpasses =>
    rw [hpasses]
    exact goOn_passes hpasses
  | _ =>
    obtain ⟨hpopped, hfired, hended⟩ := hquiet rfl
    exact .kept _ hpopped hfired hended

/-! ### All passes together -/

/-- What a step fires is with a pass in progress until that reports it. -/
theorem step_reported (hwf : s.WellFormed c) (h : s.step m = some s') :
    ((s.reported? m).toList ++ s'.dispatching).Perm (s.dispatching ++ (s.firedKey? m).toList) := by
  have hpasses := step_passes hwf h
  rw [dispatching, dispatching]
  generalize s.passes = before, s'.passes = after at hpasses
  cases hpasses with
  | kept _ hpopped hfired hended => simp [reported?, hended, hfired]
  | entered _ hmove hevents hdispatched =>
    subst hmove
    simp [reported?, ended?, firedKey?, fired?, resumed?, hdispatched]
  | wentOn rest hended hevents hdispatched =>
    simp only [reported?, hended, Option.bind_none, Option.toList_none, List.nil_append,
      List.flatMap_cons, hdispatched, List.append_assoc]
    exact List.perm_append_comm.append_left _
  | ended rest hended hpopped hfired hevents hdispatched =>
    simp [reported?, hended, hfired, hdispatched]

/-- **The timers that were fired** are those that passes have reported, and those of passes in
progress. -/
theorem Run.reported_perm (h : Run c ok past s) :
    (log reported? past ++ s.dispatching).Perm (log firedKey? past) :=
  h.carried_perm reported? dispatching firedKey? (fun _ _ => rfl)
    fun hrun => step_reported hrun.wellFormed

/-- Along a path, no more passes report a timer than fire one on it or have fired one before. -/
theorem Path.length_reported_le (h : Run c ok past s) (hpath : Path ok past s later s') :
    (log reported? later).length ≤ s.dispatching.length + (log firedKey? later).length := by
  have hbefore := h.reported_perm.length_eq
  have hafter := (h.append hpath).reported_perm.length_eq
  simp only [log_append, List.length_append] at hbefore hafter
  omega

/-! ### One pass -/

/-- The passes from the outermost up to `depth` are not over. -/
abbrev Within (depth : Nat) : Condition κ :=
  fun _ _ _ s' => depth ≤ s'.passes.length

/-- The pass `frame`, in the depth that it has among the passes `rest` around it, has done by itself
what the steps `later` say about this depth. -/
structure Tally (later : History κ) (frame : Frame κ) (rest : List (Frame κ)) : Prop where
  events_eq : frame.events = (log (atDepth (rest.length + 1) popped?) later).length
  dispatched_eq :
    frame.dispatched?.toList = log (atDepth (rest.length + 1) firedKey?) later

/-- Steps of other passes do not count. -/
theorem Tally.concat_of_ne {frame : Frame κ} {rest : List (Frame κ)} (h : Tally later frame rest)
    (hdepth : s.passes.length ≠ rest.length + 1) : Tally (later ++ [(s, m)]) frame rest := by
  obtain ⟨hevents, hdispatched⟩ := h
  constructor
  · simpa [log_concat, atDepth, hdepth] using hevents
  · simpa [log_concat, atDepth, hdepth] using hdispatched

/-- **A pass counts its own events and its own timer**, whatever is nested in it. -/
theorem Path.tally {frame : Frame κ} {rest : List (Frame κ)} (hwf : s.WellFormed c)
    (hpasses : s.passes = frame :: rest) (hevents : frame.events = 0)
    (hdispatched : frame.dispatched? = none)
    (hpath : Path (Within (rest.length + 1)) past s later s') :
    s'.WellFormed c ∧
      ∃ inner frame', s'.passes = inner ++ frame' :: rest ∧ Tally later frame' rest := by
  induction hpath with
  | nil => exact ⟨hwf, [], frame, hpasses, by simp [hevents, log], by simp [hdispatched, log]⟩
  | @snoc later s' s'' m _ hstep hok ih =>
    obtain ⟨hwf', inner, frame', hpasses', htally⟩ := ih
    refine ⟨hwf'.step hstep, ?_⟩
    have hstepped := step_passes hwf' hstep
    have hdepth {outer : Frame κ} {others : List (Frame κ)} (hinner : inner = outer :: others) :
        s'.passes.length ≠ rest.length + 1 := by
      rw [hpasses', hinner, List.length_append, List.length_cons, List.length_cons]
      omega
    generalize hafter : s''.passes = after at hstepped
    generalize hbefore : s'.passes = before at hstepped
    cases hstepped with
    | kept _ hpopped hfired hended =>
      refine ⟨inner, frame', hbefore.symm.trans hpasses', ?_, ?_⟩
      · simpa [log_concat, atDepth, hpopped] using htally.events_eq
      · simpa [log_concat, atDepth, hfired] using htally.dispatched_eq
    | @entered new _ hmove _ _ =>
      subst hmove
      refine ⟨new :: inner, frame', by rw [← hbefore, hpasses', List.cons_append], ?_, ?_⟩
      · simpa [log_concat, atDepth, popped?, resumed?] using htally.events_eq
      · simpa [log_concat, atDepth, firedKey?, fired?, resumed?] using htally.dispatched_eq
    | @wentOn top top' behind hended hevents' hdispatched' =>
      rw [hbefore] at hpasses'
      cases inner with
      | nil =>
        -- The pass is at work itself.
        obtain ⟨rfl, rfl⟩ := List.cons.inj hpasses'
        have hown : s'.passes.length = behind.length + 1 := by rw [hbefore, List.length_cons]
        refine ⟨[], top', rfl, ?_, ?_⟩
        · rw [log_concat, List.length_append, atDepth, if_pos hown, hevents', htally.events_eq]
        · rw [log_concat, atDepth, if_pos hown, hdispatched', htally.dispatched_eq]
      | cons outer others =>
        obtain ⟨rfl, rfl⟩ := List.cons.inj hpasses'
        exact ⟨top' :: others, frame', rfl, htally.concat_of_ne (hdepth rfl)⟩
    | @ended top pass behind hended hpopped hfired _ _ =>
      rw [hbefore] at hpasses'
      cases inner with
      | nil =>
        obtain ⟨rfl, rfl⟩ := List.cons.inj hpasses'
        rw [Within, hafter] at hok
        exact absurd hok (Nat.not_succ_le_self _)
      | cons outer others =>
        obtain ⟨rfl, rfl⟩ := List.cons.inj hpasses'
        exact ⟨others, frame', rfl, htally.concat_of_ne (hdepth rfl)⟩

/-- **What a pass reports** is how many events it has taken off their queue and which timer it has
fired, with the steps that it made itself. -/
theorem Path.reports {readAt : Nat} {rest : List (Frame κ)} {pass : Pass} (hwf : s.WellFormed c)
    (hpasses : s.passes = .ready .start readAt :: rest)
    (hpath : Path (Within (rest.length + 1)) past s later s')
    (hdepth : s'.passes.length = rest.length + 1) (hended : s'.ended? m = some pass) :
    pass.events = (log (atDepth (rest.length + 1) popped?) later).length ∧
      pass.ending.fired?.toList = log (atDepth (rest.length + 1) firedKey?) later := by
  obtain ⟨hwf', inner, frame, hpasses', htally⟩ := hpath.tally hwf hpasses rfl rfl
  obtain rfl : inner = [] := by
    rw [hpasses', List.length_append, List.length_cons] at hdepth
    exact List.eq_nil_of_length_eq_zero (by omega)
  obtain ⟨rfl, -⟩ := passes_of_ended? hended
  have hstep : ∃ s'', s'.step .resume = some s'' := by
    simp [step, hpasses']
  obtain ⟨s'', hstep⟩ := hstep
  have hstepped := step_passes hwf' hstep
  rw [hpasses'] at hstepped
  generalize s''.passes = after at hstepped
  generalize hbefore : [] ++ frame :: rest = before at hstepped
  cases hstepped with
  | kept _ hpopped hfired hnone => simp [hended] at hnone
  | entered _ hmove _ _ => cases hmove
  | wentOn behind hnone _ _ => simp [hended] at hnone
  | ended behind hended' hpopped hfired hevents hdispatched =>
    obtain ⟨rfl, rfl⟩ := List.cons.inj hbefore
    rw [hended] at hended'
    cases hended'
    exact ⟨hevents.trans htally.events_eq, by rw [hdispatched, htally.dispatched_eq]⟩

end Host

end CoopScheduler
