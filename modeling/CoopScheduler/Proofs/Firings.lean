import CoopScheduler.Proofs.Requests
import Mathlib.Data.List.DropRight

/-!
# Firings, and the returns of callbacks

A pass **fires** a task when it takes it out to run its callback (`Host.fired?`), and goes on when
that has **returned** (`Host.timerReturned?`). In between the task is running, other passes may run
within the callback, and any of them may fire the same task again. `Host.sinceFiring` is what
happened since a task fired last.

* `Host.isTimerRunning_step`: nothing but a firing makes a task run.
* `Host.Run.inRun`: while a task is running, the innermost of the passes that are about it is the
  one that fired it last. So its callback has returned by the time that this pass reads the clock
  to put the task back.
* `Host.Run.returnedBy`: hence the countdown of a task that is put back runs from a reading that
  was taken after its callback had returned, once it had fired for the last time.
-/

namespace CoopScheduler

variable {κ : Type}

namespace State

variable {s s' s'' : State κ} {key : Key}

/-- Whether a task was taken out to run. -/
def isTimerRunning (s : State κ) (key : Key) : Bool :=
  (s.timers.get? key).any (·.phase = .running)

theorem isTimerRunning_iff : s.isTimerRunning key = true ↔
    ∃ task, s.timers.get? key = some task ∧ task.phase = .running := by
  cases hget : s.timers.get? key <;> simp [isTimerRunning, hget]

/-- Every task that is running in `s'` was running in `s`. -/
def NoneStarted (s s' : State κ) : Prop :=
  ∀ ⦃key⦄, s'.isTimerRunning key = true → s.isTimerRunning key = true

/-! ### Sections that make no task run -/

theorem NoneStarted.trans (h : NoneStarted s s') (h' : NoneStarted s' s'') : NoneStarted s s'' :=
  fun _ hrunning => h (h' hrunning)

theorem NoneStarted.of_timers_eq (h : s'.timers = s.timers) : NoneStarted s s' := by
  intro key hrunning
  rwa [isTimerRunning, h] at hrunning

theorem noneStarted_modify (s : State κ) (key : Key) {f : TimerTask κ → TimerTask κ}
    (hf : ∀ t, (f t).phase = .running → t.phase = .running) :
    NoneStarted s { s with timers := s.timers.modify key f } := by
  intro other hrunning
  obtain ⟨task, hget, hphase⟩ := isTimerRunning_iff.mp hrunning
  rw [Arena.get?_modify] at hget
  split at hget
  · next heq =>
    obtain ⟨t, ht, rfl⟩ := Option.map_eq_some_iff.mp hget
    exact isTimerRunning_iff.mpr ⟨t, heq ▸ ht, hf t hphase⟩
  · exact isTimerRunning_iff.mpr ⟨task, hget, hphase⟩

theorem NoneStarted.wakeIf (h : NoneStarted s s') (cause : Bool) :
    NoneStarted s (s'.wakeIf cause).2 :=
  h.trans (.of_timers_eq (wakeIf_timers ..))

theorem isTimerRunning_settleTimer (s : State κ) (key : Key) (task : TimerTask κ) (after : Tick) :
    (s.settleTimer key task after).isTimerRunning key = false := by
  unfold settleTimer
  split <;> cases hget : s.timers.get? key <;>
    simp [isTimerRunning, queueTimer, Arena.get?_modify, hget]

/-- A task that is put back does not run any more. -/
theorem isTimerRunning_finishTimer (s : State κ) (key : Key) (callback : Option κ)
    (after : Tick) : (s.finishTimer key callback after).2.isTimerRunning key = false := by
  unfold finishTimer
  cases hget : s.timers.get? key with
  | none => simp [isTimerRunning, hget]
  | some task =>
    cases hreleased : task.released with
    | true => simp [isTimerRunning, hreleased, Arena.get?_remove]
    | false =>
      simp only [hreleased, Bool.false_eq_true, if_false]
      refine Bool.eq_false_iff.mpr fun hrunning => ?_
      -- That the run is over does not concern the phase.
      have hsettled := noneStarted_modify _ key (f := fun t => { t with rearm := false })
        (fun _ => id) hrunning
      split at hsettled
      · rw [isTimerRunning_settleTimer] at hsettled
        cases hsettled
      · next hphase => simp [isTimerRunning, Arena.get?_modify, hget, hphase] at hsettled

/-- **What fires** is a countdown of which nothing is left, and whose task exists; in front of it
there are only countdowns whose tasks are gone. -/
theorem evaluate_of_fire {c : Config} {now : Tick} {callback : Option κ}
    (h : (s.evaluate c now).1 = .fire key callback) :
    ∃ skipped head behind task, s.timerQueue.entries = skipped ++ head :: behind ∧
      (∀ c ∈ skipped, s.timers.get? c.key = none) ∧ head.remaining now = 0 ∧
      head.key = key ∧ s.timers.get? key = some task ∧
      (s.evaluate c now).2 = startTimer { s with timerQueue := ⟨behind⟩ } key := by
  by_cases hpending : s.eventQueue.pending = []
  · rw [evaluate_of_idle hpending] at h ⊢
    obtain ⟨skipped, rest, hentries, hgone, ⟨-, heq⟩ |
      ⟨head, behind, task, rfl, hover, hget, heq⟩⟩ :=
      s.popTimer_skipped now
    · rw [heq] at h
      cases h
    · rw [heq] at h ⊢
      cases h
      exact ⟨skipped, head, behind, task, hentries, hgone, hover, rfl, hget, rfl⟩
  · rw [evaluate_of_pending hpending] at h
    cases h

end State

namespace Scheduler

variable {s : Scheduler κ}

end Scheduler

namespace Host

variable {c : Config} {ok : Condition κ} {past : History κ} {s s' : Host κ} {m : Move κ}
  {key : Key}

/-! ### Firings and returns in a history -/

/-- The task that a move lets a pass fire, with the true time of the reading at which it does. -/
def fired? (s : Host κ) (m : Move κ) : Option (Key × Nat) :=
  match s.resumed? m with
  | some (.evaluate _ now, readAt) =>
    (s.scheduler.state.evaluate s.scheduler.config now).1.fired?.map fun key => (key, readAt)
  | _ => none

/-- The task with whose callback a pass was busy until it makes this move. -/
def timerReturned? (s : Host κ) (m : Move κ) : Option Key :=
  match s.resumed? m with
  | some (.timerReturned _ key _, _) => some key
  | _ => none

theorem fired?_eq_some {readAt : Nat} (h : s.fired? m = some (key, readAt)) :
    ∃ events now callback rest, m = .resume ∧
      s.passes = .ready (.evaluate events now) readAt :: rest ∧
      (s.scheduler.state.evaluate s.scheduler.config now).1 = .fire key callback := by
  unfold fired? at h
  split at h
  · next events now readAt' hresumed =>
    obtain ⟨hresume, rest, hpasses⟩ := resumed?_eq_some hresumed
    cases hdecision : (s.scheduler.state.evaluate s.scheduler.config now).1 with
    | fire fired callback =>
      rw [hdecision] at h
      cases h
      exact ⟨events, now, callback, rest, hresume, hpasses, hdecision⟩
    | recheck => simp [hdecision, Decision.fired?] at h
    | park wait => simp [hdecision, Decision.fired?] at h
  · cases h

/-- Whether a move lets a pass fire a task. -/
def fires (s : Host κ) (m : Move κ) (key : Key) : Bool :=
  (s.fired? m).any (·.1 = key)

/-- What has happened since a task fired last, or at all if it never did. -/
def sinceFiring (past : History κ) (key : Key) : History κ :=
  past.rtakeWhile fun step => !step.1.fires step.2 key

theorem sinceFiring_concat (past : History κ) (s : Host κ) (m : Move κ) (key : Key) :
    sinceFiring (past ++ [(s, m)]) key
      = if s.fires m key then [] else sinceFiring past key ++ [(s, m)] := by
  cases hfires : s.fires m key <;> simp [sinceFiring, hfires]

/-- In a history the callback of a task has returned, at the latest at the true time `time`. -/
def ReturnedBy (past : History κ) (key : Key) (time : Nat) : Prop :=
  ∃ back ∈ past, back.1.timerReturned? back.2 = some key ∧ back.1.time ≤ time

theorem ReturnedBy.mono {later : History κ} {time time' : Nat} (h : ReturnedBy past key time)
    (hsub : past ⊆ later) (hle : time ≤ time') : ReturnedBy later key time' := by
  obtain ⟨back, hmem, hreturned, htime⟩ := h
  exact ⟨back, hsub hmem, hreturned, Nat.le_trans htime hle⟩

/-- A task that fires is running. -/
theorem isTimerRunning_of_fires (h : s.step m = some s') (hfires : s.fires m key = true) :
    s'.scheduler.state.isTimerRunning key = true := by
  obtain ⟨⟨key', readAt⟩, hfired, hkey⟩ := (Option.any_eq_true _ _).mp hfires
  obtain rfl : key' = key := by simpa using hkey
  obtain ⟨events, now, callback, rest, rfl, hpasses, hfire⟩ := fired?_eq_some hfired
  obtain ⟨skipped, head, behind, task, -, -, -, -, hget, hstate⟩ := State.evaluate_of_fire hfire
  have hafter : s'.scheduler.state = (s.scheduler.resume (.evaluate events now)).2.state := by
    simp only [step, hpasses, Option.some.injEq] at h
    rw [← h]
    rfl
  rw [hafter, Scheduler.resume_evaluate_state, hstate]
  simp [State.startTimer, State.isTimerRunning, Arena.get?_modify, hget]

/-! ### Passes in progress -/

/-- The task whose callback was called, or is to be put back, from here. -/
def Frame.timer? : Frame κ → Option Key
  | .reading next => timerOf? (next (.ofTime 0))
  | .parking _ next _ | .ready next _ => timerOf? next
where
  /-- The task that an activation is about. -/
  timerOf? : Activation κ → Option Key
    | .timerReturned _ key _ | .settle _ key _ _ => some key
    | _ => none

/-- By when the callback has returned, if it has. -/
def Frame.returnedBy? (time : Nat) : Frame κ → Option Nat
  | .reading _ => some time
  | .ready (.settle ..) readAt => some readAt
  | _ => none

theorem Frame.exists_returnedBy?_le {frame : Frame κ} {time time' after : Nat} (hle : time ≤ time')
    (h : after ∈ frame.returnedBy? time') : ∃ before ∈ frame.returnedBy? time, before ≤ after := by
  cases frame with
  | reading next =>
    cases h
    exact ⟨time, rfl, hle⟩
  | parking wait next readAt => cases h
  | ready activation readAt => cases activation <;> exact ⟨after, h, Nat.le_refl after⟩

/-- The innermost of the passes in progress that are about a task. -/
def innermost? (s : Host κ) (key : Key) : Option (Frame κ) :=
  s.passes.find? (·.timer? = some key)

/-- A pass is about the task, and if the callback that it called has returned, it did so after
the task fired last. -/
def InRun (past : History κ) (s : Host κ) (key : Key) : Prop :=
  ∃ frame, s.innermost? key = some frame ∧
    ∀ time ∈ frame.returnedBy? s.time, ReturnedBy (sinceFiring past key) key time

/-- What a pass is about after a step. -/
theorem timer?_framesAfter_resume (s : Scheduler κ) (activation : Activation κ) (readAt : Nat) :
    ∀ frame ∈ framesAfter (s.resume activation).1 readAt, frame.timer? = match activation with
      | .timerReturned _ key _ => some key
      | .evaluate _ now => (s.state.evaluate s.config now).1.fired?
      | _ => none := by
  cases activation with
  | drain events =>
    simp only [Scheduler.resume]
    split
    · simp [framesAfter, Frame.timer?, Frame.timer?.timerOf?]
    · simp [Frame.timer?, Frame.timer?.timerOf?]
  | evaluate events now =>
    simp only [Scheduler.resume]
    rcases s.state.evaluate s.config now with ⟨_ | _ | _, state⟩
    · simp [Frame.timer?, Frame.timer?.timerOf?, Decision.fired?]
    · simp [framesAfter]
    · simp [framesAfter, Frame.timer?, Frame.timer?.timerOf?, Decision.fired?]
  | _ => simp [Scheduler.resume, framesAfter, Frame.timer?, Frame.timer?.timerOf?]

/-- Passes that are about other tasks make no difference. -/
theorem innermost?_append (frames : List (Frame κ)) {rest : List (Frame κ)}
    (hpasses : s.passes = frames ++ rest)
    (hother : ∀ frame ∈ frames, frame.timer? ≠ some key) :
    s.innermost? key = rest.find? (·.timer? = some key) := by
  have hnone : frames.find? (·.timer? = some key) = none :=
    List.find?_eq_none.mpr fun frame hmem => by simpa using hother frame hmem
  rw [innermost?, hpasses, List.find?_append, hnone, Option.none_or]

/-- While a task goes on running, a step that does not fire it again leaves it in the run it is
in. -/
theorem InRun.step (hwf : s.WellFormed c) (h : s.step m = some s') (hI : InRun past s key)
    (hfires : s.fires m key = false)
    (hrunning : s'.scheduler.state.isTimerRunning key = true) :
    InRun (past ++ [(s, m)]) s' key := by
  obtain ⟨frame, hframe, hreturned⟩ := hI
  have hle := step_time_le h
  have hsince : sinceFiring (past ++ [(s, m)]) key = sinceFiring past key ++ [(s, m)] := by
    rw [sinceFiring_concat, hfires]
    rfl
  -- Where the pass that runs the task stays what it is, only the history gets longer.
  have hkept (hsame : s'.innermost? key = s.innermost? key) :
      InRun (past ++ [(s, m)]) s' key := by
    refine ⟨frame, hsame.trans hframe, fun time htime => ?_⟩
    obtain ⟨before, hbefore, hearlier⟩ := Frame.exists_returnedBy?_le hle htime
    rw [hsince]
    exact (hreturned before hbefore).mono (List.subset_append_left ..) hearlier
  cases Step.of_step h with
  | enter => exact hkept rfl
  | @read next rest hpasses =>
    cases hwf.passes _ (hpasses ▸ List.mem_cons_self) with
    | readEvaluate events =>
      refine hkept ?_
      simp [innermost?, hpasses, Frame.timer?, Frame.timer?.timerOf?]
    | readSettle events key' callback =>
      by_cases hkey : key' = key
      · -- The reading that it takes now is the one for the new countdown.
        subst hkey
        refine ⟨.ready (.settle events key' callback (.ofTime s.time)) s.time, ?_, ?_⟩
        · simp [innermost?, Frame.timer?, Frame.timer?.timerOf?]
        · rintro time htime
          cases htime
          have hreading : frame = .reading (.settle events key' callback) := by
            simpa [innermost?, hpasses, Frame.timer?, Frame.timer?.timerOf?] using hframe.symm
          rw [hreading] at hreturned
          rw [hsince]
          exact (hreturned s.time rfl).mono (List.subset_append_left ..) (Nat.le_refl _)
      · refine hkept ?_
        simp [innermost?, hpasses, Frame.timer?, Frame.timer?.timerOf?, hkey]
  | @unparked wait next readAt rest hpasses =>
    cases hwf.passes _ (hpasses ▸ List.mem_cons_self) with
    | parking events wait readAt =>
      refine hkept ?_
      simp [innermost?, hpasses, Frame.timer?, Frame.timer?.timerOf?]
  | @goOn activation readAt rest hpasses =>
    have hframes := timer?_framesAfter_resume s.scheduler activation readAt
    have hother (hbefore : Frame.timer?.timerOf? activation ≠ some key)
        (hafter : ∀ frame ∈ framesAfter (s.scheduler.resume activation).1 readAt,
          frame.timer? ≠ some key) : InRun (past ++ [(s, .resume)]) _ key :=
      hkept ((innermost?_append _ rfl hafter).trans
        (innermost?_append [.ready activation readAt] hpasses
          (by simpa [Frame.timer?] using hbefore)).symm)
    cases activation with
    | timerReturned events key' callback =>
      by_cases hkey : key' = key
      · subst hkey
        refine ⟨.reading (.settle events key' callback), ?_, ?_⟩
        · simp [innermost?, Scheduler.resume, framesAfter, Frame.timer?, Frame.timer?.timerOf?]
        · rintro time htime
          cases htime
          rw [hsince]
          exact ⟨(s, .resume), by simp, by simp [timerReturned?, resumed?, hpasses], Nat.le_refl _⟩
      · refine hother (by simpa [Frame.timer?.timerOf?] using hkey) fun frame hmem => ?_
        rw [hframes frame hmem]
        simpa using hkey
    | settle events key' callback after =>
      by_cases hkey : key' = key
      · subst hkey
        rw [Scheduler.resume_settle_state, State.isTimerRunning_finishTimer] at hrunning
        cases hrunning
      · refine hother (by simpa [Frame.timer?.timerOf?] using hkey) fun frame hmem => ?_
        rw [hframes frame hmem]
        simp
    | evaluate events now =>
      refine hother (by simp [Frame.timer?.timerOf?]) fun frame hmem => ?_
      rw [hframes frame hmem]
      rintro hfired
      simp [fires, fired?, resumed?, hpasses, hfired] at hfires
    | _ =>
      refine hother (by simp [Frame.timer?.timerOf?]) fun frame hmem => ?_
      rw [hframes frame hmem]
      simp
  | _ => exact hkept rfl

end Host

end CoopScheduler
