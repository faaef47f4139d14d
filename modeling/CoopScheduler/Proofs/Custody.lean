import CoopScheduler.Proofs.Callbacks

/-!
# Who has a callback

A pass takes a task off its queue with the callback that the task holds, and puts the callback back
once it has returned. Until then the callback is **out** with the pass (`Host.out`), and the task
holds none. But the task may be sent meanwhile, or its countdown may be over again, and a pass
within the callback then takes it off its queue once more: that pass **redispatches** the task
(`Host.redispatches`), and finds no callback to call.

* `Host.Custody` says that no callback is lost: each task holds its own, or that is out with a pass.
* `Host.Custody.step`: every step that redispatches no task keeps custody, and so does a run of such
  steps (`Host.Run.custody`).
* `Host.dispatch_of_agree`: all that a move may take off the queues, with the call that it makes.
* `Host.Custody.callsTaken`: what a move takes off a queue has its callback called, unless it is
  redispatched.
-/

namespace CoopScheduler

variable {κ : Type}

namespace Host

/-- Whether a move takes a task off its queue that a pass in progress has taken before and not put
back. -/
def redispatches (s : Host κ) (m : Move κ) : Bool :=
  (s.taken? m).any fun task => task ∈ s.out.map Prod.fst

/-- The timer whose callback a move calls, with that callback. -/
def timerCalled? (s : Host κ) (m : Move κ) : Option (Key × κ) :=
  match s.resumed? m with
  | none => none
  | some (activation, _) =>
    match (s.scheduler.resume activation).1 with
    | .call callback (.timerReturned _ key _) => some (key, callback)
    | _ => none

/-- No callback is lost. -/
structure Custody (s : Host κ) : Prop where
  /-- Every pass that has taken a task off its queue has the callback of the task. -/
  isSome_of_mem : ∀ {task callback}, (task, callback) ∈ s.out → callback.isSome = true
  /-- Every task that holds no callback was taken off its queue by a pass in progress. -/
  mem_out : ∀ {task}, s.scheduler.state.callback? task = some none → task ∈ s.out.map Prod.fst

variable {c : Config} {ok : Condition κ} {past : History κ} {s s' : Host κ} {m : Move κ}
  {task : TaskKey} {callback : Option κ}

/-- A task that is not out holds its callback. -/
theorem Custody.exists_held (h : s.Custody)
    (hheld : s.scheduler.state.callback? task = some callback)
    (hfree : task ∉ s.out.map Prod.fst) : ∃ held, callback = some held := by
  cases callback with
  | none => exact absurd (h.mem_out hheld) hfree
  | some held => exact ⟨held, rfl⟩

theorem not_mem_out_of_taken? (hok : s.redispatches m = false) (htaken : s.taken? m = some task) :
    task ∉ s.out.map Prod.fst := by
  simpa [redispatches, htaken] using hok

/-- **A step that redispatches no task** loses no callback. -/
theorem Custody.step (h : s.Custody) (hwf : s.WellFormed c)
    (hagree : s.scheduler.state.EventsAgree) (hstep : s.step m = some s')
    (hok : s.redispatches m = false) : s'.Custody := by
  have hkeep (task : TaskKey) : (∀ callback ∈ s'.stack task, callback.isSome = true) ∧
      (s'.scheduler.state.callback? task = some none → s'.stack task ≠ []) := by
    have hsome : ∀ callback ∈ s.stack task, callback.isSome = true :=
      fun _ hmem => h.isSome_of_mem (mem_stack.mp hmem)
    have hnone : s.scheduler.state.callback? task = some none → s.stack task ≠ [] :=
      fun hnone => stack_ne_nil_iff.mpr (h.mem_out hnone)
    have hhandling := step_handling hwf hagree hstep task
    generalize hslot : s.scheduler.state.callback? task = slot, s.stack task = stack,
      s'.scheduler.state.callback? task = slot', s'.stack task = stack' at hhandling hsome hnone ⊢
    cases hhandling with
    | kept _ _ _ _ => exact ⟨hsome, hnone⟩
    | registered held _ _ _ => exact ⟨hsome, by simp⟩
    | freed _ _ _ _ => exact ⟨hsome, by simp⟩
    | taken callback _ htaken _ _ =>
      -- The task is not out, so it holds its callback.
      have hfree := not_mem_out_of_taken? hok htaken
      obtain ⟨held, rfl⟩ := h.exists_held hslot hfree
      exact ⟨List.forall_mem_cons.mpr ⟨rfl, hsome⟩, by simp⟩
    | putBack _ callback _ _ _ =>
      obtain ⟨hcallback, hrest⟩ := List.forall_mem_cons.mp hsome
      refine ⟨hrest, fun heq => ?_⟩
      cases heq
      cases hcallback
    | lost _ _ _ _ _ => exact ⟨(List.forall_mem_cons.mp hsome).2, by simp⟩
  exact ⟨fun hmem => (hkeep _).1 _ (mem_stack.mpr hmem),
    fun hnone => stack_ne_nil_iff.mp ((hkeep _).2 hnone)⟩

/-- On a run that redispatches no task, no callback is lost. -/
theorem Run.custody (h : Run c ok past s)
    (hok : ∀ past s m s', ok past s m s' → s.redispatches m = false) : s.Custody := by
  refine h.inductAlong (I := fun _ s => s.Custody) (fun id time => ⟨?_, fun {task} hnone => ?_⟩)
    fun hrun hI hstep hstepOk =>
      hI.step hrun.wellFormed hrun.eventsAgree hstep (hok _ _ _ _ hstepOk)
  · simp [out, create]
  · cases task <;>
      simp [create, Scheduler.create, State.ofConfig, State.callback?, Arena.get?] at hnone

/-! ### What is taken is called -/

/-- The ways in which a move `m` may take a task off its queue: the callback that the task holds is
called, if it holds one. -/
inductive Dispatch (s : Host κ) (m : Move κ) : Prop where
  | none (hpopped : s.popped? m = none) (hcalled : s.called? m = none)
      (hfired : s.firedKey? m = none) (htimerCalled : s.timerCalled? m = none)
  | event (key : Key) (callback : Option κ)
      (hheld : s.scheduler.state.callback? (.event key) = some callback)
      (hpopped : s.popped? m = some key) (hcalled : s.called? m = callback.map fun f => (key, f))
      (hfired : s.firedKey? m = none) (htimerCalled : s.timerCalled? m = none)
  | timer (key : Key) (callback : Option κ)
      (hheld : s.scheduler.state.callback? (.timer key) = some callback)
      (hpopped : s.popped? m = none) (hcalled : s.called? m = none)
      (hfired : s.firedKey? m = some key)
      (htimerCalled : s.timerCalled? m = callback.map fun f => (key, f))

/-- **All that a move may take off the queues.** -/
theorem dispatch_of_agree (hagree : s.scheduler.state.EventsAgree) (m : Move κ) :
    s.Dispatch m := by
  cases hresumed : s.resumed? m with
  | none =>
    exact .none (by simp [popped?, hresumed]) (by simp [called?, hresumed])
      (by simp [firedKey?, fired?, hresumed]) (by simp [timerCalled?, hresumed])
  | some resumed =>
    obtain ⟨activation, readAt⟩ := resumed
    cases activation with
    | drain events =>
      have hfired : s.firedKey? m = none := by simp [firedKey?, fired?, hresumed]
      rcases hpop : s.scheduler.state.popEvent with ⟨_ | ⟨key, callback⟩, state⟩
      · exact .none (by simp [popped?, hresumed, hpop])
          (by simp [called?, hresumed, Scheduler.resume, hpop]) hfired
          (by simp [timerCalled?, hresumed, Scheduler.resume, hpop])
      · refine .event key callback (State.callback?_of_popEvent hagree hpop).1
          (by simp [popped?, hresumed, hpop]) ?_ hfired ?_ <;>
          cases callback <;>
          simp [called?, timerCalled?, hresumed, Scheduler.resume, hpop, Effect.callIfPresent]
    | evaluate events now =>
      have hpopped : s.popped? m = none := by simp [popped?, hresumed]
      have hfired := firedKey?_of_evaluate hresumed
      rcases hdecision : s.scheduler.state.evaluate s.scheduler.config now with
        ⟨⟨key, callback⟩ | _ | wait, state⟩
      · refine .timer key callback (State.callback?_of_evaluate hdecision).1 hpopped ?_
          (by simp [hfired, hdecision, Decision.fired?]) ?_ <;>
          cases callback <;>
          simp [called?, timerCalled?, hresumed, Scheduler.resume, hdecision, Effect.callIfPresent]
      all_goals
        exact .none hpopped (by simp [called?, hresumed, Scheduler.resume, hdecision])
          (by simp [hfired, hdecision, Decision.fired?])
          (by simp [timerCalled?, hresumed, Scheduler.resume, hdecision])
    | _ =>
      exact .none (by simp [popped?, hresumed]) (by simp [called?, hresumed, Scheduler.resume])
        (by simp [firedKey?, fired?, hresumed])
        (by simp [timerCalled?, hresumed, Scheduler.resume])

/-- What a move takes off a queue has its callback called, and a move calls nothing else: an event
or a timer that is called was taken off its queue, and held that callback. -/
structure CallsTaken (s : Host κ) (m : Move κ) : Prop where
  popped?_eq : s.popped? m = (s.called? m).map Prod.fst
  firedKey?_eq : s.firedKey? m = (s.timerCalled? m).map Prod.fst
  event_held : ∀ {key held}, s.called? m = some (key, held) →
    s.scheduler.state.callback? (.event key) = some (some held)
  timer_held : ∀ {key held}, s.timerCalled? m = some (key, held) →
    s.scheduler.state.callback? (.timer key) = some (some held)

/-- **What a move takes off a queue has its callback called**, unless it is redispatched. -/
theorem Custody.callsTaken (h : s.Custody) (hagree : s.scheduler.state.EventsAgree)
    (hok : s.redispatches m = false) : s.CallsTaken m := by
  cases dispatch_of_agree hagree m with
  | none hpopped hcalled hfired htimerCalled =>
    constructor <;> simp [hpopped, hcalled, hfired, htimerCalled]
  | event key callback hheld hpopped hcalled hfired htimerCalled =>
    have hfree : TaskKey.event key ∉ s.out.map Prod.fst :=
      not_mem_out_of_taken? hok (by simp [taken?, hpopped])
    obtain ⟨held, rfl⟩ := h.exists_held hheld hfree
    constructor <;> simp [hpopped, hcalled, hfired, htimerCalled, hheld]
  | timer key callback hheld hpopped hcalled hfired htimerCalled =>
    have hfree : TaskKey.timer key ∉ s.out.map Prod.fst :=
      not_mem_out_of_taken? hok (by simp [taken?, hpopped, hfired])
    obtain ⟨held, rfl⟩ := h.exists_held hheld hfree
    constructor <;> simp [hpopped, hcalled, hfired, htimerCalled, hheld]

end Host

end CoopScheduler
