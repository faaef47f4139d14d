import CoopScheduler.Proofs.Custody
import CoopScheduler.Proofs.Registrations
import CoopScheduler.Proofs.Reissue
import Mathlib.Data.List.ReduceOption

/-!
# Callbacks are conserved

On any run, with passes nested in passes to any depth, every callback that was passed on is in one
place: with its task, or with an activation of the task, or it was dropped.

* `OutermostHolds`: of the activations of a task, the outermost has its callback and no other one
  has any. Nested passes keep this up, as they take the task with no callback and put nothing back
  (`Host.Handling.placed`).
* `Host.Handling.balanced`: a step registers, moves and drops the callback of a task, and the books
  balance. Hence they do on any run (`Host.Run.placed_balanced`), unless the slot of the task is
  freed so often while its callback is out that its key is given to another one.
* `Host.callbacks_conserved`: **what becomes of callbacks**, step by step and over a whole run.
* `Host.callbacks_astray`: a callback that is put into another task, as the generation has started
  over, and when a callback is dropped that has lost its task.
-/

namespace CoopScheduler

variable {κ : Type}

/-! ### The activations of a task -/

/-- Of the activations of a task, the innermost first, the outermost has the callback and those
within it have none. -/
def OutermostHolds : List (Option κ) → Prop
  | [] => True
  | callback :: outer => (callback = none ↔ outer ≠ []) ∧ OutermostHolds outer

theorem outermostHolds_iff {stack : List (Option κ)} : OutermostHolds stack ↔
    stack = [] ∨ ∃ n callback, stack = List.replicate n none ++ [some callback] := by
  induction stack with
  | nil => simp [OutermostHolds]
  | cons callback outer ih =>
    rw [OutermostHolds, ih]
    constructor
    · rintro ⟨hcallback, rfl | ⟨n, held, rfl⟩⟩
      · obtain ⟨held, rfl⟩ := Option.ne_none_iff_exists'.mp (hcallback.not.mpr (by simp))
        exact .inr ⟨0, held, rfl⟩
      · rw [hcallback.mpr (by simp)]
        exact .inr ⟨n + 1, held, rfl⟩
    · rintro (hnil | ⟨n | n, held, hstack⟩)
      · cases hnil
      · cases hstack
        simp
      · rw [List.replicate_succ, List.cons_append] at hstack
        obtain ⟨rfl, rfl⟩ := List.cons.inj hstack
        exact ⟨by simp, .inr ⟨n, held, rfl⟩⟩

/-- Where the callback of a task is, if this is what its slot and its stack are. -/
structure Placed (slot : Option (Option κ)) (stack : List (Option κ)) : Prop where
  /-- The task holds no callback exactly while an activation of it is on the stack. -/
  absent_iff : ∀ callback, slot = some callback → (callback = none ↔ stack ≠ [])
  outermost : OutermostHolds stack

/-- A task with an activation on the stack holds nothing, whether it exists or not. -/
theorem Placed.join_eq_none {slot : Option (Option κ)} {stack : List (Option κ)}
    (h : Placed slot stack) (hne : stack ≠ []) : slot.join = none := by
  cases slot with
  | none => rfl
  | some callback => exact (h.absent_iff callback rfl).mpr hne

/-- A task that exists or has an activation on the stack has one callback, in one of the two
places. -/
theorem Placed.exists_eq_singleton {slot : Option (Option κ)} {stack : List (Option κ)}
    (h : Placed slot stack) (hheld : slot ≠ none ∨ stack ≠ []) :
    ∃ callback, slot.join.toList ++ stack.reduceOption = [callback] := by
  rcases outermostHolds_iff.mp h.outermost with hnil | ⟨n, callback, hstack⟩
  · subst hnil
    obtain ⟨callback, rfl⟩ := Option.ne_none_iff_exists'.mp (hheld.resolve_right (by simp))
    obtain ⟨callback, rfl⟩ := Option.ne_none_iff_exists'.mp
      ((h.absent_iff callback rfl).not.mpr (by simp))
    exact ⟨callback, rfl⟩
  · have hne : stack ≠ [] := by simp [hstack]
    refine ⟨callback, ?_⟩
    rw [h.join_eq_none hne, hstack, List.reduceOption_append, List.reduceOption_replicate_none]
    rfl

private theorem reduceOption_cons (callback : Option κ) (outer : List (Option κ)) :
    (callback :: outer).reduceOption = callback.toList ++ outer.reduceOption := by
  cases callback <;> rfl

namespace Host

variable {c : Config} {ok : Condition κ} {past : History κ} {s s' : Host κ} {m : Move κ}
  {task : TaskKey} {slot slot' : Option (Option κ)} {stack stack' : List (Option κ)}

/-! ### What a step keeps -/

/-- **A step keeps the callback of a task in place**, if it gives no new task the key of one with
an activation on the stack. -/
theorem Handling.placed (h : s.Handling m task slot stack slot' stack')
    (hplaced : Placed slot stack)
    (hfresh : ∀ callback, s.registered? m = some (task, callback) → stack = []) :
    Placed slot' stack' := by
  obtain ⟨habsent, houtermost⟩ := hplaced
  cases h with
  | kept _ _ _ _ => exact ⟨habsent, houtermost⟩
  | registered callback _ hregistered _ =>
    refine ⟨fun held hheld => ?_, houtermost⟩
    cases hheld
    simp [hfresh callback hregistered]
  | freed _ _ _ _ => exact ⟨by simp, houtermost⟩
  | taken callback _ _ _ _ =>
    refine ⟨fun held hheld => ?_, habsent callback rfl, houtermost⟩
    cases hheld
    simp
  | putBack _ callback _ _ _ =>
    obtain ⟨hcallback, houter⟩ := houtermost
    refine ⟨fun held hheld => ?_, houter⟩
    cases hheld
    exact hcallback
  | lost _ _ _ _ _ => exact ⟨by simp, houtermost.2⟩

/-- Each callback with which a task was registered was dropped, or the task holds it, or an
activation of the task has it. -/
def Balanced (past : History κ) (task : TaskKey) (slot : Option (Option κ))
    (stack : List (Option κ)) : Prop :=
  logOf registered? past task
    = logOf dropped? past task ++ slot.join.toList ++ stack.reduceOption

/-- **A step balances the books**, if it gives no new task the key of one with an activation on the
stack. -/
theorem Handling.balanced (h : s.Handling m task slot stack slot' stack')
    (hplaced : Placed slot stack)
    (hfresh : ∀ callback, s.registered? m = some (task, callback) → stack = [])
    (hbalanced : Balanced past task slot stack) :
    Balanced (past ++ [(s, m)]) task slot' stack' := by
  unfold Balanced at hbalanced ⊢
  rw [logOf_concat, logOf_concat, hbalanced]
  cases h with
  | kept _ _ hregistered hdropped => simp [hregistered, hdropped]
  | registered callback _ hregistered hdropped =>
    simp [hregistered, hdropped, hfresh callback hregistered]
  | freed callback _ hregistered hdropped => simp [hregistered, hdropped]
  | taken callback _ _ hregistered hdropped =>
    simp [hregistered, hdropped, reduceOption_cons]
  | putBack _ callback _ hregistered hdropped =>
    simp [hregistered, hdropped, hplaced.join_eq_none, reduceOption_cons]
  | lost _ callback _ hregistered hdropped =>
    simp [hregistered, hdropped, hplaced.join_eq_none, reduceOption_cons]

/-! ### What a run keeps -/

/-- **On any run** the callback of a task is in place and the books balance, as long as the slot of
the task is not freed so often while its callback is out that the generation starts over. -/
theorem Run.placed_balanced (h : Run c ok past s) (hlasts : KeyLasts past task) :
    Placed (s.scheduler.state.callback? task) (s.stack task) ∧
      Balanced past task (s.scheduler.state.callback? task) (s.stack task) := by
  refine h.inductAlong (I := fun past s => KeyLasts past task →
    Placed (s.scheduler.state.callback? task) (s.stack task) ∧
      Balanced past task (s.scheduler.state.callback? task) (s.stack task))
    (fun id time _ => ?_) ?_ hlasts
  · have hslot : (create (κ := κ) id c time).scheduler.state.callback? task = none := by
      cases task <;>
        simp [State.callback?, create, Scheduler.create, State.ofConfig, Arena.get?]
    rw [hslot]
    exact ⟨⟨by simp, trivial⟩, rfl⟩
  · intro past s m s' hrun hI hstep _ hlasts
    have hbefore := hlasts.of_concat
    obtain ⟨hplaced, hbalanced⟩ := hI hbefore
    have hhandling := step_handling hrun.wellFormed hrun.eventsAgree hstep task
    have hfresh : ∀ callback, s.registered? m = some (task, callback) → s.stack task = [] :=
      fun _ hregistered =>
        hrun.stack_eq_nil_of_registered? hstep hregistered (hbefore _ (List.prefix_refl _))
    exact ⟨hhandling.placed hplaced hfresh, hhandling.balanced hplaced hfresh hbalanced⟩

/-! ### What is called, passed on and refused -/

/-- The task whose callback a move calls, with that callback. -/
def calls? (s : Host κ) (m : Move κ) : Option (TaskKey × κ) :=
  ((s.called? m).map fun (key, callback) => (.event key, callback)).or
    ((s.timerCalled? m).map fun (key, callback) => (.timer key, callback))

/-- The callback that a move passes on. -/
def passed? (s : Host κ) (m : Move κ) : Option κ :=
  (s.performed? m).bind fun request => request.1.callback?

/-- The callback that a move passes on if its registration is refused. -/
def refused? (s : Host κ) (m : Move κ) : Option κ :=
  match s.performed? m with
  | some (op, readAt) =>
    match (s.scheduler.perform op (.ofTime readAt)).1.reply with
    | .refused _ => op.callback?
    | _ => none
  | none => none

/-- A callback that is called was with its task. -/
theorem callback?_of_calls? (hagree : s.scheduler.state.EventsAgree) {callback : κ}
    (hcalls : s.calls? m = some (task, callback)) :
    s.scheduler.state.callback? task = some (some callback) := by
  cases dispatch_of_agree hagree m with
  | none hpopped hcalled hfired htimerCalled => simp [calls?, hcalled, htimerCalled] at hcalls
  | event key held hheld hpopped hcalled hfired htimerCalled =>
    cases held with
    | none => simp [calls?, hcalled, htimerCalled] at hcalls
    | some held =>
      simp only [calls?, hcalled, htimerCalled, Option.map_some, Option.map_none, Option.or_none,
        Option.some.injEq, Prod.mk.injEq] at hcalls
      obtain ⟨rfl, rfl⟩ := hcalls
      exact hheld
  | timer key held hheld hpopped hcalled hfired htimerCalled =>
    cases held with
    | none => simp [calls?, hcalled, htimerCalled] at hcalls
    | some held =>
      simp only [calls?, hcalled, htimerCalled, Option.map_some, Option.map_none, Option.none_or,
        Option.some.injEq, Prod.mk.injEq] at hcalls
      obtain ⟨rfl, rfl⟩ := hcalls
      exact hheld

/-- A pass drops nothing but the callback of an activation that is over. -/
theorem drops?_of_not_returning (hperformed : s.performed? m = none)
    (hreturning : s.returning? m = none) : s.drops? m = none := by
  cases hresumed : s.resumed? m with
  | none => simp [drops?, hperformed, hresumed]
  | some resumed =>
    obtain ⟨activation, readAt⟩ := resumed
    simp only [drops?, hperformed, hresumed]
    cases activation with
    | drain events =>
      rcases hpop : s.scheduler.state.popEvent with ⟨_ | ⟨key, _ | held⟩, state⟩ <;>
        simp [Scheduler.resume, hpop, Effect.callIfPresent, Effect.discarded?]
    | evaluate events now =>
      rcases hdecision : s.scheduler.state.evaluate s.scheduler.config now with
        ⟨⟨key, _ | held⟩ | _ | wait, state⟩ <;>
        simp [Scheduler.resume, hdecision, Effect.callIfPresent, Effect.discarded?]
    | eventReturned _ _ _ | settle _ _ _ _ => simp [returning?, hresumed] at hreturning
    | timerReturned _ _ _ | woken _ _ | ended _ => rfl

/-- A callback that is passed on gets a new task and is not dropped, or it is refused. -/
theorem registered?_or_refused? (htimers : s.scheduler.state.timers.shape.Valid)
    (hevents : s.scheduler.state.events.shape.Valid) {callback : κ}
    (hpassed : s.passed? m = some callback) :
    (∃ task, s.registered? m = some (task, callback)) ∧ s.drops? m = none ∨
      s.registered? m = none ∧ s.refused? m = some callback := by
  obtain ⟨⟨op, readAt⟩, hperformed, hop⟩ := Option.bind_eq_some_iff.mp hpassed
  cases s.scheduler.perform_handling op (.ofTime readAt) with
  | refused held hcallback hreleases hreply hdropped hsame =>
    obtain ⟨error, hrefused⟩ := s.scheduler.exists_refused htimers hevents hop hreply
    exact .inr ⟨by simp [registered?, hperformed, hreply],
      by simp [refused?, hperformed, hrefused, hop]⟩
  | registered task held hcallback hreply hdropped hnew hset =>
    exact .inl ⟨⟨task, by simp [registered?, hperformed, hreply, hop]⟩,
      by simp [drops?, hperformed, hdropped]⟩
  | kept hcallback _ _ _ | freed _ hcallback _ _ _ _ => simp [hcallback] at hop

/-- **A callback is dropped** as its registration is refused, or because it has lost its task. -/
theorem drops?_eq_some_iff (htimers : s.scheduler.state.timers.shape.Valid)
    (hevents : s.scheduler.state.events.shape.Valid) {callback : κ} :
    s.drops? m = some callback ↔
      s.refused? m = some callback ∨ ∃ task, s.dropped? m = some (task, callback) := by
  cases hperformed : s.performed? m with
  | some request =>
    obtain ⟨op, readAt⟩ := request
    cases s.scheduler.perform_handling op (.ofTime readAt) with
    | kept hcallback hreply hdropped hsame =>
      have hrefused : s.refused? m = none := by
        simp only [refused?, hperformed, hcallback]
        split <;> rfl
      simp [drops?, dropped?, hperformed, hdropped, hrefused]
    | refused held hcallback hreleases hreply hdropped hsame =>
      obtain ⟨error, hrefused⟩ := s.scheduler.exists_refused htimers hevents hcallback hreply
      simp [drops?, refused?, dropped?, closes?, hperformed, hdropped, hrefused, hcallback,
        hreleases]
    | registered task held hcallback hreply hdropped hnew hset =>
      have hrefused : s.refused? m = none := by
        simp only [refused?, hperformed]
        split
        · next herror => simp [herror, Reply.task?] at hreply
        · rfl
      simp [drops?, dropped?, hperformed, hdropped, hrefused]
    | freed task hcallback hreleases hreply hheld hset =>
      have hrefused : s.refused? m = none := by
        simp only [refused?, hperformed, hcallback]
        split <;> rfl
      simp [drops?, dropped?, closes?, hperformed, hrefused, hreleases]
  | none =>
    have hrefused : s.refused? m = none := by simp [refused?, hperformed]
    cases hreturning : s.returning? m with
    | some returning => simp [dropped?, closes?, hperformed, hrefused, hreturning]
    | none =>
      have hdrops : s.drops? m = none := drops?_of_not_returning hperformed hreturning
      simp [dropped?, hrefused, hdrops]

/-! ### What becomes of callbacks -/

/-- What is known of the callbacks that were registered under the key of a task. -/
structure CallbackKept (past : History κ) (s : Host κ) (task : TaskKey) : Prop where
  /-- A task that exists holds no callback exactly while an activation of it is on the stack. -/
  absent_iff : ∀ {callback}, s.scheduler.state.callback? task = some callback →
    (callback = none ↔ s.stack task ≠ [])
  /-- The outermost activation has the callback, and those within it have none. -/
  stack_eq : s.stack task = [] ∨
    ∃ n callback, s.stack task = List.replicate n none ++ [some callback]
  /-- A callback that is called was with its task, and no activation of the task is on the
  stack. -/
  called : ∀ {m callback}, s.calls? m = some (task, callback) →
    s.scheduler.state.callback? task = some (some callback) ∧ s.stack task = [] ∧
      callback ∈ logOf registered? past task
  /-- As a task is registered, there is none of the same key, and no activation of one is on the
  stack. -/
  fresh : ∀ {m s' callback}, s.step m = some s' → s.registered? m = some (task, callback) →
    s.scheduler.state.callback? task = none ∧ s.stack task = []
  /-- A callback that was registered was dropped, or is with the task, or with an activation of
  it. -/
  conserved : logOf registered? past task = logOf dropped? past task
    ++ (s.scheduler.state.callback? task).join.toList ++ (s.stack task).reduceOption
  /-- Callbacks are dropped in turn, each once. All were if the task was freed and no activation of
  it is on the stack. -/
  dropped : s.scheduler.state.callback? task = none → s.stack task = [] →
    logOf dropped? past task = logOf registered? past task
  /-- The last of them was not dropped while the task exists or an activation of it is on the
  stack. -/
  held : s.scheduler.state.callback? task ≠ none ∨ s.stack task ≠ [] →
    ∃ callback, logOf registered? past task = logOf dropped? past task ++ [callback]

/-- What is known of all callbacks. -/
structure Conservation (past : History κ) (s : Host κ) : Prop where
  /-- The callbacks of each task whose slot is not freed so often while one of them is out that its
  generation starts over. -/
  kept : ∀ task, KeyLasts past task → CallbackKept past s task
  /-- When an activation is over, its callback is put back into the same task if that exists and is
  not marked as released, and dropped otherwise. No other task gets it. -/
  returned : ∀ {m s' task callback}, s.step m = some s' → s.returning? m = some (task, callback) →
    s.out = (task, callback) :: s'.out ∧
      s.scheduler.state.SetsCallback s'.scheduler.state task
        (if s.scheduler.state.unreleased task then some callback else none) ∧
      s.drops? m = if s.scheduler.state.unreleased task then none else callback
  /-- A callback that is passed on gets a task, or it is refused. -/
  passed : ∀ {m callback}, s.passed? m = some callback →
    (∃ task, s.registered? m = some (task, callback)) ∧ s.drops? m = none ∨
      s.registered? m = none ∧ s.refused? m = some callback
  /-- A callback is dropped as its registration is refused, or because it has lost its task. -/
  dropped_iff : ∀ {m callback}, s.drops? m = some callback ↔
    s.refused? m = some callback ∨ ∃ task, s.dropped? m = some (task, callback)

/-- **The callback of a task is conserved**, as long as the slot of the task is not freed so often
while it is out that the generation starts over. -/
theorem Run.callbackKept (h : Run c ok past s) (hlasts : KeyLasts past task) :
    CallbackKept past s task := by
  obtain ⟨hplaced, hbalanced⟩ := h.placed_balanced hlasts
  refine ⟨hplaced.absent_iff _, outermostHolds_iff.mp hplaced.outermost, fun hcalls => ?_,
    fun hstep hregistered => ⟨(callback?_of_registered? h hstep hregistered).1,
      h.stack_eq_nil_of_registered? hstep hregistered (hlasts _ (List.prefix_refl _))⟩,
    hbalanced, fun hslot hstack => ?_, fun hheld => ?_⟩
  · have hheld := callback?_of_calls? h.eventsAgree hcalls
    have hstack : s.stack task = [] := by
      by_contra hne
      simpa using (hplaced.absent_iff _ hheld).mpr hne
    refine ⟨hheld, hstack, ?_⟩
    rw [hbalanced, hheld]
    simp
  · rw [hbalanced, hslot, hstack]
    simp
  · obtain ⟨callback, hcallback⟩ := hplaced.exists_eq_singleton hheld
    exact ⟨callback, by rw [hbalanced, List.append_assoc, hcallback]⟩

/-- **Callbacks are conserved.** -/
theorem callbacks_conserved (h : Run c ok past s) : Conservation past s where
  kept _ hlasts := h.callbackKept hlasts
  returned := step_returning
  passed := registered?_or_refused? h.ledger.valid h.eventsStored.valid
  dropped_iff := drops?_eq_some_iff h.ledger.valid h.eventsStored.valid

/-- The callback of an event sends it again and makes a pass, in which the event runs without a
callback. Then the event is released, and freed at once, and a new one gets its slot. When the
callback returns it is dropped, and the new event keeps its own. -/
theorem callbacks_conserved_slot_reused :
    ∃ (past : History Nat) (s s' : Host Nat), Run {} (fun _ _ _ _ => True) past s ∧
      s.step .resume = some s' ∧ s.stack (.event ⟨0, 0⟩) = [some 10] ∧
      s.scheduler.state.callback? (.event ⟨0, 0⟩) = none ∧
      logOf registered? past (.event ⟨0, 0⟩) = [10] ∧ 10 ∉ logOf dropped? past (.event ⟨0, 0⟩) ∧
      s.drops? .resume = some 10 ∧
      s'.scheduler.state.callback? (.event ⟨0, 1⟩) = some (some 20) := by
  obtain ⟨past, s, s', hrun, hlength, hstep, hreturning, hstack, hgone, hnew, hunreleased,
      hdropped⟩ :
      ∃ (past : History Nat) (s s' : Host Nat), Run {} (fun _ _ _ _ => True) past s ∧
        past.length = 20 ∧ s.step .resume = some s' ∧
        s.returning? .resume = some (.event ⟨0, 0⟩, some 10) ∧
        s.stack (.event ⟨0, 0⟩) = [some 10] ∧
        s.scheduler.state.callback? (.event ⟨0, 0⟩) = none ∧
        s.scheduler.state.callback? (.event ⟨0, 1⟩) = some (some 20) ∧
        s.scheduler.state.unreleased (.event ⟨0, 0⟩) = false ∧
        logOf dropped? past (.event ⟨0, 0⟩) = [] :=
    ⟨_, _, _, Run.of_play ⟨0⟩ 0
      [.ask (.createEvent 10), .perform 0, .ask (.send ⟨⟨0⟩, ⟨0, 0⟩⟩ .thread), .perform 0, .enter,
       .resume, .ask (.send ⟨⟨0⟩, ⟨0, 0⟩⟩ .thread), .perform 0, .enter, .resume, .resume, .resume,
       .resume, .resume, .resume, .resume,
       .ask (.releaseEvent ⟨⟨0⟩, ⟨0, 0⟩⟩), .perform 0, .ask (.createEvent 20), .perform 0] rfl,
     rfl, rfl, rfl, rfl, rfl, rfl, rfl, rfl⟩
  have hconserved := callbacks_conserved hrun
  have hkept := hconserved.kept (.event ⟨0, 0⟩) (keyLasts_of_length_lt (by rw [hlength]; decide) _)
  have hregistered := hkept.conserved
  rw [hdropped, hgone, hstack] at hregistered
  have hnotDropped : 10 ∉ logOf dropped? past (.event ⟨0, 0⟩) := by simp [hdropped]
  obtain ⟨-, hset, hdrops⟩ := hconserved.returned hstep hreturning
  rw [hunreleased] at hdrops
  refine ⟨past, s, s', hrun, hstep, hstack, hgone, hregistered, hnotDropped, hdrops, ?_⟩
  rw [hset.at_other (by decide), hnew]

/-- **Where callbacks go astray.**

* A callback has rescheduled and then released its own task, whose slot was freed at once, and
  `2 ^ 32` times in all before the callback returned. It is put into the task that has got the same
  key by then, in the place of that task's own.
* A callback has returned and its task was freed, but it is not dropped yet: its activation has
  taken the reading for the put-back, and the task was freed after that. -/
theorem callbacks_astray :
    (∃ (past : History Nat) (s s' : Host Nat), Run {} (fun _ _ _ _ => True) past s ∧
      releases past 0 = UInt32.size ∧ s.step .resume = some s' ∧
      s.returning? .resume = some (.timer ⟨0, 0⟩, some 10) ∧
      s.scheduler.state.callback? (.timer ⟨0, 0⟩) = some (some 20) ∧
      s'.scheduler.state.callback? (.timer ⟨0, 0⟩) = some (some 10)) ∧
    ∃ (past : History Nat) (s : Host Nat), Run {} (fun _ _ _ _ => True) past s ∧
      s.passes = [.ready (.settle 0 ⟨0, 0⟩ (some 10) (.ofTime 0)) 0] ∧
      s.scheduler.state.callback? (.timer ⟨0, 0⟩) = none ∧
      logOf registered? past (.timer ⟨0, 0⟩) = [10] ∧
      logOf dropped? past (.timer ⟨0, 0⟩) = [] := by
  constructor
  · let passes : List (Frame Nat) := [.ready (.timerReturned 0 ⟨0, 0⟩ (some 10)) 0]
    obtain ⟨first, hfirst, hone⟩ : ∃ first,
        Run {} (fun _ _ _ _ => True) first (emptied [] passes 1) ∧ releases first 0 = 1 :=
      ⟨_, Run.of_play ⟨0⟩ 0
        [.ask (.addTimer 10 (.after 0) false), .perform 0, .enter, .resume, .resume, .resume,
         .ask (.reschedule ⟨⟨0⟩, ⟨0, 0⟩⟩ (.after 1000)), .perform 0,
         .ask (.releaseTimer ⟨⟨0⟩, ⟨0, 0⟩⟩), .perform 0] rfl, rfl⟩
    obtain ⟨past, hbegin, hreleases⟩ := hfirst.exists_emptied hone
    obtain ⟨later, s, s', hpath, hnone, hstep, hreturning, hown, hother⟩ :
        ∃ (later : History Nat) (s s' : Host Nat),
          Path (fun _ _ _ _ => True) past (emptied [] passes 0) later s ∧ releases later 0 = 0 ∧
          s.step .resume = some s' ∧
          s.returning? .resume = some (.timer ⟨0, 0⟩, some 10) ∧
          s.scheduler.state.callback? (.timer ⟨0, 0⟩) = some (some 20) ∧
          s'.scheduler.state.callback? (.timer ⟨0, 0⟩) = some (some 10) :=
      ⟨_, _, _, Path.of_play
        [.ask (.addTimer 20 .never false), .perform 0, .resume, .resume] rfl, rfl, rfl, rfl, rfl,
        rfl⟩
    exact ⟨past ++ later, s, s', hbegin.append hpath, by rw [releases_append, hreleases, hnone],
      hstep, hreturning, hown, hother⟩
  · exact ⟨_, _, Run.of_play ⟨0⟩ 0
      [.ask (.addTimer 10 (.after 0) false), .perform 0, .enter, .resume, .resume, .resume, .resume,
       .resume, .ask (.reschedule ⟨⟨0⟩, ⟨0, 0⟩⟩ (.after 1000)), .perform 0,
       .ask (.releaseTimer ⟨⟨0⟩, ⟨0, 0⟩⟩), .perform 0] rfl, rfl, rfl, rfl, rfl⟩

end Host

end CoopScheduler
