import CoopScheduler.Proofs.Callbacks
import CoopScheduler.Proofs.Releases
import Mathlib.Data.List.DropRight

/-!
# No two callbacks of one key are out at once

A task is registered under the key of its slot, and when the slot is freed that moves on to its next
generation. So no task gets the key of one whose callback is still out, as long as the slot is not
freed so often meanwhile that its generation starts over.

* `Host.frees`: how often the slot of a task was freed, by a release or at the end of a run.
* `Host.logOf`: what the steps of a history did, as far as a task is concerned; so
  `logOf registered? past task` are the callbacks that were registered under a key.
* `Host.sinceOut`: the steps that a callback of the task has been out for. They tell what the slot
  looks like by now (`Host.OutSince`).
* `Host.KeyLasts`: the slot is never freed `2 ^ 32` times while a callback of the task is out. Hence
  none is out when a task is registered (`Host.Run.stack_eq_nil_of_registered?`).
-/

namespace CoopScheduler

variable {κ : Type}

/-- Where the task is stored among those of its kind. -/
def TaskKey.key : TaskKey → Key
  | .event key | .timer key => key

/-- A key that is in use now and was not before has the generation that its slot had before. -/
theorem Arena.Reshaped.generation_eq {a b : Arena Unit} {freed? : Option Key} {key : Key}
    (h : Reshaped a b freed?) (hbefore : (a.get? key).isSome = false)
    (hafter : (b.get? key).isSome = true) : key.generation = a.generationAt key.index := by
  rcases h with rfl | @⟨new, hinsert⟩ | @⟨freed, -, rfl⟩
  · rw [hbefore] at hafter
    cases hafter
  · rw [get?_insert_of_ok hinsert] at hafter
    split at hafter
    · next heq =>
      rw [heq]
      exact generation_of_insert hinsert
    · rw [hbefore] at hafter
      cases hafter
  · rw [get?_remove] at hafter
    split at hafter
    · cases hafter
    · rw [hbefore] at hafter
      cases hafter

/-- The slots for tasks of the kind of this one, without the tasks in them. -/
def State.slots (s : State κ) : TaskKey → Arena Unit
  | .event _ => s.events.shape
  | .timer _ => s.timers.shape

theorem State.isSome_get?_slots (s : State κ) (task : TaskKey) :
    ((s.slots task).get? task.key).isSome = (s.callback? task).isSome := by
  cases task <;> simp [slots, TaskKey.key, callback?]

namespace Scheduler

/-- The event task that a request frees. -/
def eventFreed? (s : Scheduler κ) : Operation κ → Option Key
  | .releaseEvent handle =>
    if s.owns handle.owner then s.state.eventFreedNow? handle.key else none
  | _ => none

/-- **What a request does to the slots** of the event tasks. -/
theorem perform_eventsReshaped (s : Scheduler κ) (op : Operation κ) (now : Tick) :
    s.state.events.shape.Reshaped (s.perform op now).2.state.events.shape (s.eventFreed? op) := by
  cases op with
  | createEvent callback =>
    simp only [perform, createEvent, eventFreed?]
    cases hcreate : s.state.createEvent callback with
    | error refusal => cases refusal <;> exact .kept rfl
    | ok stored =>
      obtain ⟨events, hinsert, hstate⟩ := State.createEvent_eq hcreate
      simp only [hstate]
      exact .stored (Arena.shape_insert hinsert)
  | send handle source =>
    simp only [perform, send, eventFreed?]
    split
    · exact .kept (s.state.shape_sendEvent handle.key)
    · exact .kept rfl
  | releaseEvent handle =>
    simp only [perform, releaseEvent, eventFreed?]
    split
    · exact s.state.reshaped_releaseEvent handle.key
    · exact .kept rfl
  | _ => exact .kept (congrArg Arena.shape (s.perform_eventsKept now rfl).events_eq)

end Scheduler

namespace Host

variable {c : Config} {ok : Condition κ} {past : History κ} {s s' : Host κ} {m : Move κ}
  {task : TaskKey} {callback : κ}

/-! ### Slots that are freed -/

/-- The event task that a move frees. -/
def eventFreed? (s : Host κ) (m : Move κ) : Option Key :=
  match s.performed? m, s.resumed? m with
  | some (op, _), _ => s.scheduler.eventFreed? op
  | none, some (.eventReturned _ key _, _) => s.scheduler.state.eventFreedAfterRun? key
  | none, _ => none

/-- The key that a move frees among those of tasks of the kind of this one. -/
def vacated? (s : Host κ) (task : TaskKey) (m : Move κ) : Option Key :=
  match task with
  | .event _ => s.eventFreed? m
  | .timer _ => s.freed? m

/-- How often the slot of a task was freed. -/
def frees (past : History κ) (task : TaskKey) : Nat :=
  (log (fun s m => s.vacated? task m) past).countP (·.index = task.key.index)

@[simp]
theorem frees_concat (past : History κ) (s : Host κ) (m : Move κ) (task : TaskKey) :
    frees (past ++ [(s, m)]) task = frees past task
      + if (s.vacated? task m).any (·.index = task.key.index) then 1 else 0 := by
  rw [frees, log_concat, List.countP_append]
  cases s.vacated? task m with
  | none => rfl
  | some key => simp [frees, List.countP_singleton]

theorem frees_le_length (past : History κ) (task : TaskKey) : frees past task ≤ past.length :=
  Nat.le_trans List.countP_le_length (List.length_filterMap_le ..)

/-- **What a step does to the slots** of the event tasks. -/
theorem step_eventsReshaped (h : s.step m = some s') :
    s.scheduler.state.events.shape.Reshaped s'.scheduler.state.events.shape (s.eventFreed? m) := by
  rcases step_scheduler h with ⟨op, readAt, hperformed, -, heq⟩ |
    ⟨activation, readAt, hperformed, hresumed, heq⟩ | ⟨hperformed, hresumed, heq⟩
  · simpa only [eventFreed?, hperformed, heq]
      using s.scheduler.perform_eventsReshaped op (.ofTime readAt)
  · rw [heq, eventFreed?, hperformed, hresumed]
    cases activation with
    | drain events =>
      rw [Scheduler.resume_drain_state]
      exact .kept s.scheduler.state.popEvent_shape.1
    | eventReturned events key held => exact s.scheduler.state.reshaped_finishEvent key held
    | evaluate events now =>
      rw [Scheduler.resume_evaluate_state]
      exact .kept (congrArg Arena.shape (State.evaluate_events ..).1)
    | settle events key held after =>
      exact .kept (congrArg Arena.shape (State.finishTimer_eventsKept ..).events_eq)
    | _ => exact .kept rfl
  · rw [heq, eventFreed?, hperformed, hresumed]
    exact .kept rfl

/-- **What a step does to the slots** for tasks of one kind. -/
theorem step_slots (h : s.step m = some s') (task : TaskKey) :
    (s.scheduler.state.slots task).Reshaped (s'.scheduler.state.slots task)
      (s.vacated? task m) := by
  cases task with
  | event key => exact step_eventsReshaped h
  | timer key => exact step_reshaped h

/-! ### Keys that were given -/

/-- What a history logs about a task. -/
def logOf (did? : Host κ → Move κ → Option (TaskKey × κ)) (past : History κ) (task : TaskKey) :
    List κ :=
  (log did? past).filterMap task.own?

@[simp]
theorem logOf_concat (did? : Host κ → Move κ → Option (TaskKey × κ)) (past : History κ)
    (s : Host κ) (m : Move κ) (task : TaskKey) :
    logOf did? (past ++ [(s, m)]) task
      = logOf did? past task ++ ((did? s m).bind task.own?).toList := by
  rw [logOf, log_concat, List.filterMap_append]
  cases did? s m with
  | none => simp [logOf]
  | some entry => cases h : task.own? entry <;> simp [logOf, h]

/-- A task that is registered holds its callback, and did not exist before. -/
theorem callback?_of_registered? (hrun : Run c ok past s) (h : s.step m = some s')
    (hregistered : s.registered? m = some (task, callback)) :
    s.scheduler.state.callback? task = none ∧
      s'.scheduler.state.callback? task = some (some callback) := by
  have hhandling := step_handling hrun.wellFormed hrun.eventsAgree h task
  generalize s.scheduler.state.callback? task = slot, s.stack task = stack,
    s'.scheduler.state.callback? task = slot', s'.stack task = stack' at hhandling ⊢
  cases hhandling with
  | registered new _ hnew _ =>
    rw [hregistered] at hnew
    cases hnew
    exact ⟨rfl, rfl⟩
  | _ => simp_all

/-! ### Keys whose callback is out -/

/-- The steps that a callback of the task has been out for. -/
def sinceOut (past : History κ) (task : TaskKey) : History κ :=
  past.rtakeWhile fun step => !(step.1.stack task).isEmpty

theorem sinceOut_concat (past : History κ) (s : Host κ) (m : Move κ) (task : TaskKey) :
    sinceOut (past ++ [(s, m)]) task
      = if s.stack task = [] then [] else sinceOut past task ++ [(s, m)] := by
  rw [sinceOut, List.rtakeWhile_concat]
  by_cases hstack : s.stack task = [] <;> simp [hstack, sinceOut]

/-- The slot of a task never has its generation start over while a callback of the task is out. -/
def KeyLasts (past : History κ) (task : TaskKey) : Prop :=
  ∀ earlier, earlier <+: past → frees (sinceOut earlier task) task < UInt32.size

theorem KeyLasts.of_concat (h : KeyLasts (past ++ [(s, m)]) task) : KeyLasts past task :=
  fun _ hearlier => h _ (hearlier.trans (List.prefix_append ..))

theorem keyLasts_of_length_lt (h : past.length < UInt32.size) (task : TaskKey) :
    KeyLasts past task := by
  intro earlier hearlier
  have hsince : (sinceOut earlier task).length ≤ earlier.length :=
    List.IsSuffix.length_le (List.rtakeWhile_suffix ..)
  have hfrees := frees_le_length (sinceOut earlier task) task
  have hlength := hearlier.length_le
  omega

/-- What a slot looks like whose task has a callback out. -/
structure OutSince (past : History κ) (s : Host κ) (task : TaskKey) : Prop where
  /-- The slot has moved on by one generation for each time that it was freed since. -/
  generationAt_eq : (s.scheduler.state.slots task).generationAt task.key.index
    = task.key.generation + UInt32.ofNat (frees (sinceOut past task) task)
  /-- If it was not freed, the task is still in it. -/
  isSome_of_frees : frees (sinceOut past task) task = 0 →
    (s.scheduler.state.callback? task).isSome = true

/-- A task whose callback is taken exists. -/
theorem isSome_of_taken (hrun : Run c ok past s) (h : s.step m = some s')
    (hin : s.stack task = []) (hout : s'.stack task ≠ []) :
    (s'.scheduler.state.callback? task).isSome = true := by
  have hhandling := step_handling hrun.wellFormed hrun.eventsAgree h task
  generalize s.scheduler.state.callback? task = slot, s.stack task = stack,
    s'.scheduler.state.callback? task = slot', s'.stack task = stack' at hhandling hin hout ⊢
  cases hhandling with
  | taken _ _ _ _ _ => rfl
  | kept _ _ _ _ | registered _ _ _ _ | freed _ _ _ _ => exact absurd hin hout
  | putBack _ _ _ _ _ | lost _ _ _ _ _ => cases hin

/-- As the callback is taken, the slot has the generation of its task, and then it follows. -/
theorem OutSince.step (hI : s.stack task ≠ [] → OutSince past s task) (hrun : Run c ok past s)
    (h : s.step m = some s') (hout : s'.stack task ≠ []) :
    OutSince (past ++ [(s, m)]) s' task := by
  by_cases hin : s.stack task = []
  · have hlive := isSome_of_taken hrun h hin hout
    have hsince : sinceOut (past ++ [(s, m)]) task = [] := by rw [sinceOut_concat, if_pos hin]
    refine ⟨?_, fun _ => hlive⟩
    rw [← State.isSome_get?_slots] at hlive
    rw [hsince, ← Arena.generation_of_get? hlive]
    simp [frees, log]
  · obtain ⟨hgeneration, hlive⟩ := hI hin
    have hreshaped := step_slots h task
    have hsince : sinceOut (past ++ [(s, m)]) task = sinceOut past task ++ [(s, m)] := by
      rw [sinceOut_concat, if_neg hin]
    constructor
    · rw [hreshaped.generationAt_eq, hgeneration, hsince, frees_concat]
      split
      · rw [UInt32.ofNat_add, UInt32.add_assoc]
        rfl
      · rfl
    · intro hnone
      rw [hsince, frees_concat, Nat.add_eq_zero_iff] at hnone
      have hbefore := hlive hnone.1
      rw [← State.isSome_get?_slots] at hbefore ⊢
      rcases hreshaped.isSome_get? hbefore with hfreed | hafter
      · simp [hfreed] at hnone
      · exact hafter

theorem Run.outSince (h : Run c ok past s) (hout : s.stack task ≠ []) :
    OutSince past s task := by
  refine h.inductAlong (I := fun past s => s.stack task ≠ [] → OutSince past s task)
    (fun id time hne => absurd rfl hne) (fun hrun hI hstep _ hne => ?_) hout
  exact OutSince.step hI hrun hstep hne

/-- **No task gets the key of one whose callback is out**, unless the slot was freed so often
meanwhile that its generation has started over. -/
theorem Run.stack_eq_nil_of_registered? (hrun : Run c ok past s) (h : s.step m = some s')
    (hregistered : s.registered? m = some (task, callback))
    (hfew : frees (sinceOut past task) task < UInt32.size) : s.stack task = [] := by
  by_contra hout
  obtain ⟨hgeneration, hlive⟩ := hrun.outSince hout
  obtain ⟨hbefore, hafter⟩ := callback?_of_registered? hrun h hregistered
  have hnew := (step_slots h task).generation_eq
    (by rw [State.isSome_get?_slots, hbefore]; rfl) (by rw [State.isSome_get?_slots, hafter]; rfl)
  rw [hgeneration, UInt32.left_eq_add] at hnew
  -- The slot has come round to the same generation, so it was not freed and the task is in it.
  have hnone := eq_of_generation_eq hfew (by decide) hnew
  rw [hbefore] at hlive
  exact absurd (hlive hnone) (by simp)

end Host

end CoopScheduler
