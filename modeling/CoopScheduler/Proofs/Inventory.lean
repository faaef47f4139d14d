import CoopScheduler.Proofs.Freshness

/-!
# The tasks that there are

A task exists from its registration until its slot is freed, by a release or at the end of the run
during which it was released.

* `Arena.Reshaped.keys_perm`: a change of shape takes away the key that is freed, and adds one at
  most.
* `Host.exists_registered?`: no task comes into being unless it is registered. A pass creates none
  (`Scheduler.isSome_callback?_of_resume`).
* `Host.Run.tasks_perm`: on any run **the tasks that were registered** are those that were freed
  and those that exist, so the difference is their number (`Host.Run.size_slots`).
-/

namespace CoopScheduler

variable {κ : Type}

/-! ### Keys in use -/

namespace Arena

variable {a b : Arena Unit} {freed? : Option Key} {key : Key}

/-- A key that is freed was in use. -/
theorem Reshaped.of_freed (h : Reshaped a b (some key)) :
    (a.get? key).isSome = true ∧ (b.get? key).isSome = false := by
  cases h with
  | freed hget heq =>
    refine ⟨hget, ?_⟩
    rw [heq, get?_remove, if_pos rfl]
    rfl

/-- **The keys in use change** by the one that is freed and the one that is given. -/
theorem Reshaped.keys_perm (h : Reshaped a b freed?) {given? : Option Key}
    (hgiven : ∀ key, given? = some key ↔
      (a.get? key).isSome = false ∧ (b.get? key).isSome = true) :
    (freed?.toList ++ b.keys).Perm (a.keys ++ given?.toList) := by
  have hfreed (key : Key) (hkey : freed? = some key) :
      (a.get? key).isSome = true ∧ (b.get? key).isSome = false := by
    subst hkey
    exact h.of_freed
  have hbefore : (freed?.toList ++ b.keys).Nodup := by
    refine List.nodup_append'.mpr ⟨by cases freed? <;> simp, b.nodup_keys, fun key hkey hlive => ?_⟩
    rw [mem_keys_iff, (hfreed key (Option.mem_toList.mp hkey)).2] at hlive
    cases hlive
  have hafter : (a.keys ++ given?.toList).Nodup := by
    refine List.nodup_append'.mpr ⟨a.nodup_keys, by cases given? <;> simp, fun key hlive hkey => ?_⟩
    rw [mem_keys_iff, ((hgiven key).mp (Option.mem_toList.mp hkey)).1] at hlive
    cases hlive
  refine (List.perm_ext_iff_of_nodup hbefore hafter).mpr fun key => ?_
  simp only [List.mem_append, Option.mem_toList, mem_keys_iff, hgiven]
  cases hlive : (a.get? key).isSome with
  | true => simpa using h.isSome_get? hlive
  | false =>
    have hkept : freed? ≠ some key := fun hkey => by simp [(hfreed key hkey).1] at hlive
    simp [hkept]

end Arena

/-! ### Tasks of either kind -/

namespace TaskKey

/-- The key of a timer. -/
def timer? : TaskKey → Option Key
  | .timer key => some key
  | .event _ => none

/-- The key of an event. -/
def event? : TaskKey → Option Key
  | .event key => some key
  | .timer _ => none

/-- The key of another task, if that is of the kind of this one. -/
def peer? : TaskKey → TaskKey → Option Key
  | .timer _ => timer?
  | .event _ => event?

theorem peer?_eq_some_iff {task other : TaskKey} {key : Key} :
    task.peer? other = some key ↔ other = task.elsewhere key := by
  cases task <;> cases other <;> simp [peer?, timer?, event?, elsewhere]

end TaskKey

/-- A task that is put back exists afterwards only if it existed before. -/
theorem State.SetsCallback.isSome_callback? {s s' : State κ} {task other : TaskKey}
    {callback : Option κ}
    (h : s.SetsCallback s' other (if s.unreleased other then some callback else none))
    (hafter : (s'.callback? task).isSome = true) : (s.callback? task).isSome = true := by
  by_cases heq : task = other
  · subst heq
    rw [h.at_task] at hafter
    cases task with
    | event key => cases hget : s.events.get? key <;> simp_all [unreleased, callback?]
    | timer key => cases hget : s.timers.get? key <;> simp_all [unreleased, callback?]
  · rwa [h.at_other heq] at hafter

/-- A pass creates no task. -/
theorem Scheduler.isSome_callback?_of_resume {s : Scheduler κ} {activation : Activation κ}
    {task : TaskKey} (h : ((s.resume activation).2.state.callback? task).isSome = true) :
    (s.state.callback? task).isSome = true := by
  have hshapes {state : State κ} (hslots : state.slots task = s.state.slots task)
      (hafter : (state.callback? task).isSome = true) :
      (s.state.callback? task).isSome = true := by
    rwa [← State.isSome_get?_slots, hslots, State.isSome_get?_slots] at hafter
  cases activation with
  | drain events =>
    rw [resume_drain_state] at h
    refine hshapes ?_ h
    cases task with
    | event key => exact s.state.popEvent_shape.1
    | timer key => exact congrArg Arena.shape s.state.popEvent_timersKept.timers_eq
  | evaluate events now =>
    rw [resume_evaluate_state] at h
    refine hshapes ?_ h
    cases task with
    | event key => exact congrArg Arena.shape (State.evaluate_events ..).1
    | timer key => exact State.shape_evaluate ..
  | eventReturned events key callback =>
    exact (s.state.callback?_of_finishEvent key callback).1.isSome_callback? h
  | settle events key callback after =>
    exact (s.state.callback?_of_finishTimer key callback after).1.isSome_callback? h
  | timerReturned _ _ _ | woken _ _ | ended _ => exact h

/-! ### Runs -/

namespace Host

variable {c : Config} {ok : Condition κ} {past : History κ} {s s' : Host κ} {m : Move κ}
  {task : TaskKey} {key : Key}

/-- **A task that exists now and did not before** is being registered. -/
theorem exists_registered? (h : s.step m = some s')
    (hbefore : (s.scheduler.state.callback? task).isSome = false)
    (hafter : (s'.scheduler.state.callback? task).isSome = true) :
    ∃ callback, s.registered? m = some (task, callback) := by
  have hsame (hcallback : s'.scheduler.state.callback? task = s.scheduler.state.callback? task) :
      False := by
    rw [hcallback, hbefore] at hafter
    cases hafter
  rcases step_scheduler h with ⟨op, readAt, hperformed, -, heq⟩ | ⟨activation, readAt, -, -, heq⟩ |
    ⟨-, -, heq⟩
  · rw [heq] at hafter hsame
    cases s.scheduler.perform_handling op (.ofTime readAt) with
    | kept _ _ _ hkept | refused _ _ _ _ _ hkept => exact (hsame (hkept task)).elim
    | registered new callback hcallback hreply _ _ hset =>
      by_cases hnew : task = new
      · subst hnew
        exact ⟨callback, by simp [registered?, hperformed, hreply, hcallback]⟩
      · exact (hsame (hset.at_other hnew)).elim
    | freed gone _ _ _ _ hset =>
      by_cases hgone : task = gone
      · rw [hgone, hset.at_task] at hafter
        cases hafter
      · exact (hsame (hset.at_other hgone)).elim
  · rw [heq] at hafter
    rw [Scheduler.isSome_callback?_of_resume hafter] at hbefore
    cases hbefore
  · exact (hsame (by rw [heq])).elim

/-- The key that a move gives to a task of the kind of this one. -/
def given? (task : TaskKey) (s : Host κ) (m : Move κ) : Option Key :=
  (s.registered? m).bind fun entry => task.peer? entry.1

theorem given?_eq_some_iff (hrun : Run c ok past s) (h : s.step m = some s') :
    given? task s m = some key ↔ ((s.scheduler.state.slots task).get? key).isSome = false ∧
      ((s'.scheduler.state.slots task).get? key).isSome = true := by
  have hslots (state : State κ) : ((state.slots task).get? key).isSome
      = (state.callback? (task.elsewhere key)).isSome := by
    rw [← State.isSome_get?_slots]
    cases task <;> rfl
  rw [hslots, hslots, given?, Option.bind_eq_some_iff]
  constructor
  · rintro ⟨⟨new, callback⟩, hregistered, hpeer⟩
    obtain rfl := TaskKey.peer?_eq_some_iff.mp hpeer
    obtain ⟨hbefore, hafter⟩ := callback?_of_registered? hrun h hregistered
    rw [hbefore, hafter]
    exact ⟨rfl, rfl⟩
  · rintro ⟨hbefore, hafter⟩
    obtain ⟨callback, hregistered⟩ := exists_registered? h hbefore hafter
    exact ⟨_, hregistered, TaskKey.peer?_eq_some_iff.mpr rfl⟩

/-- **The tasks that were registered** are those that were freed and those that exist. -/
theorem Run.tasks_perm (h : Run c ok past s) (task : TaskKey) :
    (vacated past task ++ (s.scheduler.state.slots task).keys).Perm
      ((registrations past).filterMap task.peer?) := by
  have hregistrations : (registrations past).filterMap task.peer? = log (given? task) past := by
    rw [registrations, List.filterMap_map, log, List.filterMap_filterMap]
    rfl
  rw [hregistrations]
  refine h.carried_perm (·.vacated? task) (·.scheduler.state.slots task |>.keys) (given? task)
    (fun id time => ?_) fun hrun hstep => ?_
  · rw [slots_create]
    rfl
  · exact (step_slots hstep task).keys_perm fun _ => given?_eq_some_iff hrun hstep

/-- As many tasks exist as were registered and not freed. -/
theorem Run.size_slots (h : Run c ok past s) (task : TaskKey) :
    (s.scheduler.state.slots task).size + (vacated past task).length
      = ((registrations past).filterMap task.peer?).length := by
  rw [← (h.tasks_perm task).length_eq, List.length_append, (h.taskLedger task).valid.length_keys,
    Nat.add_comm]

end Host

end CoopScheduler
