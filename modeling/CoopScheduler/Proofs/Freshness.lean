import CoopScheduler.Proofs.Conservation
import CoopScheduler.Proofs.FiniteMap

/-!
# Keys are never given again

A slot that is freed moves on to its next generation, so it gives another key to whatever is stored
in it afterwards. As a generation has 32 bits, that goes well for `2 ^ 32 - 1` times.

* `Arena.Ledger`: the keys that were given and the ones that were freed, against the generations of
  the slots. A change of shape keeps the ledger (`Arena.Ledger.step`), so an arena alone has one
  (`Arena.Dialogue.ledger`), and so have the tasks of either kind on a run (`Host.Run.taskLedger`).
* `Arena.Ledger.gone`: a key that was freed is not in use again, and `Arena.Ledger.not_given`: a key
  that comes into use was not given before.
* `keys_never_reissued`: hence **no key is given twice**, and a handle of a task that was freed
  finds nothing, whatever is stored in its slot.
-/

namespace CoopScheduler

/-! ### The ledger -/

namespace Arena

section Ledger

variable {given given' : Key → Prop} {freed : List Key} {freed? : Option Key} {a b : Arena Unit}
  {key : Key}

/-- How often a slot was freed, if these are the keys that were. -/
def timesFreed (freed : List Key) (index : Nat) : Nat :=
  freed.countP (·.index = index)

@[simp]
theorem timesFreed_append (freed : List Key) (freed? : Option Key) (index : Nat) :
    timesFreed (freed ++ freed?.toList) index
      = timesFreed freed index + if freed?.any (·.index = index) then 1 else 0 := by
  rw [timesFreed, List.countP_append]
  cases freed? with
  | none => rfl
  | some key => simp [timesFreed, List.countP_singleton]

/-- The slots in the light of the keys that were given and of those that were freed. -/
structure Ledger (given : Key → Prop) (freed : List Key) (a : Arena Unit) : Prop where
  valid : a.Valid
  /-- Each slot shows how often it was freed. -/
  generationAt_eq : ∀ index, a.generationAt index = UInt32.ofNat (timesFreed freed index)
  /-- The slot of a key that was freed has moved on since. -/
  spent : ∀ key ∈ freed, ∃ n < timesFreed freed key.index, key.generation = UInt32.ofNat n
  /-- A key that was given is in use, or it was freed. -/
  accounted : ∀ key, given key → (a.get? key).isSome = true ∨ key ∈ freed
  within : ∀ key, given key → key.index < a.capacity

theorem Ledger.empty (capacity : Nat) : Ledger (fun _ => False) [] { capacity := capacity } where
  valid := valid_empty capacity
  generationAt_eq index := by simp [generationAt, timesFreed]
  spent := by simp
  accounted _ hgiven := hgiven.elim
  within _ hgiven := hgiven.elim

/-- **A change of shape keeps the ledger**, if the keys that it gives are in use. -/
theorem Ledger.step (h : Ledger given freed a) (hreshaped : Reshaped a b freed?)
    (hgiven : ∀ key, given' key → given key ∨ (b.get? key).isSome = true) :
    Ledger given' (freed ++ freed?.toList) b := by
  have hvalid := hreshaped.valid h.valid
  have hcapacity := hreshaped.capacity_eq
  refine ⟨hvalid, fun index => ?_, fun key hkey => ?_, fun key hnew => ?_, fun key hnew => ?_⟩
  · rw [hreshaped.generationAt_eq, h.generationAt_eq, timesFreed_append]
    split
    · rw [UInt32.ofNat_add]
      rfl
    · rfl
  · rw [timesFreed_append]
    rcases List.mem_append.mp hkey with hold | hnow
    · obtain ⟨n, hlt, hgeneration⟩ := h.spent key hold
      exact ⟨n, Nat.lt_add_right _ hlt, hgeneration⟩
    · -- The key that is freed now was in use, so its generation is the count up to now.
      rw [Option.mem_toList] at hnow
      cases hreshaped with
      | kept | stored => cases hnow
      | freed hget heq =>
        cases hnow
        refine ⟨timesFreed freed key.index, by simp, ?_⟩
        rw [← h.generationAt_eq]
        exact generation_of_get? hget
  · rcases hgiven key hnew with hold | hlive
    · rcases h.accounted key hold with hlive | hfreed
      · rcases hreshaped.isSome_get? hlive with hnow | hlive
        · exact .inr (by simp [hnow])
        · exact .inl hlive
      · exact .inr (List.mem_append_left _ hfreed)
    · exact .inl hlive
  · rcases hgiven key hnew with hold | hlive
    · exact hcapacity ▸ h.within key hold
    · obtain ⟨value, hvalue⟩ := Option.isSome_iff_exists.mp hlive
      exact Nat.lt_of_lt_of_le (index_lt_of_get? hvalue) hvalid.slots_le

/-- A key that was freed does not have the generation that its slot has by now. -/
theorem Ledger.generation_ne (h : Ledger given freed a) (hkey : key ∈ freed)
    (hfew : timesFreed freed key.index < UInt32.size) :
    key.generation ≠ a.generationAt key.index := by
  obtain ⟨n, hlt, hgeneration⟩ := h.spent key hkey
  rw [h.generationAt_eq, hgeneration]
  intro heq
  exact Nat.ne_of_lt hlt (Host.eq_of_generation_eq (Nat.lt_trans hlt hfew) hfew heq)

/-- **A key that was freed is not in use again**, as long as its slot was not freed so often that
its generation has started over. -/
theorem Ledger.gone (h : Ledger given freed a) (hkey : key ∈ freed)
    (hfew : timesFreed freed key.index < UInt32.size) : (a.get? key).isSome = false := by
  refine Bool.eq_false_iff.mpr fun hlive => ?_
  exact h.generation_ne hkey hfew (generation_of_get? hlive)

/-- **A key that comes into use was not given before**, as long as its slot was not freed so often
that its generation has started over. -/
theorem Ledger.not_given (h : Ledger given freed a) (hreshaped : Reshaped a b freed?)
    (hbefore : (a.get? key).isSome = false) (hafter : (b.get? key).isSome = true)
    (hfew : timesFreed freed key.index < UInt32.size) : ¬ given key := by
  intro hgiven
  rcases h.accounted key hgiven with hlive | hfreed
  · rw [hbefore] at hlive
    cases hlive
  · exact h.generation_ne hfreed hfew (hreshaped.generation_eq hbefore hafter)

/-- A key that was given is in use until it is freed, and never after. -/
theorem Ledger.live_iff (h : Ledger given freed a) (hgiven : given key)
    (hfew : timesFreed freed key.index < UInt32.size) :
    (a.get? key).isSome = true ↔ key ∉ freed := by
  constructor
  · intro hlive hfreed
    rw [h.gone hfreed hfew] at hlive
    cases hlive
  · exact (h.accounted key hgiven).resolve_right

end Ledger

/-! ### An arena alone -/

variable {α : Type} {capacity : Nat} {past : List (Request α × Reply α)} {a : Arena α}

/-- The key that a value was stored under. -/
def issued? : Request α × Reply α → Option Key
  | (.insert _, .stored key) => some key
  | _ => none

/-- The key that a value was removed from. -/
def retired? : Request α × Reply α → Option Key
  | (.remove key, .found (some _)) => some key
  | _ => none

/-- The keys under which values were stored, in order. -/
def issued (past : List (Request α × Reply α)) : List Key :=
  past.filterMap issued?

/-- The keys from which values were removed, in order. -/
def retired (past : List (Request α × Reply α)) : List Key :=
  past.filterMap retired?

theorem issued_concat (past : List (Request α × Reply α)) (entry : Request α × Reply α) :
    issued (past ++ [entry]) = issued past ++ (issued? entry).toList := by
  rw [issued, List.filterMap_append]
  cases h : issued? entry <;> simp [issued, h]

theorem retired_concat (past : List (Request α × Reply α)) (entry : Request α × Reply α) :
    retired (past ++ [entry]) = retired past ++ (retired? entry).toList := by
  rw [retired, List.filterMap_append]
  cases h : retired? entry <;> simp [retired, h]

/-- **What a request does to the slots.** -/
theorem serve_reshaped (a : Arena α) (request : Request α) :
    a.shape.Reshaped (a.serve request).2.shape (retired? (request, (a.serve request).1)) := by
  cases request with
  | insert value =>
    simp only [serve]
    cases hinsert : a.insert value with
    | ok stored => exact .stored (shape_insert hinsert)
    | error refusal => exact .kept rfl
  | get key => exact .kept rfl
  | modify key f => exact .kept (a.shape_modify key f)
  | remove key =>
    simp only [serve, remove_fst]
    cases hget : a.get? key with
    | none =>
      refine .kept ?_
      rw [remove, hget]
    | some value => exact .freed (by simp [hget]) (a.shape_remove key)

/-- A key that is given finds nothing before, and afterwards it does. -/
theorem get?_of_issued? {request : Request α} {key : Key}
    (h : issued? (request, (a.serve request).1) = some key) :
    (a.shape.get? key).isSome = false ∧ ((a.serve request).2.shape.get? key).isSome = true := by
  cases request with
  | insert value =>
    simp only [serve] at h ⊢
    cases hinsert : a.insert value with
    | ok stored =>
      simp only [hinsert, issued?, Option.some.injEq] at h ⊢
      subst h
      rw [isSome_get?_shape, isSome_get?_shape, get?_eq_none_of_insert hinsert,
        get?_insert_of_ok hinsert, if_pos rfl]
      exact ⟨rfl, rfl⟩
    | error refusal => simp [hinsert, issued?] at h
  | get key | modify key f | remove key => cases h

theorem Dialogue.ledger (h : Dialogue capacity past a) :
    Ledger (· ∈ issued past) (retired past) a.shape := by
  induction h with
  | nil =>
    rw [shape_empty]
    simpa [issued, retired] using Ledger.empty capacity
  | snoc _ request ih =>
    rw [retired_concat]
    refine ih.step (serve_reshaped _ request) fun key hkey => ?_
    rw [issued_concat, List.mem_append, Option.mem_toList] at hkey
    exact hkey.imp id fun hnew => (get?_of_issued? hnew).2

/-- A slot was freed no more often before a request than after it. -/
theorem timesFreed_retired_le (past : List (Request α × Reply α)) (entry : Request α × Reply α)
    (index : Nat) :
    timesFreed (retired past) index ≤ timesFreed (retired (past ++ [entry])) index := by
  rw [retired_concat, timesFreed_append]
  exact Nat.le_add_right ..

theorem Dialogue.nodup_issued (h : Dialogue capacity past a)
    (hfew : ∀ index, timesFreed (retired past) index < UInt32.size) : (issued past).Nodup := by
  induction h with
  | nil => exact List.nodup_nil
  | @snoc past a hbefore request ih =>
    have hfewBefore (index : Nat) : timesFreed (retired past) index < UInt32.size :=
      Nat.lt_of_le_of_lt (timesFreed_retired_le ..) (hfew index)
    rw [issued_concat]
    cases hissued : issued? (request, (a.serve request).1) with
    | none => simpa using ih hfewBefore
    | some key =>
      obtain ⟨hnone, hlive⟩ := get?_of_issued? hissued
      have hnew := hbefore.ledger.not_given (serve_reshaped a request) hnone hlive
        (hfewBefore key.index)
      rw [Option.toList_some, ← List.concat_eq_append, List.nodup_concat]
      exact ⟨hnew, ih hfewBefore⟩

/-- A key that finds nothing is answered so, and nothing changes. -/
theorem serve_of_get?_eq_none {key : Key} (h : a.get? key = none) :
    a.serve (.get key) = (.found none, a) ∧ (∀ f, a.serve (.modify key f) = (.found none, a)) ∧
      a.serve (.remove key) = (.found none, a) := by
  simp [serve, modify, remove, h]

/-- What is known of the keys of an arena. -/
structure NeverReissued (past : List (Request α × Reply α)) (a : Arena α) : Prop where
  /-- No key is given twice. -/
  distinct : (issued past).Nodup
  /-- The numbers of the slots have 32 bits. -/
  fits : ∀ key ∈ issued past, key.index < UInt32.size
  /-- A key that was given finds something until it is removed. -/
  found_iff : ∀ key ∈ issued past, (a.get? key).isSome = true ↔ key ∉ retired past
  /-- A key that was removed finds nothing, and nothing can be done with it. -/
  stale : ∀ key ∈ retired past,
    a.serve (.get key) = (.found none, a) ∧ (∀ f, a.serve (.modify key f) = (.found none, a)) ∧
      a.serve (.remove key) = (.found none, a)

theorem Dialogue.neverReissued (h : Dialogue capacity past a) (hcapacity : capacity ≤ UInt32.size)
    (hfew : ∀ index, timesFreed (retired past) index < UInt32.size) : NeverReissued past a where
  distinct := h.nodup_issued hfew
  fits key hkey := by
    have hwithin : key.index < a.capacity := h.ledger.within key hkey
    rw [h.tells.capacity_eq] at hwithin
    exact Nat.lt_of_lt_of_le hwithin hcapacity
  found_iff key hkey := by
    rw [← isSome_get?_shape]
    exact h.ledger.live_iff hkey (hfew key.index)
  stale key hkey := by
    have hgone := h.ledger.gone hkey (hfew key.index)
    rw [isSome_get?_shape, Option.isSome_eq_false_iff, Option.isNone_iff_eq_none] at hgone
    exact serve_of_get?_eq_none hgone

end Arena

/-! ### The tasks of a scheduler -/

variable {κ : Type}

/-- The task of the same kind that is stored elsewhere. -/
def TaskKey.elsewhere (key : Key) : TaskKey → TaskKey
  | .event _ => .event key
  | .timer _ => .timer key

@[simp]
theorem TaskKey.elsewhere_self (task : TaskKey) : task.elsewhere task.key = task := by
  cases task <;> rfl

/-- How many tasks there may be of the kind of this one. -/
def Config.maxTasks (c : Config) : TaskKey → Nat
  | .event _ => c.maxEventTasks
  | .timer _ => c.maxTimerTasks

namespace Host

variable {c : Config} {ok : Condition κ} {past : History κ} {s s' : Host κ} {m : Move κ}
  {task : TaskKey} {callback : κ}

/-- The tasks that were registered, in order. -/
def registrations (past : History κ) : List TaskKey :=
  (log registered? past).map Prod.fst

theorem registrations_concat (past : History κ) (s : Host κ) (m : Move κ) :
    registrations (past ++ [(s, m)])
      = registrations past ++ ((s.registered? m).map Prod.fst).toList := by
  rw [registrations, log_concat, List.map_append]
  cases s.registered? m <;> rfl

/-- The keys that were freed of tasks of the kind of this one, in order. -/
def vacated (past : History κ) (task : TaskKey) : List Key :=
  log (fun s m => s.vacated? task m) past

theorem timesFreed_vacated (past : History κ) (task : TaskKey) :
    Arena.timesFreed (vacated past task) task.key.index = frees past task :=
  rfl

/-- A task that is registered was not stored before, and is now. -/
theorem slots_of_registered? (hrun : Run c ok past s) (h : s.step m = some s')
    (hregistered : s.registered? m = some (task, callback)) :
    ((s.scheduler.state.slots task).get? task.key).isSome = false ∧
      ((s'.scheduler.state.slots task).get? task.key).isSome = true := by
  obtain ⟨hbefore, hafter⟩ := callback?_of_registered? hrun h hregistered
  rw [State.isSome_get?_slots, State.isSome_get?_slots, hbefore, hafter]
  exact ⟨rfl, rfl⟩

theorem slots_create (id : SchedulerId) (time : Nat) (task : TaskKey) :
    (create (κ := κ) id c time).scheduler.state.slots task = { capacity := c.maxTasks task } := by
  cases task <;> exact Arena.shape_empty _

/-- **Every run keeps the ledger** of the tasks of either kind. -/
theorem Run.taskLedger (h : Run c ok past s) (task : TaskKey) :
    Arena.Ledger (fun key => task.elsewhere key ∈ registrations past) (vacated past task)
      (s.scheduler.state.slots task) := by
  refine h.inductAlong (I := fun past s =>
    Arena.Ledger (fun key => task.elsewhere key ∈ registrations past) (vacated past task)
      (s.scheduler.state.slots task)) (fun id time => ?_) ?_
  · rw [slots_create]
    simpa [registrations, log, vacated] using Arena.Ledger.empty (c.maxTasks task)
  intro past s m s' hrun hI hstep _
  rw [vacated, log_concat]
  refine hI.step (step_slots hstep task) fun key hkey => ?_
  rw [registrations_concat, List.mem_append, Option.mem_toList, Option.map_eq_some_iff] at hkey
  rcases hkey with hold | ⟨⟨new, callback⟩, hregistered, rfl⟩
  · exact .inl hold
  · right
    cases task <;> exact (slots_of_registered? hrun hstep hregistered).2

/-- A slot was freed no more often before a step than after it. -/
theorem frees_le_concat (past : History κ) (s : Host κ) (m : Move κ) (task : TaskKey) :
    frees past task ≤ frees (past ++ [(s, m)]) task := by
  rw [frees_concat]
  exact Nat.le_add_right ..

/-- A task that is registered was not registered before. -/
theorem Run.not_mem_registrations (hrun : Run c ok past s) (h : s.step m = some s')
    (hregistered : s.registered? m = some (task, callback))
    (hfew : frees past task < UInt32.size) : task ∉ registrations past := by
  obtain ⟨hbefore, hafter⟩ := slots_of_registered? hrun h hregistered
  have hnew := (hrun.taskLedger task).not_given (step_slots h task) hbefore hafter
    (by rwa [timesFreed_vacated])
  rwa [TaskKey.elsewhere_self] at hnew

theorem Run.nodup_registrations (h : Run c ok past s)
    (hfew : ∀ task, frees past task < UInt32.size) : (registrations past).Nodup := by
  refine h.inductAlong (I := fun past _ => (∀ task, frees past task < UInt32.size) →
    (registrations past).Nodup) (fun id time _ => List.nodup_nil) ?_ hfew
  intro past s m s' hrun hI hstep _ hfew
  have hfewBefore (task : TaskKey) : frees past task < UInt32.size :=
    Nat.lt_of_le_of_lt (frees_le_concat ..) (hfew task)
  rw [registrations_concat]
  cases hregistered : s.registered? m with
  | none => simpa using hI hfewBefore
  | some entry =>
    obtain ⟨task, callback⟩ := entry
    have hnew := hrun.not_mem_registrations hstep hregistered (hfewBefore task)
    rw [Option.map_some, Option.toList_some, ← List.concat_eq_append, List.nodup_concat]
    exact ⟨hnew, hI hfewBefore⟩

/-- **A task that was registered exists until its slot is freed, and its key never reaches another
one**, as long as the slot was not freed so often that its generation has started over. -/
theorem Run.isSome_callback?_iff (h : Run c ok past s) (hregistered : task ∈ registrations past)
    (hfew : frees past task < UInt32.size) :
    (s.scheduler.state.callback? task).isSome = true ↔ task.key ∉ vacated past task := by
  rw [← State.isSome_get?_slots]
  exact (h.taskLedger task).live_iff (by rwa [TaskKey.elsewhere_self])
    (by rwa [timesFreed_vacated])

theorem Run.capacity_slots (h : Run c ok past s) (task : TaskKey) :
    (s.scheduler.state.slots task).capacity = c.maxTasks task := by
  cases task with
  | event key => exact h.eventsStored.capacity_eq
  | timer key => exact h.ledger.capacity_eq

/-! ### What a key finds -/

/-- A slot that was seldom freed was seldom freed while a callback of its task was out. -/
theorem keyLasts_of_frees_lt (hfew : frees past task < UInt32.size) : KeyLasts past task := by
  intro earlier hearlier
  have hsince : (sinceOut earlier task).Sublist past :=
    (List.rtakeWhile_suffix ..).sublist.trans hearlier.sublist
  exact Nat.lt_of_le_of_lt (List.Sublist.countP_le (hsince.filterMap _)) hfew

/-- Of things that belong to different tasks, one belongs to this task. -/
theorem filterMap_own? {entries : List (TaskKey × κ)} (hnodup : (entries.map Prod.fst).Nodup)
    (hmem : (task, callback) ∈ entries) : entries.filterMap task.own? = [callback] := by
  induction entries with
  | nil => cases hmem
  | cons entry rest ih =>
    rw [List.map_cons, List.nodup_cons] at hnodup
    obtain ⟨hnew, hnodup⟩ := hnodup
    rcases List.mem_cons.mp hmem with rfl | hmem
    · have hrest : rest.filterMap task.own? = [] := by
        refine List.filterMap_eq_nil_iff.mpr fun other hother => TaskKey.own?_of_ne ?_ _
        rintro rfl
        exact hnew (List.mem_map.mpr ⟨other, hother, rfl⟩)
      rw [List.filterMap_cons, TaskKey.own?_self, hrest]
    · have hne : entry.1 ≠ task := by
        rintro rfl
        exact hnew (List.mem_map.mpr ⟨_, hmem, rfl⟩)
      rw [List.filterMap_cons, TaskKey.own?_of_ne hne, ih hnodup hmem]

/-- A callback that a task holds is the one that was registered with the task. -/
theorem Run.logOf_registered?_eq (h : Run c ok past s)
    (hfew : ∀ task, frees past task < UInt32.size)
    (hheld : s.scheduler.state.callback? task = some (some callback)) :
    logOf registered? past task = [callback] := by
  have hbalanced := (h.placed_balanced (keyLasts_of_frees_lt (hfew task))).2
  have hmem : callback ∈ logOf registered? past task := by
    rw [hbalanced, hheld]
    simp
  obtain ⟨entry, hentry, hown⟩ := List.mem_filterMap.mp hmem
  rw [TaskKey.own?_eq_some_iff] at hown
  exact filterMap_own? (h.nodup_registrations hfew) (hown ▸ hentry)

/-- What is known of the keys of tasks. -/
structure NeverReissued (past : History κ) (s : Host κ) : Prop where
  /-- No task is registered under the key of an earlier one. -/
  distinct : (registrations past).Nodup
  /-- The numbers of the slots have 32 bits. -/
  fits : ∀ task ∈ registrations past, task.key.index < UInt32.size
  /-- A key reaches its task until that is freed, and nothing from then on. -/
  reaches_iff : ∀ task ∈ registrations past,
    (s.scheduler.state.callback? task).isSome = true ↔ task.key ∉ vacated past task
  /-- What a key reaches is what was registered under it. -/
  own : ∀ {task callback}, s.scheduler.state.callback? task = some (some callback) →
    logOf registered? past task = [callback]

theorem Run.neverReissued (h : Run c ok past s) (hcapacity : ∀ task, c.maxTasks task ≤ UInt32.size)
    (hfew : ∀ task, frees past task < UInt32.size) : NeverReissued past s where
  distinct := h.nodup_registrations hfew
  fits task htask := by
    have hwithin := (h.taskLedger task).within task.key (by rwa [TaskKey.elsewhere_self])
    rw [h.capacity_slots] at hwithin
    exact Nat.lt_of_lt_of_le hwithin (hcapacity task)
  reaches_iff _ htask := h.isSome_callback?_iff htask (hfew _)
  own := h.logOf_registered?_eq hfew

end Host

/-! ### Both -/

/-- **Keys are never given again**, neither by an arena that is asked to store and to remove values
in any order, nor to the tasks of a scheduler on any run: a key differs from all keys that were
given before, and once it was freed it finds nothing for ever. There may be `2 ^ 32` slots, and each
may be freed fewer than `2 ^ 32` times. -/
theorem keys_never_reissued {α : Type} :
    (∀ {capacity : Nat} {past : List (Arena.Request α × Arena.Reply α)} {a : Arena α},
      capacity ≤ UInt32.size → Arena.Dialogue capacity past a →
      (∀ index, Arena.timesFreed (Arena.retired past) index < UInt32.size) →
      Arena.NeverReissued past a) ∧
    ∀ {c : Config} {ok : Host.Condition κ} {past : Host.History κ} {s : Host κ},
      (∀ task, c.maxTasks task ≤ UInt32.size) → Host.Run c ok past s →
      (∀ task, Host.frees past task < UInt32.size) → Host.NeverReissued past s :=
  ⟨fun hcapacity h hfew => h.neverReissued hcapacity hfew,
    fun hcapacity h hfew => h.neverReissued hcapacity hfew⟩

/-- An arena of one slot gives that twice, under two keys, and so does a scheduler that has room for
one timer. The first key finds nothing while the slot holds what came second. -/
theorem keys_never_reissued_one_slot :
    (∃ (past : List (Arena.Request Nat × Arena.Reply Nat)) (a : Arena Nat),
      Arena.Dialogue 1 past a ∧ (Arena.issued past).Nodup ∧ Arena.issued past = [⟨0, 0⟩, ⟨0, 1⟩] ∧
        a.get? ⟨0, 1⟩ = some 20 ∧ a.serve (.remove ⟨0, 0⟩) = (.found none, a)) ∧
    ∃ (past : Host.History Nat) (s : Host Nat),
      Host.Run { maxTimerTasks := 1 } (fun _ _ _ _ => True) past s ∧
        (Host.registrations past).Nodup ∧
        Host.registrations past = [.timer ⟨0, 0⟩, .timer ⟨0, 1⟩] ∧
        s.scheduler.state.callback? (.timer ⟨0, 0⟩) = none ∧
        s.scheduler.state.callback? (.timer ⟨0, 1⟩) = some (some 2) ∧
        Host.logOf Host.registered? past (.timer ⟨0, 1⟩) = [2] := by
  obtain ⟨harena, hhost⟩ := keys_never_reissued (κ := Nat) (α := Nat)
  constructor
  · obtain ⟨past, a, h, hissued, hretired, hget⟩ :
        ∃ (past : List (Arena.Request Nat × Arena.Reply Nat)) (a : Arena Nat),
          Arena.Dialogue 1 past a ∧ Arena.issued past = [⟨0, 0⟩, ⟨0, 1⟩] ∧
          Arena.retired past = [⟨0, 0⟩] ∧ a.get? ⟨0, 1⟩ = some 20 :=
      ⟨_, _, ((Arena.Dialogue.nil.snoc (.insert 10)).snoc (.remove ⟨0, 0⟩)).snoc (.insert 20), rfl,
        rfl, rfl⟩
    have hfew (index : Nat) : Arena.timesFreed (Arena.retired past) index < UInt32.size := by
      rw [hretired]
      exact Nat.lt_of_le_of_lt List.countP_le_length (by decide)
    have hkeys := harena (by decide) h hfew
    exact ⟨past, a, h, hkeys.distinct, hissued, hget,
      (hkeys.stale ⟨0, 0⟩ (by simp [hretired])).2.2⟩
  · obtain ⟨past, s, h, hlength, hregistrations, hvacated, hheld⟩ :
        ∃ (past : Host.History Nat) (s : Host Nat),
          Host.Run { maxTimerTasks := 1 } (fun _ _ _ _ => True) past s ∧ past.length = 6 ∧
          Host.registrations past = [.timer ⟨0, 0⟩, .timer ⟨0, 1⟩] ∧
          Host.vacated past (.timer ⟨0, 0⟩) = [⟨0, 0⟩] ∧
          s.scheduler.state.callback? (.timer ⟨0, 1⟩) = some (some 2) :=
      ⟨_, _, Host.Run.of_play ⟨0⟩ 0
        [.ask (.addTimer 1 (.after 100) false), .perform 0, .ask (.releaseTimer ⟨⟨0⟩, ⟨0, 0⟩⟩),
         .perform 0, .ask (.addTimer 2 (.after 100) false), .perform 0] rfl, rfl, rfl, rfl, rfl⟩
    have hcapacity (task : TaskKey) :
        ({ maxTimerTasks := 1 } : Config).maxTasks task ≤ UInt32.size := by
      cases task <;> simp [Config.maxTasks, UInt32.size]
    have hfew (task : TaskKey) : Host.frees past task < UInt32.size :=
      Nat.lt_of_le_of_lt (Host.frees_le_length past task) (by rw [hlength]; decide)
    have hkeys := hhost hcapacity h hfew
    have hgone := (hkeys.reaches_iff (.timer ⟨0, 0⟩) (by simp [hregistrations])).not
    refine ⟨past, s, h, hkeys.distinct, hregistrations, ?_, hheld, hkeys.own hheld⟩
    simpa [hvacated, TaskKey.key] using hgone

end CoopScheduler
