import CoopScheduler.Proofs.Counters
import CoopScheduler.Proofs.Inventory
import CoopScheduler.Proofs.Progress
import Mathlib.Algebra.GroupWithZero.Nat

/-!
# The counters account for the run

A counter goes up in a critical section, and what it counts comes later: a pass ends and says how,
a caller wakes the context, the context parks. So up to now the counters are ahead by what passes in
progress have been counted for and by the wakes that callers still owe, and by nothing else.

* `Host.Run.charges_perm`: passes were counted for what they report when they end. What those in
  progress have been counted for is in their activations (`Activation.charges`).
* `Host.Run.wakes_perm`: each wake that was asked for is made once, from where it was asked for.
* `Host.Run.rests_perm`: the parks that came to an end are those that passes report.
* `Host.Run.size_slots`: the tasks that exist and those that were freed are those that were
  registered.
* `Host.counters_account`: hence, **whenever no pass is in progress and no wake is owed**, each
  counter says how often what it counts has happened (`Host.Accounts`).
-/

namespace CoopScheduler

variable {κ : Type}

/-! ### What passes are counted for -/

/-- What is counted when a pass decides to end in this way. -/
def PassEnd.charge : PassEnd → Charge
  | .fired _ => .timer
  | .recheck => .recheck
  | .parked _ => .park

theorem PassEnd.charge_eq_timer_iff {ending : PassEnd} :
    ending.charge = .timer ↔ ending.fired?.isSome = true := by
  cases ending <;> simp [charge, fired?]

theorem PassEnd.charge_eq_park_iff {ending : PassEnd} :
    ending.charge = .park ↔ ending.parked?.isSome = true := by
  cases ending <;> simp [charge, parked?]

theorem PassEnd.charge_eq_recheck_iff {ending : PassEnd} :
    ending.charge = .recheck ↔ ending = .recheck := by
  cases ending <;> simp [charge]

theorem PassEnd.charge_ne_wake (ending : PassEnd) : ending.charge ≠ .wake := by
  cases ending <;> simp [charge]

/-- What the pass was counted for. -/
def Pass.charges (pass : Pass) : List Charge :=
  .replicate pass.events .event ++ [pass.ending.charge]

/-- What the pass has been counted for so far. -/
def Activation.charges : Activation κ → List Charge
  | .drain events | .eventReturned events _ _ | .evaluate events _ => .replicate events .event
  | .timerReturned events _ _ | .settle events _ _ _ => .replicate events .event ++ [.timer]
  | .woken events _ => .replicate events .event ++ [.park]
  | .ended pass => pass.charges

namespace Effect

/-- What a pass that has to do this has been counted for so far. -/
def charges : Effect κ → List Charge
  | .call _ next | .discard _ next | .park _ next => next.charges
  | .read next => (next (.ofTime 0)).charges
  | .finish pass => pass.charges

/-- The pass, if it is over. -/
def finished? : Effect κ → Option Pass
  | .finish pass => some pass
  | _ => none

@[simp]
theorem charges_callIfPresent (callback : Option κ) (next : Activation κ) :
    (callIfPresent callback next).charges = next.charges := by
  cases callback <;> rfl

end Effect

/-- **A step of a pass** adds what it counts to what the pass has been counted for. -/
theorem Scheduler.charges_resume (s : Scheduler κ) (activation : Activation κ) :
    (s.resume activation).1.charges = activation.charges ++ (s.charge? activation).toList := by
  cases activation with
  | drain events =>
    rcases hpop : s.state.popEvent with ⟨_ | ⟨key, callback⟩, state⟩
    · simp [resume, charge?, hpop, Effect.charges, Activation.charges]
    · simp [resume, charge?, hpop, Activation.charges, List.replicate_succ']
  | evaluate events now =>
    rcases hdecision : s.state.evaluate s.config now with ⟨⟨key, callback⟩ | _ | wait, state⟩
    · simp [resume, charge?, hdecision, Activation.charges, Decision.charge]
    · simp [resume, charge?, hdecision, Effect.charges, Activation.charges, Pass.charges,
        PassEnd.charge, Decision.charge]
    · simp [resume, charge?, hdecision, Effect.charges, Activation.charges, Decision.charge]
  | _ =>
    simp [resume, charge?, Effect.charges, Activation.charges, Pass.charges, PassEnd.charge]

/-- A pass is counted once for each event that it reports. -/
theorem Pass.count_event_charges (passes : List Pass) :
    (passes.flatMap Pass.charges).count .event = (passes.map Pass.events).sum := by
  have hone (pass : Pass) : pass.charges.count .event = pass.events := by
    have hending : pass.ending.charge ≠ .event := by cases pass.ending <;> simp [PassEnd.charge]
    simp [Pass.charges, hending]
  induction passes with
  | nil => rfl
  | cons pass rest ih => simp [hone, ih]

/-- A pass is counted once for the way in which it ends. -/
theorem Pass.count_ending_charges (passes : List Pass) {charge : Charge} (hne : charge ≠ .event) :
    (passes.flatMap Pass.charges).count charge = passes.countP (·.ending.charge = charge) := by
  have hone (pass : Pass) :
      pass.charges.count charge = if pass.ending.charge = charge then 1 else 0 := by
    simp [Pass.charges, List.count_replicate, hne.symm, List.count_singleton]
  induction passes with
  | nil => rfl
  | cons pass rest ih => simp [hone, ih, List.countP_cons, Nat.add_comm]

namespace Host

variable {c : Config} {ok : Condition κ} {past : History κ} {s s' : Host κ} {m : Move κ}

/-! ### Passes -/

/-- What the pass has been counted for so far. -/
def Frame.charges : Frame κ → List Charge
  | .reading next => (next (.ofTime 0)).charges
  | .parking _ next _ | .ready next _ => next.charges

theorem ended?_of_resumed? {activation : Activation κ} {readAt : Nat}
    (h : s.resumed? m = some (activation, readAt)) :
    s.ended? m = (s.scheduler.resume activation).1.finished? := by
  simp only [ended?, h]
  cases (s.scheduler.resume activation).1 <;> rfl

/-- What a pass has been counted for is with what is left of it, or it is over. -/
theorem charges_framesAfter (effect : Effect κ) (readAt : Nat) :
    effect.finished?.toList.flatMap Pass.charges
      ++ (framesAfter effect readAt).flatMap Frame.charges = effect.charges := by
  cases effect <;> simp [Effect.finished?, framesAfter, Frame.charges, Effect.charges]

theorem step_charges (hwf : s.WellFormed c) (h : s.step m = some s') :
    ((s.ended? m).toList.flatMap Pass.charges ++ s'.passes.flatMap Frame.charges).Perm
      (s.passes.flatMap Frame.charges ++ (s.passCharge? m).toList) := by
  have hquiet (hresumed : s.resumed? m = none) : s.ended? m = none ∧ s.passCharge? m = none := by
    simp [ended?, passCharge?, hresumed]
  cases Step.of_step h with
  | enter => simp [hquiet rfl, Frame.charges, Activation.start, Activation.charges]
  | read hpasses =>
    simp only [hquiet (by simp [resumed?, hpasses]), hpasses]
    cases hwf.passes _ (hpasses ▸ List.mem_cons_self) with
    | readEvaluate | readSettle => simp [Frame.charges, Activation.charges]
  | unparked hpasses =>
    simp [hquiet (by simp [resumed?, hpasses]), hpasses, Frame.charges]
  | @goOn activation readAt rest hpasses =>
    have hresumed : s.resumed? .resume = some (activation, readAt) := by simp [resumed?, hpasses]
    rw [ended?_of_resumed? hresumed, List.flatMap_append, ← List.append_assoc,
      charges_framesAfter, s.scheduler.charges_resume, hpasses, List.flatMap_cons,
      List.append_assoc, List.append_assoc]
    simp only [passCharge?, hresumed, Option.bind_some]
    exact List.perm_append_comm.append_left _
  | _ => simp [hquiet rfl, performAt]

/-- **What passes were counted for** is what those report that are over, and what those in progress
have been counted for so far. -/
theorem Run.charges_perm (h : Run c ok past s) :
    ((log ended? past).flatMap Pass.charges ++ s.passes.flatMap Frame.charges).Perm
      (log passCharge? past) :=
  h.carriedParts_perm ended? Pass.charges (·.passes.flatMap Frame.charges) passCharge?
    (fun _ _ => rfl) fun hrun => step_charges hrun.wellFormed

/-- Whether a move begins a pass. -/
def Move.begins : Move κ → Bool
  | .enter => true
  | _ => false

/-- **The passes that were begun** are over or in progress. -/
theorem Run.length_passes (h : Run c ok past s) :
    (log ended? past).length + s.passes.length = past.countP (·.2.begins) := by
  refine h.invariant (I := fun past s =>
    (log ended? past).length + s.passes.length = past.countP (·.2.begins)) (fun _ _ => rfl) ?_
  intro past s m s' hI hstep _
  rw [log_concat, List.length_append, List.countP_append, ← hI]
  cases Step.of_step hstep with
  | @goOn activation readAt rest hpasses =>
    have hresumed : s.resumed? .resume = some (activation, readAt) := by simp [resumed?, hpasses]
    have hframes : (s.scheduler.resume activation).1.finished?.toList.length
        + (framesAfter (s.scheduler.resume activation).1 readAt).length = 1 := by
      cases (s.scheduler.resume activation).1 <;> rfl
    simp only [ended?_of_resumed? hresumed, hpasses, List.length_append, List.length_cons,
      List.countP_singleton, Move.begins, Bool.false_eq_true, if_false]
    omega
  | enter =>
    simp only [ended?, resumed?, List.length_cons, List.countP_singleton, Move.begins, if_true,
      Option.toList_none, List.length_nil]
    omega
  | read hpasses | unparked hpasses => simp [ended?, resumed?, hpasses, Move.begins]
  | _ => simp [ended?, resumed?, Move.begins, performAt]

/-! ### Wakes -/

/-- From where the request will wake the context, if it was asked to. -/
def InFlight.source? : InFlight κ → Option WakeSource
  | .waking source => some source
  | _ => none

/-- From where a move wakes the context, unless that is for the dispatch loop to stop. -/
def woke? (s : Host κ) : Move κ → Option WakeSource
  | .unpark i => s.inFlight[i]?.bind InFlight.source?
  | _ => none

/-- What one entry of a list gives, and what the others do. -/
private theorem filterMap_eraseIdx_perm {α β : Type} {l : List α} {i : Nat} {a : α}
    (h : l[i]? = some a) (f : α → Option β) :
    ((f a).toList ++ (l.eraseIdx i).filterMap f).Perm (l.filterMap f) := by
  obtain ⟨hi, rfl⟩ := List.getElem?_eq_some_iff.mp h
  refine .trans ?_ ((List.getElem_cons_eraseIdx_perm hi).filterMap f)
  rw [List.filterMap_cons]
  cases f l[i] <;> exact .refl _

theorem step_wakes (h : s.step m = some s') :
    ((s.woke? m).toList ++ s'.inFlight.filterMap InFlight.source?).Perm
      (s.inFlight.filterMap InFlight.source? ++ (s.asksWake? m).toList) := by
  cases Step.of_step h with
  | @perform i op readAt hi =>
    have hrest := filterMap_eraseIdx_perm hi InFlight.source?
    have hasks : s.asksWake? (.perform i)
        = (s.scheduler.perform op (.ofTime readAt)).1.wake? := by
      simp [asksWake?, performed?, hi]
    rw [hasks]
    simp only [performAt]
    -- The request is over, or it stays in its place and owes the wake.
    cases (s.scheduler.perform op (.ofTime readAt)).1.wake? with
    | none => simpa [woke?, InFlight.source?] using hrest
    | some source =>
      obtain ⟨hlt, -⟩ := List.getElem?_eq_some_iff.mp hi
      have hset := (List.set_perm_cons_eraseIdx hlt (.waking source)).filterMap InFlight.source?
      exact hset.trans ((hrest.cons source).trans (List.perm_append_singleton source _).symm)
  | @unpark i request hi _ =>
    simpa [woke?, asksWake?, performed?, hi] using filterMap_eraseIdx_perm hi InFlight.source?
  | ask | stop => simp [woke?, asksWake?, performed?, InFlight.source?, List.filterMap_cons]
  | _ => simp [woke?, asksWake?, performed?]

/-- **The wakes that were asked for** are those that were made and those that callers still owe. -/
theorem Run.wakes_perm (h : Run c ok past s) :
    (log woke? past ++ s.inFlight.filterMap InFlight.source?).Perm (log asksWake? past) :=
  h.carried_perm woke? (·.inFlight.filterMap InFlight.source?) asksWake? (fun _ _ => rfl)
    fun _ => step_wakes

/-! ### Parks -/

/-- How long the park was to last that the pass comes back from. -/
def Frame.rested? : Frame κ → Option Duration
  | .ready next _ => next.parked?
  | _ => none

/-- How long the park was to last that a move ends. -/
def rested? (s : Host κ) (m : Move κ) : Option Duration :=
  match m, s.passes with
  | .resume, .parking wait _ _ :: _ => some wait
  | _, _ => none

/-- A pass that comes back from a park ends with that, and no other does. -/
theorem rests_framesAfter (s : Scheduler κ) (activation : Activation κ) (readAt : Nat) :
    (s.resume activation).1.finished?.toList.flatMap (·.ending.parked?.toList)
      ++ (framesAfter (s.resume activation).1 readAt).flatMap (·.rested?.toList)
      = activation.parked?.toList := by
  cases activation with
  | drain events =>
    rcases hpop : s.state.popEvent with ⟨_ | ⟨key, callback⟩, state⟩
    · simp [Scheduler.resume, hpop, Effect.finished?, framesAfter, Frame.rested?,
        Activation.parked?]
    · cases callback <;> simp [Scheduler.resume, hpop, Effect.callIfPresent, Effect.finished?,
        framesAfter, Frame.rested?, Activation.parked?]
  | evaluate events now =>
    rcases hdecision : s.state.evaluate s.config now with ⟨⟨key, callback⟩ | _ | wait, state⟩
    · cases callback <;> simp [Scheduler.resume, hdecision, Effect.callIfPresent,
        Effect.finished?, framesAfter, Frame.rested?, Activation.parked?]
    · simp [Scheduler.resume, hdecision, Effect.finished?, framesAfter, PassEnd.parked?,
        Activation.parked?]
    · simp [Scheduler.resume, hdecision, Effect.finished?, framesAfter, Frame.rested?,
        Activation.parked?]
  | _ =>
    simp [Scheduler.resume, Effect.finished?, framesAfter, Frame.rested?, Activation.parked?,
      PassEnd.parked?]

theorem step_rests (hwf : s.WellFormed c) (h : s.step m = some s') :
    ((s.ended? m).toList.flatMap (·.ending.parked?.toList)
      ++ s'.passes.flatMap (·.rested?.toList)).Perm
        (s.passes.flatMap (·.rested?.toList) ++ (s.rested? m).toList) := by
  cases Step.of_step h with
  | enter => simp [ended?, resumed?, rested?, Frame.rested?, Activation.start, Activation.parked?]
  | read hpasses =>
    simp only [ended?, resumed?, rested?, hpasses]
    cases hwf.passes _ (hpasses ▸ List.mem_cons_self) with
    | readEvaluate | readSettle => simp [Frame.rested?, Activation.parked?]
  | unparked hpasses =>
    simp only [ended?, resumed?, rested?, hpasses]
    cases hwf.passes _ (hpasses ▸ List.mem_cons_self) with
    | parking =>
      simpa [Frame.rested?, Activation.parked?] using (List.perm_append_singleton _ _).symm
  | @goOn activation readAt rest hpasses =>
    have hresumed : s.resumed? .resume = some (activation, readAt) := by simp [resumed?, hpasses]
    rw [ended?_of_resumed? hresumed, List.flatMap_append, ← List.append_assoc,
      rests_framesAfter, hpasses]
    simp [rested?, hpasses, Frame.rested?]
  | _ => simp [ended?, resumed?, rested?, performAt]

/-- **The parks that are over** are those that passes report, and those that passes in progress come
back from. -/
theorem Run.rests_perm (h : Run c ok past s) :
    ((log ended? past).flatMap (·.ending.parked?.toList)
      ++ s.passes.flatMap (·.rested?.toList)).Perm (log rested? past) :=
  h.carriedParts_perm ended? (·.ending.parked?.toList) (·.passes.flatMap (·.rested?.toList)) rested?
    (fun _ _ => rfl) fun hrun => step_rests hrun.wellFormed

/-- A park is asked for when it is counted. -/
theorem length_parked? (past : History κ) :
    (log parked? past).length = (log passCharge? past).count .park := by
  have hone (s : Host κ) (m : Move κ) :
      (s.parked? m).toList.length = (s.passCharge? m).toList.count .park := by
    cases hresumed : s.resumed? m with
    | none => simp [parked?, passCharge?, hresumed]
    | some resumed =>
      obtain ⟨activation, readAt⟩ := resumed
      simp only [parked?, passCharge?, hresumed, Option.bind_some]
      cases activation with
      | drain events =>
        rcases hpop : s.scheduler.state.popEvent with ⟨_ | ⟨key, _ | callback⟩, state⟩ <;>
          simp [Scheduler.resume, Scheduler.charge?, hpop, Effect.callIfPresent]
      | evaluate events now =>
        rcases hdecision : s.scheduler.state.evaluate s.scheduler.config now with
          ⟨⟨key, _ | callback⟩ | _ | wait, state⟩ <;>
          simp [Scheduler.resume, Scheduler.charge?, hdecision, Effect.callIfPresent,
            Decision.charge]
      | _ => simp [Scheduler.resume, Scheduler.charge?]
  induction past using List.reverseRecOn with
  | nil => rfl
  | append_singleton past step ih =>
    rw [log_concat, log_concat, List.length_append, List.count_append, ih, hone]

/-! ### Accounts -/

/-- **Whenever no pass is in progress and no wake is owed**, what was counted is what passes report
and the wakes that were made. -/
theorem Run.charged_of_quiet (h : Run c ok past s) (hpasses : s.passes = [])
    (hwaking : ∀ source, .waking source ∉ s.inFlight) (charge : Charge) :
    s.scheduler.state.counters.charged charge
      = ((log ended? past).flatMap Pass.charges).count charge
        + if charge = .wake then (log woke? past).length else 0 := by
  have howed : s.inFlight.filterMap InFlight.source? = [] := by
    refine List.filterMap_eq_nil_iff.mpr fun request hmem => ?_
    cases request with
    | waking source => exact absurd hmem (hwaking source)
    | asked | stopping => rfl
  have hcharges := h.charges_perm
  have hwakes := h.wakes_perm
  rw [hpasses, List.flatMap_nil, List.append_nil] at hcharges
  rw [howed, List.append_nil] at hwakes
  rw [h.charged, count_log_charge?, hcharges.count_eq, hwakes.length_eq]

/-- The counters of the host `s` account for its history `past`. -/
structure Accounts (past : History κ) (s : Host κ) : Prop where
  /-- Every pass that was begun is over. -/
  ended_eq : (log ended? past).length = past.countP (·.2.begins)
  /-- Passes report so many events. -/
  events_eq : s.scheduler.stats.eventsDispatched = ((log ended? past).map Pass.events).sum
  /-- So many passes have ended with a timer. -/
  timers_eq :
    s.scheduler.stats.timersFired = (log ended? past).countP (·.ending.fired?.isSome)
  /-- So many passes have ended with a park. -/
  parks_eq : s.scheduler.stats.parks = (log ended? past).countP (·.ending.parked?.isSome)
  /-- The context was asked so often to park. -/
  asked_eq : s.scheduler.stats.parks = (log parked? past).length
  /-- It has done so, and each park is over. -/
  rested_eq : s.scheduler.stats.parks = (log rested? past).length
  /-- The parks were to last as long as passes report. -/
  rested_perm : (log rested? past).Perm ((log ended? past).filterMap (·.ending.parked?))
  /-- So many passes were cut short. -/
  rechecks_eq : s.scheduler.stats.rechecks = rechecks past
  /-- The context was woken so often, not counting the wakes for the dispatch loop to stop. -/
  wakes_eq : s.scheduler.stats.forcedWakes = (log woke? past).length
  /-- The timers that exist are those that were registered and not freed. -/
  timerTasks_eq : s.scheduler.stats.timerTasks + (log freed? past).length
    = ((registrations past).filterMap TaskKey.timer?).length
  /-- The events that exist are those that were registered and not freed. -/
  eventTasks_eq : s.scheduler.stats.eventTasks + (log eventFreed? past).length
    = ((registrations past).filterMap TaskKey.event?).length
  /-- On a run of less than `2 ^ 64` steps no counter ever exceeds 64 bits. -/
  fits : past.length < UInt64.size → ∀ t ∈ s :: past.map Prod.fst, ∀ charge,
    t.scheduler.stats.charged charge < UInt64.size

theorem Run.fits (h : Run c ok past s) (hshort : past.length < UInt64.size) :
    ∀ t ∈ s :: past.map Prod.fst, ∀ charge, t.scheduler.stats.charged charge < UInt64.size := by
  intro t hmem charge
  rcases List.mem_cons.mp hmem with rfl | hmem
  · exact Nat.lt_of_le_of_lt (h.charged_le charge) hshort
  · obtain ⟨⟨t, m⟩, hstep, rfl⟩ := List.mem_map.mp hmem
    obtain ⟨before, t', hrun, -, -, hprefix⟩ := h.exists_of_mem hstep
    have hlength := hprefix.length_le
    rw [List.length_append] at hlength
    exact Nat.lt_of_le_of_lt (hrun.charged_le charge) (by omega)

/-- **The counters account for the run.** On any run, with passes nested in passes, whenever no pass
is in progress and no request is between its critical section and its wake, the counters say what
the passes report that were run, how often the context was made to park, and how often it was woken;
and the tasks that exist are those that were registered and not freed. -/
theorem counters_account (h : Run c ok past s) (hpasses : s.passes = [])
    (hwaking : ∀ source, .waking source ∉ s.inFlight) : Accounts past s := by
  have hcharged := h.charged_of_quiet hpasses hwaking
  have hended := h.length_passes
  have hcharges := h.charges_perm
  have hrests := h.rests_perm
  -- No pass is in progress, so all that passes were counted for is reported.
  rw [hpasses, List.length_nil, Nat.add_zero] at hended
  rw [hpasses, List.flatMap_nil, List.append_nil] at hcharges hrests
  rw [← List.filterMap_eq_flatMap_toList] at hrests
  have hparks : s.scheduler.stats.parks = (log ended? past).countP (·.ending.parked?.isSome) := by
    refine ((hcharged .park).trans (Pass.count_ending_charges _ (by simp))).trans ?_
    simp only [PassEnd.charge_eq_park_iff, Bool.decide_eq_true]
  constructor
  case ended_eq => exact hended
  case events_eq => exact (hcharged .event).trans (Pass.count_event_charges _)
  case timers_eq =>
    refine ((hcharged .timer).trans (Pass.count_ending_charges _ (by simp))).trans ?_
    simp only [PassEnd.charge_eq_timer_iff, Bool.decide_eq_true]
  case parks_eq => exact hparks
  case asked_eq =>
    rw [length_parked?, ← hcharges.count_eq]
    exact hcharged .park
  case rested_eq => rw [hparks, ← hrests.length_eq, List.length_filterMap_eq_countP]
  case rested_perm => exact hrests.symm
  case rechecks_eq =>
    refine ((hcharged .recheck).trans (Pass.count_ending_charges _ (by simp))).trans ?_
    simp only [PassEnd.charge_eq_recheck_iff, rechecks]
  case wakes_eq =>
    refine (hcharged .wake).trans ?_
    rw [Pass.count_ending_charges _ (by simp), if_pos rfl]
    simp [PassEnd.charge_ne_wake]
  case timerTasks_eq => exact h.size_slots (.timer ⟨0, 0⟩)
  case eventTasks_eq => exact h.size_slots (.event ⟨0, 0⟩)
  case fits => exact h.fits

/-- A pass runs an event whose callback sends the event again and has a nested pass run it; that one
is cut short by one more send. Then the first pass fires a timer, which is released while it runs,
and another pass parks until an interrupt sends the event. The wake for the dispatch loop to stop is
not counted. -/
theorem counters_account_nested :
    ∃ (past : History Nat) (s : Host Nat), Run {} (fun _ _ _ _ => True) past s ∧
      s.passes = [] ∧ (∀ source, .waking source ∉ s.inFlight) ∧ Accounts past s ∧
      log ended? past
        = [⟨1, .recheck⟩, ⟨2, .fired ⟨⟨0⟩, ⟨0, 0⟩⟩⟩, ⟨0, .parked (.ofSeconds 1)⟩] ∧
      s.scheduler.stats = ⟨⟨3, 1, 1, 1, 1⟩, 0, 0, 1, 1⟩ := by
  obtain ⟨past, s, hrun, hpasses, hinFlight, hended, hstats⟩ :
      ∃ (past : History Nat) (s : Host Nat), Run {} (fun _ _ _ _ => True) past s ∧
        s.passes = [] ∧ s.inFlight = [] ∧
        log ended? past
          = [⟨1, .recheck⟩, ⟨2, .fired ⟨⟨0⟩, ⟨0, 0⟩⟩⟩, ⟨0, .parked (.ofSeconds 1)⟩] ∧
        s.scheduler.stats = ⟨⟨3, 1, 1, 1, 1⟩, 0, 0, 1, 1⟩ :=
    ⟨_, _, Run.of_play ⟨0⟩ 0
      [.ask (.createEvent 10), .perform 0, .ask (.addTimer 20 (.after 100) false), .perform 0,
       .ask (.send ⟨⟨0⟩, ⟨0, 0⟩⟩ .thread), .perform 0, .enter, .resume,
       -- The callback of the event is being called.
       .ask (.send ⟨⟨0⟩, ⟨0, 0⟩⟩ .thread), .perform 0, .enter, .resume, .resume, .resume,
       .ask (.send ⟨⟨0⟩, ⟨0, 0⟩⟩ .thread), .perform 0, .resume, .resume,
       -- The nested pass is over, and the callback returns.
       .resume, .resume, .resume, .resume, .elapse 100, .resume, .resume,
       -- The callback of the timer is being called.
       .ask (.releaseTimer ⟨⟨0⟩, ⟨0, 0⟩⟩), .perform 0, .resume, .resume, .resume, .resume,
       .enter, .resume, .resume, .resume, .ask (.send ⟨⟨0⟩, ⟨0, 0⟩⟩ .interrupt), .perform 0,
       .stop, .unpark 0, .unpark 0, .resume, .resume] rfl, rfl, rfl, rfl, rfl⟩
  have hwaking (source : WakeSource) : .waking source ∉ s.inFlight := by simp [hinFlight]
  exact ⟨past, s, hrun, hpasses, hwaking, counters_account hrun hpasses hwaking, hended, hstats⟩

end Host

end CoopScheduler
