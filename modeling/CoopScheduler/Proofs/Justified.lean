import CoopScheduler.Proofs.Countdowns
import CoopScheduler.Proofs.Custody
import CoopScheduler.Proofs.Reissue

/-!
# Why timers fire

A move **arms** a task if it starts a countdown of it (`Host.arms`): by a request that adds the
task, reschedules or rearms it (`Host.armsByRequest`), or by putting it back after its callback.
That a task was armed, or fired, and not touched since is `Host.UntouchedSince`.

* `Host.Run.armed`: a task that is queued was armed and not touched since, and
  `Host.Run.repeating`: a task that will be put back repeats, was fired and not touched since.
* `Host.Run.firings_le`: a task fires no more often than it is armed, and `Host.Run.dormant`: not
  at all from a request on that leaves it without a countdown until the next one that arms it.
* `Host.firings_justified`: **every firing is justified** by an arming of its own that was not
  cancelled.
* `Host.fires_unjustified`: once its slot was freed `2 ^ 32` times, a task that was never armed
  fires by the countdown that another one has left behind.
-/

namespace CoopScheduler

variable {κ : Type}

namespace Host

/-! ### Armings of a task -/

/-- Whether a move starts a countdown of a task. -/
def arms (s : Host κ) (m : Move κ) (key : Key) : Bool :=
  (s.arming? m).any (·.key = key)

/-- Whether a move starts a countdown of a task because of a request. -/
def armsByRequest (s : Host κ) (m : Move κ) (key : Key) : Bool :=
  (s.performed? m).isSome && s.arms m key

/-- The record with which a task was added. -/
def addedAs? (past : History κ) (key : Key) : Option (TimerTask κ) :=
  ((log added? past).reverse.find? (·.1 = key)).map Prod.snd

/-- The history has a move that did something, and nothing has touched the task since. -/
def UntouchedSince (did : Host κ → Move κ → Prop) (past : History κ) (key : Key) : Prop :=
  ∃ before s m later, past = before ++ (s, m) :: later ∧ did s m ∧
    ∀ step ∈ later, step.1.touches step.2 key = false

variable {c : Config} {ok : Condition κ} {past before later : History κ} {s s' t : Host κ}
  {m n : Move κ} {key : Key} {did : Host κ → Move κ → Prop}

theorem addedAs?_concat (past : History κ) (s : Host κ) (m : Move κ) (key : Key) :
    addedAs? (past ++ [(s, m)]) key
      = (((s.added? m).filter fun new => new.1 = key).map Prod.snd).or (addedAs? past key) := by
  rw [addedAs?, log_concat]
  cases h : s.added? m with
  | none => simp [addedAs?]
  | some new => by_cases hnew : new.1 = key <;> simp [addedAs?, hnew, Option.filter]

theorem mem_of_addedAs? {new : TimerTask κ} (h : addedAs? past key = some new) :
    (key, new) ∈ log added? past := by
  obtain ⟨⟨key', new'⟩, hfind, rfl⟩ := Option.map_eq_some_iff.mp h
  obtain rfl : key' = key := by simpa using List.find?_some hfind
  exact List.mem_reverse.mp (List.mem_of_find?_eq_some hfind)

theorem untouchedSince_concat_self (h : did s m) : UntouchedSince did (past ++ [(s, m)]) key :=
  ⟨past, s, m, [], rfl, h, by simp⟩

theorem UntouchedSince.concat (h : UntouchedSince did past key) (hm : s.touches m key = false) :
    UntouchedSince did (past ++ [(s, m)]) key := by
  obtain ⟨before, s₀, m₀, later, rfl, hdid, hlater⟩ := h
  refine ⟨before, s₀, m₀, later ++ [(s, m)], by simp, hdid, fun step hstep => ?_⟩
  rcases List.mem_append.mp hstep with hstep | hstep
  · exact hlater step hstep
  · rw [List.mem_singleton.mp hstep]
    exact hm

/-- If the task was touched lately, the move that did something came later. -/
theorem UntouchedSince.exists_mem (h : UntouchedSince did (before ++ later) key)
    (htouched : ∃ step ∈ later, step.1.touches step.2 key = true) :
    ∃ step ∈ later, did step.1 step.2 := by
  obtain ⟨front, s, m, rest, hsplit, hdid, hrest⟩ := h
  obtain ⟨step, hstep, htouches⟩ := htouched
  have huntouched : step ∉ rest := fun hmem => by simp [hrest step hmem] at htouches
  obtain ⟨between, -, hlater⟩ | ⟨between, -, hlater⟩ := List.append_eq_append_iff.mp hsplit
  · exact ⟨(s, m), by simp [hlater], hdid⟩
  · rcases between with _ | ⟨first, between⟩
    · rw [List.nil_append] at hlater
      exact ⟨(s, m), hlater ▸ List.mem_cons_self, hdid⟩
    · rw [List.cons_append, List.cons.injEq] at hlater
      exact absurd (hlater.2 ▸ List.mem_append_right _ hstep) huntouched

theorem addedAs?_of_suffix (hlater : later <:+ past) {new : TimerTask κ}
    (h : addedAs? later key = some new) : addedAs? past key = some new := by
  obtain ⟨entry, hfind, hnew⟩ := Option.map_eq_some_iff.mp h
  rw [addedAs?, find?_reverse_log_of_suffix hlater hfind, Option.map_some, hnew]

theorem arms_iff : s.arms m key = true ↔ ∃ a, s.arming? m = some a ∧ a.key = key := by
  simp [arms, Option.any_eq_true]

/-- A task that is put back was about to be. -/
theorem repeating_of_arms (hperformed : s.performed? m = none) (h : s.arms m key = true) :
    ∃ task, s.scheduler.state.timers.get? key = some task ∧ task.phase = .running ∧
      task.rearm = true := by
  obtain ⟨a, harming, rfl⟩ := arms_iff.mp h
  unfold arming? at harming
  split at harming
  · next hsome =>
    rw [hperformed] at hsome
    cases hsome
  · next events key callback after readAt _ _ =>
    obtain ⟨hkey, -⟩ := State.of_putBack? harming
    rw [hkey]
    unfold State.putBack? at harming
    split at harming
    · cases harming
    · next task hget =>
      split at harming
      · next hback => exact ⟨task, hget, hback.2⟩
      · cases harming
  · cases harming

/-! ### What is known of a task -/

/-- **A task that is queued** was armed, and not touched since. -/
theorem Run.armed (h : Run c ok past s) (hqueued : s.scheduler.state.isTimerQueued key = true) :
    UntouchedSince (fun s m => s.arms m key = true) past key := by
  revert hqueued
  refine h.induct (I := fun past s => s.scheduler.state.isTimerQueued key = true →
    UntouchedSince (fun s m => s.arms m key = true) past key) (fun id time hqueued => ?_)
    fun hwf hI hstep _ hqueued => ?_
  · simp [State.isTimerQueued, create, Scheduler.create, State.ofConfig, Arena.get?] at hqueued
  · rcases step_queued hwf hstep hqueued with harming | ⟨hbefore, huntouched⟩
    · exact untouchedSince_concat_self (arms_iff.mpr harming)
    · exact (hI hbefore).concat huntouched

/-- **A task that will be put back** repeats, was fired, and was not touched since. -/
theorem Run.repeating (h : Run c ok past s) {task : TimerTask κ}
    (hget : s.scheduler.state.timers.get? key = some task) (hphase : task.phase = .running)
    (hrearm : task.rearm = true) :
    task.autoRepeat = true ∧ UntouchedSince (fun s m => s.fires m key = true) past key := by
  revert hget
  refine h.induct (I := fun past s => s.scheduler.state.timers.get? key = some task →
    task.autoRepeat = true ∧ UntouchedSince (fun s m => s.fires m key = true) past key)
    (fun id time hget => ?_) fun hwf hI hstep _ hget => ?_
  · simp [create, Scheduler.create, State.ofConfig, Arena.get?] at hget
  · rcases step_repeating hwf hstep hget hphase hrearm with
      ⟨hfires, hrepeats⟩ | ⟨hbefore, huntouched⟩
    · exact ⟨hrepeats, untouchedSince_concat_self hfires⟩
    · exact (hI hbefore).imp_right fun hfired => hfired.concat huntouched

/-- A task repeats if it was added so. -/
theorem Run.addedAs?_eq (h : Run c ok past s) {task : TimerTask κ}
    (hget : s.scheduler.state.timers.get? key = some task) :
    ∃ new, addedAs? past key = some new ∧ new.autoRepeat = task.autoRepeat := by
  refine h.induct (I := fun past s => ∀ task, s.scheduler.state.timers.get? key = some task →
    ∃ new, addedAs? past key = some new ∧ new.autoRepeat = task.autoRepeat)
    (fun id time task hget => ?_) (fun hwf hI hstep _ task hget => ?_) task hget
  · simp [create, Scheduler.create, State.ofConfig, Arena.get?] at hget
  · rw [addedAs?_concat]
    rcases step_autoRepeat hwf hstep hget with ⟨new, hnew, heq⟩ | ⟨hnone, old, hold, heq⟩
    · exact ⟨new, by simp [hnew, Option.filter], heq⟩
    · obtain ⟨new, hnew, heq'⟩ := hI old hold
      refine ⟨new, ?_, heq'.trans heq⟩
      have hother : (added? _ _).filter (fun new => new.1 = key) = none :=
        Option.filter_eq_none_iff.mpr fun added hadded hkey =>
          hnone added.2 (by rw [hadded, ← of_decide_eq_true hkey])
      rw [hother, Option.map_none, Option.none_or, hnew]

/-- **A task that is put back** was added as one that repeats, and nothing has touched it since the
firing that the put-back follows. -/
theorem Run.putBack (h : Run c ok past s) (hperformed : s.performed? m = none)
    (harms : s.arms m key = true) :
    (∃ new, addedAs? past key = some new ∧ new.autoRepeat = true) ∧
      UntouchedSince (fun s m => s.fires m key = true) past key := by
  obtain ⟨task, hget, hphase, hrearm⟩ := repeating_of_arms hperformed harms
  obtain ⟨hrepeats, hfired⟩ := h.repeating hget hphase hrearm
  obtain ⟨new, hnew, heq⟩ := h.addedAs?_eq hget
  exact ⟨⟨new, hnew, heq.trans hrepeats⟩, hfired⟩

/-! ### Counting -/

/-- How often a task was fired. -/
def firings (past : History κ) (key : Key) : Nat :=
  past.countP fun step => step.1.fires step.2 key

/-- How often a task was armed by a request. -/
def requestedArmings (past : History κ) (key : Key) : Nat :=
  past.countP fun step => step.1.armsByRequest step.2 key

@[simp]
theorem firings_concat (past : History κ) (s : Host κ) (m : Move κ) (key : Key) :
    firings (past ++ [(s, m)]) key = firings past key + if s.fires m key then 1 else 0 := by
  simp [firings, List.countP_append, List.countP_singleton]

@[simp]
theorem requestedArmings_concat (past : History κ) (s : Host κ) (m : Move κ) (key : Key) :
    requestedArmings (past ++ [(s, m)]) key
      = requestedArmings past key + if s.armsByRequest m key then 1 else 0 := by
  simp [requestedArmings, List.countP_append, List.countP_singleton]

/-- A task that fires is not queued any more. -/
theorem not_isTimerQueued_of_fires (h : s.step m = some s') (hfires : s.fires m key = true) :
    s'.scheduler.state.isTimerQueued key = false := by
  obtain ⟨task, hget, hphase⟩ := State.isTimerRunning_iff.mp (isTimerRunning_of_fires h hfires)
  simp [State.isTimerQueued, hget, hphase]

/-- **A task that does not repeat fires no more often than requests arm it**; one that is queued has
a firing in store. -/
theorem Run.firings_le (h : Run c ok past s) (htraceable : TraceableKey ok past key)
    (honce : ∀ new, (key, new) ∈ log added? past → new.autoRepeat = false) :
    firings past key + (if s.scheduler.state.isTimerQueued key then 1 else 0)
      ≤ requestedArmings past key := by
  revert htraceable honce
  refine h.inductAlong (I := fun past s => TraceableKey ok past key →
    (∀ new, (key, new) ∈ log added? past → new.autoRepeat = false) →
      firings past key + (if s.scheduler.state.isTimerQueued key then 1 else 0)
        ≤ requestedArmings past key) (fun id time _ _ => ?_) ?_
  · simp [firings, State.isTimerQueued, create, Scheduler.create, State.ofConfig, Arena.get?]
  intro past s m s' hrun hI hstep hok htraceable honce
  have hbefore := htraceable.of_concat
  rw [log_concat] at honce
  have hle := hI hbefore fun new hnew => honce new (List.mem_append_left _ hnew)
  rw [firings_concat, requestedArmings_concat]
  cases hfires : s.fires m key with
  | true =>
    rw [if_pos (isTimerQueued_of_fires hrun hbefore hfires)] at hle
    simp [not_isTimerQueued_of_fires hstep hfires]
    omega
  | false =>
    cases hqueued : s'.scheduler.state.isTimerQueued key with
    | false =>
      simp
      omega
    | true =>
      rcases step_queued hrun.wellFormed hstep hqueued with harming | ⟨hwaits, -⟩
      · have harms := arms_iff.mpr harming
        have hrequest : s.armsByRequest m key = true := by
          cases hperformed : s.performed? m with
          | some request => simp [armsByRequest, hperformed, harms]
          | none =>
            obtain ⟨⟨new, hnew, hrepeats⟩, -⟩ := hrun.putBack hperformed harms
            rw [honce new (List.mem_append_left _ (mem_of_addedAs? hnew))] at hrepeats
            cases hrepeats
        simp [hrequest]
        omega
      · rw [if_pos hwaits] at hle
        simp
        omega

/-! ### Cancelling -/

/-- The task is not queued, and will not be put back if it is running. -/
def Dormant (s : State κ) (key : Key) : Prop :=
  s.isTimerQueued key = false ∧
    ∀ task, s.timers.get? key = some task → task.phase = .running → task.rearm = false

/-- A request that leaves a task without a countdown makes it dormant. -/
theorem dormant_of_intervened (hwf : s.WellFormed c) (h : s.step m = some s')
    (hintervened : s.intervened? m = some key) (harms : s.arms m key = false) :
    Dormant s'.scheduler.state key := by
  have htouches : s.touches m key = true := by simp [touches, hintervened]
  refine ⟨Bool.eq_false_iff.mpr fun hqueued => ?_, fun task hget hphase => ?_⟩
  · rcases step_queued hwf h hqueued with harming | ⟨-, huntouched⟩
    · simp [arms_iff.mpr harming] at harms
    · simp [htouches] at huntouched
  · refine Bool.eq_false_iff.mpr fun hrearm => ?_
    rcases step_repeating hwf h hget hphase hrearm with ⟨hfires, -⟩ | ⟨-, huntouched⟩
    · simp [intervened?, performed?_of_fires hfires] at hintervened
    · simp [htouches] at huntouched

/-- A dormant task stays so until a request arms it. -/
theorem Dormant.step (hwf : s.WellFormed c) (hdormant : Dormant s.scheduler.state key)
    (h : s.step m = some s') (hfires : s.fires m key = false)
    (hrequest : s.armsByRequest m key = false) : Dormant s'.scheduler.state key := by
  obtain ⟨hidle, hrearm⟩ := hdormant
  refine ⟨Bool.eq_false_iff.mpr fun hqueued => ?_, fun task hget hphase => ?_⟩
  · rcases step_queued hwf h hqueued with harming | ⟨hbefore, -⟩
    · have harms := arms_iff.mpr harming
      have hperformed : s.performed? m = none := by
        simpa [armsByRequest, harms] using hrequest
      obtain ⟨task, hget, hphase, htrue⟩ := repeating_of_arms hperformed harms
      simp [hrearm task hget hphase] at htrue
    · simp [hidle] at hbefore
  · refine Bool.eq_false_iff.mpr fun htrue => ?_
    rcases step_repeating hwf h hget hphase htrue with ⟨hfired, -⟩ | ⟨hbefore, -⟩
    · simp [hfires] at hfired
    · simp [hrearm task hbefore hphase] at htrue

/-- **A task that a request has left without a countdown does not fire** until a request arms it. -/
theorem Run.dormant (h : Run c ok (before ++ (t, n) :: later) s)
    (hintervened : t.intervened? n = some key) (harms : t.arms n key = false)
    (hlater : ∀ step ∈ later, step.1.armsByRequest step.2 key = false)
    (htraceable : TraceableKey ok (before ++ (t, n) :: later) key) :
    Dormant s.scheduler.state key ∧ ∀ step ∈ later, step.1.fires step.2 key = false := by
  induction later using List.reverseRecOn generalizing s with
  | nil =>
    obtain ⟨hrun, hstep, -⟩ := h.of_concat
    exact ⟨dormant_of_intervened hrun.wellFormed hstep hintervened harms, by simp⟩
  | append_singleton later step ih =>
    obtain ⟨u, m⟩ := step
    rw [← List.cons_append, ← List.append_assoc] at h htraceable
    obtain ⟨hrun, hstep, -⟩ := h.of_concat
    have hbefore := htraceable.of_concat
    obtain ⟨hdormant, hsilent⟩ := ih hrun (fun step hmem =>
      hlater step (List.mem_append_left _ hmem)) hbefore
    have hfires : u.fires m key = false := Bool.eq_false_iff.mpr fun hfires => by
      have hqueued := isTimerQueued_of_fires hrun hbefore hfires
      rw [hdormant.1] at hqueued
      cases hqueued
    have hrequest := hlater (u, m) (by simp)
    refine ⟨hdormant.step hrun.wellFormed hstep hfires hrequest, fun step hmem => ?_⟩
    rcases List.mem_append.mp hmem with hmem | hmem
    · exact hsilent step hmem
    · rw [List.mem_singleton.mp hmem]
      exact hfires

/-! ### Why timers fire -/

/-- **Every firing is justified** by an arming of its own that was not cancelled, on any run, with
passes within passes and requests from callbacks and other contexts.

* A task that fires was armed before, and nothing has touched it since: it has neither been fired,
  rescheduled, taken off the queue, rearmed nor released.
* A task is put back only if it was added as one that repeats, and nothing has touched it since the
  firing that the put-back follows.
* Hence a task that does not repeat fires no more often than requests arm it.
* And a task for which a request was carried out that leaves it without a countdown, be it from its
  own callback, does not fire before a request arms it again.

A firing need not call the callback, which may be out. And a key stands for a task until its slot
has been freed `2 ^ 32` times: then keys come round again, and with them the countdowns that have
been left behind, if there are any. -/
theorem firings_justified (h : Run c ok past s) (key : Key) :
    (∀ m, s.fires m key = true → TraceableKey ok past key →
      UntouchedSince (fun t n => t.arms n key = true) past key) ∧
    (∀ m, s.performed? m = none → s.arms m key = true →
      (∃ new, addedAs? past key = some new ∧ new.autoRepeat = true) ∧
        UntouchedSince (fun t n => t.fires n key = true) past key) ∧
    (TraceableKey ok past key →
      (∀ new, (key, new) ∈ log added? past → new.autoRepeat = false) →
        firings past key ≤ requestedArmings past key) ∧
    (∀ before t n later, past = before ++ (t, n) :: later →
      TraceableKey ok past key → t.intervened? n = some key →
        t.arms n key = false → (∀ step ∈ later, step.1.armsByRequest step.2 key = false) →
          ∀ step ∈ later, step.1.fires step.2 key = false) := by
  refine ⟨fun m hfires htraceable => h.armed (isTimerQueued_of_fires h htraceable hfires),
    fun m hperformed harms => h.putBack hperformed harms, fun htraceable honce => ?_, ?_⟩
  · exact Nat.le_trans (Nat.le_add_right _ _) (h.firings_le htraceable honce)
  · rintro before t n later rfl htraceable hintervened harms hlater
    exact (h.dormant hintervened harms hlater htraceable).2

/-- The callback of a repeating task makes a pass of its own, which fires a task that does not
repeat. The callback of that one takes the repeating task off the queue and rearms its own. The
repeating task is not put back; the other one is about to fire for the second time. -/
theorem firings_justified_within_callback :
    ∃ (past before later : History Nat) (s t : Host Nat), Run {} (fun _ _ _ _ => True) past s ∧
      s.fires .resume ⟨1, 0⟩ = true ∧ past = before ++ (t, .perform 0) :: later ∧
      t.intervened? (.perform 0) = some ⟨0, 0⟩ ∧
      UntouchedSince (fun t n => t.arms n ⟨1, 0⟩ = true) past ⟨1, 0⟩ ∧
      firings past ⟨1, 0⟩ ≤ requestedArmings past ⟨1, 0⟩ ∧
      ∀ step ∈ later, step.1.fires step.2 ⟨0, 0⟩ = false := by
  obtain ⟨past, s, t, hrun, hlength, hfires, honce, hmove, hintervened, harms, hlater⟩ :
      ∃ (past : History Nat) (s t : Host Nat), Run {} (fun _ _ _ _ => True) past s ∧
        past.length = 27 ∧ s.fires .resume ⟨1, 0⟩ = true ∧
        ((log added? past).all fun new => new.1 = ⟨0, 0⟩ || !new.2.autoRepeat) = true ∧
        past[13]? = some (t, .perform 0) ∧
        t.intervened? (.perform 0) = some ⟨0, 0⟩ ∧ t.arms (.perform 0) ⟨0, 0⟩ = false ∧
        ((past.drop 14).all fun step => !step.1.armsByRequest step.2 ⟨0, 0⟩) = true :=
    ⟨_, _, _, Run.of_play ⟨0⟩ 0
      [.ask (.addTimer 10 (.after 0) true), .perform 0, .ask (.addTimer 20 (.after 0) false),
       .perform 0, .enter, .resume, .resume, .resume, .enter, .resume, .resume, .resume,
       .ask (.removeTimer ⟨⟨0⟩, ⟨0, 0⟩⟩), .perform 0, .ask (.rearm ⟨⟨0⟩, ⟨1, 0⟩⟩), .perform 0,
       .resume, .resume, .resume, .resume, .resume, .resume, .resume, .resume, .enter, .resume,
       .resume] rfl, rfl, rfl, rfl, rfl, rfl, rfl, rfl⟩
  have hfew (key : Key) : TraceableKey (fun _ _ _ _ => True) past key :=
    .inl (Nat.lt_of_le_of_lt (releases_le_length past key.index) (by rw [hlength]; decide))
  have hsplit : past = past.take 13 ++ (t, .perform 0) :: past.drop 14 := by
    obtain ⟨hlt, hget⟩ := List.getElem?_eq_some_iff.mp hmove
    rw [← hget, ← List.drop_eq_getElem_cons hlt, List.take_append_drop]
  obtain ⟨-, -, -, hdormant⟩ := firings_justified hrun ⟨0, 0⟩
  obtain ⟨hjustified, -, hcount, -⟩ := firings_justified hrun ⟨1, 0⟩
  refine ⟨past, past.take 13, past.drop 14, s, t, hrun, hfires, hsplit, hintervened,
    hjustified .resume hfires (hfew _), hcount (hfew _) fun new hnew => ?_,
    hdormant _ t (.perform 0) _ hsplit (hfew _) hintervened harms fun step hstep => ?_⟩
  · simpa using List.all_eq_true.mp honce _ hnew
  · simpa using List.all_eq_true.mp hlater step hstep

/-- **Where firings and put-backs lack their reason.**

* A task that was added with the period `never` and has not been armed since fires. It has got the
  key of a countdown that was left behind, as its slot was freed `2 ^ 32` times.
* A repeating task is put back, although it was rescheduled since its callback was called: the
  put-back follows a firing at which the callback was out. -/
theorem fires_unjustified :
    (∃ (past : History Nat) (s : Host Nat) (new : TimerTask Nat),
      Run {} (fun _ _ _ _ => True) past s ∧ releases past 0 = UInt32.size ∧
      s.fires .resume ⟨0, 0⟩ = true ∧ addedAs? past ⟨0, 0⟩ = some new ∧ new.period = .never ∧
      ¬UntouchedSince (fun t n => t.arms n ⟨0, 0⟩ = true) past ⟨0, 0⟩) ∧
    ∃ (past : History Nat) (s : Host Nat), Run {} (fun _ _ _ _ => True) past s ∧
      s.performed? .resume = none ∧ s.arms .resume ⟨0, 0⟩ = true ∧
      ¬UntouchedSince (fun t n => t.timerCalled? n = some (⟨0, 0⟩, 10)) past ⟨0, 0⟩ := by
  constructor
  · obtain ⟨past, hbegin, hreleases⟩ := exists_run_leftBehind
    obtain ⟨later, s, new, hpath, hnone, hfires, hadded, hnever, htouched, hunarmed⟩ :
        ∃ (later : History Nat) (s : Host Nat) (new : TimerTask Nat),
          Path (fun _ _ _ _ => True) past (emptied [⟨⟨0, 0⟩, .ofTime 0, 1000⟩] [] 0) later s ∧
          releases later 0 = 0 ∧ s.fires .resume ⟨0, 0⟩ = true ∧
          addedAs? later ⟨0, 0⟩ = some new ∧ new.period = .never ∧
          (later.any fun step => step.1.touches step.2 ⟨0, 0⟩) = true ∧
          (later.all fun step => !step.1.arms step.2 ⟨0, 0⟩) = true :=
      ⟨_, _, _, Path.of_play
        [.ask (.addTimer 20 .never false), .perform 0, .elapse 1000, .enter, .resume, .resume] rfl,
        rfl, rfl, rfl, rfl, rfl, rfl⟩
    refine ⟨past ++ later, s, new, hbegin.append hpath, by rw [releases_append, hreleases, hnone],
      hfires, addedAs?_of_suffix (List.suffix_append ..) hadded, hnever, fun huntouched => ?_⟩
    obtain ⟨step, hstep, harms⟩ := huntouched.exists_mem (List.any_eq_true.mp htouched)
    have hnot := List.all_eq_true.mp hunarmed step hstep
    simp [harms] at hnot
  · obtain ⟨past, s, hrun, hperformed, harms, htouched, huncalled⟩ :
        ∃ (past : History Nat) (s : Host Nat), Run {} (fun _ _ _ _ => True) past s ∧
          s.performed? .resume = none ∧ s.arms .resume ⟨0, 0⟩ = true ∧
          ((past.drop 7).any fun step => step.1.touches step.2 ⟨0, 0⟩) = true ∧
          ((past.drop 7).all fun step => step.1.timerCalled? step.2 ≠ some (⟨0, 0⟩, 10)) = true :=
      ⟨_, _, Run.of_play ⟨0⟩ 0
        [.ask (.addTimer 10 (.after 10) true), .perform 0, .elapse 10, .enter, .resume, .resume,
         .resume, .ask (.reschedule ⟨⟨0⟩, ⟨0, 0⟩⟩ (.after 10)), .perform 0, .elapse 10, .enter,
         .resume, .resume, .resume, .resume, .resume] rfl, rfl, rfl, rfl, rfl⟩
    refine ⟨past, s, hrun, hperformed, harms, fun huntouched => ?_⟩
    rw [← List.take_append_drop 7 past] at huntouched
    obtain ⟨step, hstep, hcalled⟩ := huntouched.exists_mem (List.any_eq_true.mp htouched)
    have hnot := List.all_eq_true.mp huncalled step hstep
    simp [hcalled] at hnot

end Host

end CoopScheduler
