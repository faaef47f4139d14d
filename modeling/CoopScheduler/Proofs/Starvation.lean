import CoopScheduler.Proofs.Interleaved
import CoopScheduler.Proofs.Order
import CoopScheduler.Proofs.Passes
import CoopScheduler.Proofs.TimerSteps

/-!
# No starvation

A timer that is overdue is not held up by others, however short their periods are and however
often they start over: a countdown that begins when the deadline of another one is reached is due no
earlier, and goes behind it.

* A run is **prompt** if it is orderly and no time goes by between a clock reading and its critical
  section (`Host.Prompt`). All readings that are open are of the present then
  (`Host.Run.upToDate`).
* `Host.Behind` is an overdue countdown with the ones **ahead** of it. A step puts none there, and
  one that fires another task takes one away (`Host.Behind.step`).
* `Host.never_starved`: hence a task with `k` countdowns ahead of it is among the next `k + 1` that
  are fired, and until then no pass parks.
-/

namespace CoopScheduler

variable {κ : Type}

/-! ### Places in the queue -/

/-- A countdown goes behind all that are in front and due no later. -/
theorem TimerQueue.insert_append {front : List Countdown} {c : Countdown}
    (h : ∀ q ∈ front, q.dueNoLaterThan c.deadline = true) (behind : List Countdown) :
    (insert ⟨front ++ behind⟩ c).entries = front ++ (insert ⟨behind⟩ c).entries := by
  simp only [insert]
  rw [List.takeWhile_append_of_pos h, List.dropWhile_append_of_pos h, List.append_assoc]

namespace State

variable {s : State κ} {u : Countdown} {ahead behind : List Countdown}

/-- To end another countdown leaves fewer ahead or behind. -/
theorem without_entries {ended? : Option Key}
    (hentries : s.timerQueue.entries = ahead ++ u :: behind) (hne : ended? ≠ some u.key) :
    ∃ ahead' behind', (s.without ended?).entries = ahead' ++ u :: behind' ∧
      ahead'.Sublist ahead := by
  cases ended? with
  | none => exact ⟨ahead, behind, hentries, .refl _⟩
  | some key =>
    rw [without]
    split
    · have hu : ¬u.key = key := fun heq => hne (congrArg some heq.symm)
      rw [TimerQueue.erase, hentries, List.eraseP_append]
      split
      · exact ⟨_, behind, rfl, List.eraseP_sublist⟩
      · exact ⟨ahead, _, by rw [List.eraseP_cons_of_neg (by simpa using hu)], .refl _⟩
    · exact ⟨ahead, behind, hentries, .refl _⟩

/-- A countdown that is started when others have been due stays behind them. -/
theorem revisedQueue_entries {ended? : Option Key} {started? : Option Arming}
    (hentries : s.timerQueue.entries = ahead ++ u :: behind) (hne : ended? ≠ some u.key)
    (hstarted : ∀ b, started? = some b →
      ∀ q ∈ ahead ++ [u], q.dueNoLaterThan b.countdown.deadline = true) :
    ∃ ahead' behind', (s.revisedQueue ended? started?).entries = ahead' ++ u :: behind' ∧
      ahead'.Sublist ahead := by
  obtain ⟨ahead', behind', hwithout, hsub⟩ := without_entries hentries hne
  cases started? with
  | none => exact ⟨ahead', behind', hwithout, hsub⟩
  | some b =>
    refine ⟨ahead', (TimerQueue.insert ⟨behind'⟩ b.countdown).entries, ?_, hsub⟩
    have hqueue : s.without ended? = ⟨(ahead' ++ [u]) ++ behind'⟩ := by
      rw [List.append_assoc, List.singleton_append, ← hwithout]
    rw [revisedQueue, hqueue, TimerQueue.insert_append fun q hq => ?_, List.append_assoc,
      List.singleton_append]
    exact hstarted b rfl q ((hsub.append_right [u]).subset hq)

/-- **A decision in view of a countdown that is over**, whose task exists, and of others ahead that
are over as well: if no event is pending, it fires the task or one ahead. -/
theorem evaluate_of_over {now : Tick} (hentries : s.timerQueue.entries = ahead ++ u :: behind)
    (hlive : (s.timers.get? u.key).isSome = true)
    (hover : ∀ q ∈ ahead ++ [u], q.remaining now = 0) (hidle : s.eventQueue.pending = [])
    (c : Config) :
    ∃ q callback, (s.evaluate c now).1 = .fire q.key callback ∧
      (q = u ∨ ∃ skipped ahead', ahead = skipped ++ q :: ahead' ∧
        (s.evaluate c now).2.timerQueue.entries = ahead' ++ u :: behind) := by
  rw [evaluate_of_idle hidle]
  obtain ⟨skipped, rest, hsplit, hgone, hpop⟩ := s.popTimer_skipped now
  have hskipped : u ∉ skipped := fun hmem => by simp [hgone u hmem] at hlive
  -- What is passed over are countdowns ahead, as the task of this one exists.
  obtain ⟨front, hahead, hrest⟩ :
      ∃ front, ahead = skipped ++ front ∧ rest = front ++ u :: behind := by
    rw [hentries] at hsplit
    rcases List.append_eq_append_iff.mp hsplit with ⟨more, hmore, heq⟩ | ⟨front, hfront, heq⟩
    · cases more with
      | nil => exact ⟨[], by simpa using hmore.symm, heq.symm⟩
      | cons first more =>
        obtain ⟨rfl, -⟩ := List.cons.inj heq
        exact absurd (by simp [hmore]) hskipped
    · exact ⟨front, hfront, heq⟩
  have hfirst : ∃ q others, rest = q :: others ∧ q ∈ ahead ++ [u] := by
    cases front with
    | nil => exact ⟨u, behind, hrest, by simp⟩
    | cons q front => exact ⟨q, front ++ u :: behind, hrest, by simp [hahead]⟩
  obtain ⟨q, others, rfl, hq⟩ := hfirst
  obtain ⟨hleft, -⟩ | ⟨head, behind', task, hhead, -, hget, heq⟩ := hpop
  · have hpos := hleft q rfl
    rw [hover q hq] at hpos
    exact absurd hpos (by decide)
  · rw [heq]
    obtain ⟨rfl, rfl⟩ := List.cons.inj hhead
    refine ⟨q, task.callback, rfl, ?_⟩
    cases front with
    | nil => exact .inl (List.cons.inj hrest).1
    | cons first front =>
      obtain ⟨rfl, rfl⟩ := List.cons.inj hrest
      exact .inr ⟨skipped, front, hahead, rfl⟩

end State

/-- A request that ends the countdown of a task is about this task. -/
theorem Scheduler.intervened?_of_disarmed? {s : Scheduler κ} {op : Operation κ} {key : Key}
    (h : s.disarmed? op = some key) (hlive : (s.state.timers.get? key).isSome = true) :
    s.intervened? op = some key := by
  cases op with
  | reschedule handle _ | removeTimer handle | releaseTimer handle =>
    simp only [disarmed?] at h
    split at h
    · next howns =>
      cases h
      exact if_pos ⟨howns, hlive⟩
    · cases h
  | _ => cases h

namespace Host

/-! ### Prompt runs -/

/-- What a step has to respect for readings to be used promptly. -/
structure Prompt (past : History κ) (s : Host κ) (m : Move κ) (s' : Host κ) : Prop
    extends Orderly past s m s' where
  /-- No time goes by while a reading waits for its critical section. -/
  fresh : ∀ r ∈ s'.openReadings, r = s'.time

instance (past : History κ) (s : Host κ) (m : Move κ) (s' : Host κ) :
    Decidable (Prompt past s m s') :=
  decidable_of_iff (Orderly past s m s' ∧ ∀ r ∈ s'.openReadings, r = s'.time)
    ⟨fun ⟨h₁, h₂⟩ => ⟨h₁, h₂⟩, fun ⟨h₁, h₂⟩ => ⟨h₁, h₂⟩⟩

/-- The timer queue is in order, and the readings that are open are of the present and within reach
of all its countdowns. -/
structure UpToDate (past : History κ) (s : Host κ) (l : List Arming) : Prop
    extends Ordered past s l where
  fresh : ∀ r ∈ s.openReadings, r = s.time
  reach : ∀ r ∈ s.openReadings, Timeline.Window l r

variable {c : Config} {past later : History κ} {s s' : Host κ} {m : Move κ} {l : List Arming}
  {a : Arming} {ahead : List Countdown}

/-- A prompt step keeps up to date. -/
theorem UpToDate.step (hwf : s.WellFormed c) (hI : UpToDate past s l) (h : s.step m = some s')
    (hok : Prompt past s m s') : ∃ l', UpToDate (past ++ [(s, m)]) s' l' := by
  obtain ⟨l', hmem, hordered⟩ := hI.toOrdered.step hwf h hok.toOrderly
  refine ⟨l', hordered, hok.fresh, fun r hr => ?_⟩
  have hnow := hok.fresh r hr
  have hbefore := readings_step id hwf h hr
  refine ⟨fun b hb => hnow ▸ hordered.since_le b hb, fun b hb => ?_, hordered.short⟩
  rcases hmem b hb with hb | harming
  · rcases hbefore with hopen | ⟨rfl, hreads⟩
    · exact (hI.reach r hopen).age_le b hb
    · refine hok.age_le hreads b.countdown ?_ b (hI.stems b hb)
      rw [hI.entries_eq]
      exact List.mem_map_of_mem hb
  · -- A countdown that begins does so now.
    have hsince := hI.fresh _ (s.registeringReadings_subset (of_arming? harming).1)
    have hr : r = s.time := hbefore.elim (hI.fresh r) And.left
    rw [hsince, hr]
    exact Nat.le_add_right _ _

theorem Run.upToDate (h : Run c Prompt past s) : ∃ l, UpToDate past s l := by
  refine h.induct (I := fun past s => ∃ l, UpToDate past s l) (fun id time => ?_) ?_
  · have hopen : openReadings (create id c time : Host κ) = [] := rfl
    refine ⟨[], ⟨rfl, .nil, by simp, by simp, by simp, ?_⟩, by simp [hopen], by simp [hopen]⟩
    simp [registeringReadings, readings, create]
  · rintro past s m s' hwf ⟨l, hI⟩ hstep hok
    exact hI.step hwf hstep hok

/-! ### An overdue countdown -/

/-- The countdown of the arming `a`, which is over, is in the queue behind the ones `ahead`, and its
task waits and is not released. -/
structure Behind (past : History κ) (s : Host κ) (a : Arming) (ahead : List Countdown) : Prop where
  exists_behind : ∃ behind,
    s.scheduler.state.timerQueue.entries = ahead ++ a.countdown :: behind
  stems : armingOf? past a.countdown = some a
  exists_task : ∃ task, s.scheduler.state.timers.get? a.key = some task ∧
    task.phase = .queued ∧ task.released = false
  due_le : a.due ≤ s.time

theorem Behind.isTimerQueued (h : Behind past s a ahead) :
    s.scheduler.state.isTimerQueued a.key = true := by
  obtain ⟨task, hget, hphase, -⟩ := h.exists_task
  exact State.isTimerQueued_iff.mpr ⟨task, hget, hphase⟩

/-- It is overdue together with all countdowns ahead of it. -/
theorem Behind.due_le_of_mem (h : Behind past s a ahead) (hl : Ordered past s l) {q : Countdown}
    (hq : q ∈ ahead ++ [a.countdown]) : ∃ b ∈ l, b.countdown = q ∧ b.due ≤ a.due := by
  obtain ⟨behind, hentries⟩ := h.exists_behind
  rw [hl.entries_eq] at hentries
  obtain ⟨front, back, rfl, rfl, hback⟩ := List.map_eq_append_iff.mp hentries
  obtain ⟨b, back, rfl, hb, -⟩ := List.map_eq_cons_iff.mp hback
  -- It is the only arming in the queue with this countdown.
  obtain rfl : b = a := by
    have hstems := hl.stems b (by simp)
    rw [hb, h.stems] at hstems
    exact (Option.some.inj hstems).symm
  rcases List.mem_append.mp hq with hq | hq
  · obtain ⟨q, hmem, rfl⟩ := List.mem_map.mp hq
    refine ⟨q, List.mem_append_left _ hmem, rfl, ?_⟩
    exact (List.pairwise_append.mp hl.sorted).2.2 q hmem b List.mem_cons_self
  · exact ⟨b, by simp, (List.mem_singleton.mp hq).symm, Nat.le_refl _⟩

/-- A countdown that begins now is due no earlier. -/
theorem Behind.dueNoLaterThan (h : Behind past s a ahead) (hl : UpToDate past s l) {b : Arming}
    (harming : s.arming? m = some b) (hshort : b.period ≤ Countdown.halfRange) {q : Countdown}
    (hq : q ∈ ahead ++ [a.countdown]) : q.dueNoLaterThan b.countdown.deadline = true := by
  obtain ⟨q, hmem, rfl, hle⟩ := h.due_le_of_mem hl.toOrdered hq
  have hopen := s.registeringReadings_subset (of_arming? harming).1
  have hnow := hl.fresh _ hopen
  refine ((hl.reach _ hopen).dueNoLaterThan_iff hshort hmem).mpr ?_
  calc q.due ≤ a.due := hle
    _ ≤ s.time := h.due_le
    _ = b.since := hnow.symm
    _ ≤ b.due := b.since_le_due

/-- Nothing is left of it at a reading of the present. -/
theorem Behind.remaining_eq_zero (h : Behind past s a ahead) (hl : UpToDate past s l) {r : Nat}
    (hopen : r ∈ s.openReadings) {q : Countdown} (hq : q ∈ ahead ++ [a.countdown]) :
    q.remaining (.ofTime r) = 0 := by
  obtain ⟨q, hmem, rfl, hle⟩ := h.due_le_of_mem hl.toOrdered hq
  refine Arming.remaining_eq_zero ?_ (.inr ((hl.reach r hopen).age_le q hmem))
  rw [hl.fresh r hopen]
  exact Nat.le_trans hle h.due_le

/-- **No pass parks** now: one that finds no event pending fires the task, or one ahead. -/
theorem Behind.evaluate (h : Behind past s a ahead) (hwf : s.WellFormed c)
    (hl : UpToDate past s l) {events readAt : Nat} {now : Tick} {rest : List (Frame κ)}
    (hpasses : s.passes = .ready (.evaluate events now) readAt :: rest)
    (hidle : s.scheduler.state.eventQueue.pending = []) :
    ∃ q callback, (s.scheduler.state.evaluate c now).1 = .fire q.key callback ∧
      (q = a.countdown ∨ ∃ skipped ahead', ahead = skipped ++ q :: ahead' ∧
        ∃ behind, (s.scheduler.state.evaluate c now).2.timerQueue.entries
          = ahead' ++ a.countdown :: behind) := by
  obtain ⟨rfl, -⟩ := hwf.evaluate_now hpasses
  obtain ⟨behind, hentries⟩ := h.exists_behind
  obtain ⟨task, hget, -⟩ := h.exists_task
  have hopen : readAt ∈ s.openReadings :=
    mem_readings.mpr (.inr ⟨_, hpasses ▸ List.mem_cons_self, rfl⟩)
  obtain ⟨q, callback, hfire, hwhich⟩ := State.evaluate_of_over hentries
    (by rw [Arming.countdown_key, hget]; rfl) (fun q hq => h.remaining_eq_zero hl hopen hq) hidle c
  refine ⟨q, callback, hfire, hwhich.imp_right ?_⟩
  rintro ⟨skipped, ahead', hahead, hafter⟩
  exact ⟨skipped, ahead', hahead, behind, hafter⟩

/-! ### Steps -/

/-- The countdown of a task that exists ends by a request about the task or by its firing. -/
theorem disarmed?_ne {key : Key} (hlive : (s.scheduler.state.timers.get? key).isSome = true)
    (hfired : s.firedKey? m ≠ some key) (hintervened : s.intervened? m ≠ some key) :
    s.disarmed? m ≠ some key := by
  intro hdisarmed
  unfold disarmed? at hdisarmed
  split at hdisarmed
  · next op readAt _ hperformed =>
    refine hintervened ?_
    rw [intervened?, hperformed]
    exact Scheduler.intervened?_of_disarmed? hdisarmed hlive
  · next hresumed => exact hfired ((firedKey?_of_evaluate hresumed).trans hdisarmed)
  · cases hdisarmed

/-- A firing ends the countdown of its task. -/
theorem disarmed?_of_firedKey? {key : Key} (h : s.firedKey? m = some key) :
    s.disarmed? m = some key := by
  obtain ⟨⟨fired, readAt⟩, hfired, rfl⟩ := Option.map_eq_some_iff.mp h
  obtain ⟨events, now, callback, rest, rfl, hpasses, hfire⟩ := fired?_eq_some hfired
  simp [disarmed?, performed?, resumed?, hpasses, hfire, Decision.fired?]

/-- **A task that is queued stays so** unless it is fired or a request about it intervenes. -/
theorem step_stays_queued (hwf : s.WellFormed c) (h : s.step m = some s') {key : Key}
    (hfired : s.firedKey? m ≠ some key) (hintervened : s.intervened? m ≠ some key)
    {task : TimerTask κ} (hget : s.scheduler.state.timers.get? key = some task)
    (hphase : task.phase = .queued) (hreleased : task.released = false) :
    ∃ task', s'.scheduler.state.timers.get? key = some task' ∧ task'.phase = .queued ∧
      task'.released = false := by
  have hstep := step_timer hwf h key
  have hnone {op : Operation κ} {readAt : Nat} (hperformed : s.performed? m = some (op, readAt))
      (hop : s.scheduler.intervened? op = some key) : False :=
    hintervened (by rw [intervened?, hperformed]; exact hop)
  rw [hget] at hstep
  generalize hbefore : some task = t? at hstep
  generalize s'.scheduler.state.timers.get? key = t'? at hstep
  cases hstep with
  | kept _ _ _ _ _ => exact ⟨task, hbefore.symm, hphase, hreleased⟩
  | added _ _ => cases hbefore
  | rescheduled t hperformed howns hkey =>
    exact (hnone hperformed (by simp [Scheduler.intervened?, howns, hkey, hget])).elim
  | removed t hperformed howns hkey =>
    exact (hnone hperformed (by simp [Scheduler.intervened?, howns, hkey, hget])).elim
  | rearmed t hperformed howns hkey hidle =>
    cases hbefore
    exact absurd hphase hidle
  | released t hperformed howns hkey =>
    exact (hnone hperformed (by simp [Scheduler.intervened?, howns, hkey, hget])).elim
  | fired t hfires => exact absurd (fires_iff.mp hfires) hfired
  | settled t hresumed =>
    cases hbefore
    rw [hreleased, if_neg Bool.false_ne_true]
    refine ⟨_, rfl, ?_, ?_⟩ <;> simp [TimerTask.settled, hphase, hreleased]

/-- What a step that does not fire the task does to the queue: it leaves fewer countdowns ahead, and
one less if it fires another task. -/
private theorem Behind.step_entries (hwf : s.WellFormed c) (hl : UpToDate past s l)
    (hI : Behind past s a ahead) (h : s.step m = some s') (hok : Prompt past s m s')
    (hfired : s.firedKey? m ≠ some a.key) (hdisarmed : s.disarmed? m ≠ some a.key) :
    ∃ ahead' behind, s'.scheduler.state.timerQueue.entries = ahead' ++ a.countdown :: behind ∧
      ahead'.Sublist ahead ∧ (s.firedKey? m).toList.length + ahead'.length ≤ ahead.length := by
  obtain ⟨behind, hentries⟩ := hI.exists_behind
  have hquiet {queue : TimerQueue} (hnone : s.firedKey? m = none)
      (hafter : ∃ ahead' behind', queue.entries = ahead' ++ a.countdown :: behind' ∧
        ahead'.Sublist ahead) :
      ∃ ahead' behind', queue.entries = ahead' ++ a.countdown :: behind' ∧
        ahead'.Sublist ahead ∧ (s.firedKey? m).toList.length + ahead'.length ≤ ahead.length := by
    obtain ⟨ahead', behind', hqueue, hsub⟩ := hafter
    exact ⟨ahead', behind', hqueue, hsub, by simpa [hnone] using hsub.length_le⟩
  have hlate (b : Arming) (hb : s.arming? m = some b) (q : Countdown)
      (hq : q ∈ ahead ++ [a.countdown]) : q.dueNoLaterThan b.countdown.deadline = true :=
    hI.dueNoLaterThan hl hb (hok.short b hb) hq
  rcases step_timers hwf h with ⟨op, readAt, hperformed, hresumed, heq⟩ |
    ⟨events, readAt, hperformed, hresumed, heq⟩ |
    ⟨events, key, callback, readAt, hperformed, hresumed, heq⟩ | ⟨-, hnone, hrevised⟩
  · rw [heq, (s.scheduler.perform_revised op readAt).timerQueue_eq]
    refine hquiet (by simp [firedKey?, fired?, hresumed])
      (State.revisedQueue_entries hentries ?_ fun b hb => hlate b ?_)
    · simpa [disarmed?, hperformed] using hdisarmed
    · simpa [arming?, hperformed] using hb
  · rw [heq]
    obtain ⟨-, rest, hpasses⟩ := resumed?_eq_some hresumed
    have hkey := firedKey?_of_evaluate hresumed
    rw [hwf.config_eq] at hkey
    by_cases hidle : s.scheduler.state.eventQueue.pending = []
    · obtain ⟨q, callback, hfire, hwhich⟩ := hI.evaluate hwf hl hpasses hidle
      rw [hfire, Decision.fired?] at hkey
      obtain rfl | ⟨skipped, ahead', hahead, behind', hafter⟩ := hwhich
      · exact absurd hkey hfired
      · refine ⟨ahead', behind', hafter, ?_, ?_⟩
        · rw [hahead]
          exact (List.sublist_cons_self q ahead').trans (List.sublist_append_right _ _)
        · rw [hkey, hahead, List.length_append, List.length_cons, Option.toList_some,
            List.length_singleton]
          omega
    · rw [State.evaluate_of_pending hidle] at hkey ⊢
      exact hquiet hkey ⟨ahead, behind, hentries, .refl _⟩
  · rw [heq, State.finishTimer_timerQueue]
    refine hquiet (by simp [firedKey?, fired?, hresumed])
      (State.revisedQueue_entries hentries (by simp) fun b hb => hlate b ?_)
    simpa [arming?, hperformed, hresumed] using hb
  · rw [hrevised.timerQueue_eq]
    refine hquiet (Option.eq_none_iff_forall_ne_some.mpr fun key hkey => ?_)
      ⟨ahead, behind, hentries, .refl _⟩
    rw [disarmed?_of_firedKey? hkey] at hnone
    cases hnone

/-- **A step leaves an overdue countdown where it is or nearer the front**, unless it fires the task
or carries out a request about it. -/
theorem Behind.step (hwf : s.WellFormed c) (hl : UpToDate past s l) (hI : Behind past s a ahead)
    (h : s.step m = some s') (hok : Prompt past s m s') (hfired : s.firedKey? m ≠ some a.key)
    (hintervened : s.intervened? m ≠ some a.key) :
    ∃ ahead', ahead'.Sublist ahead ∧
      (s.firedKey? m).toList.length + ahead'.length ≤ ahead.length ∧
      Behind (past ++ [(s, m)]) s' a ahead' := by
  obtain ⟨task, hget, hphase, hreleased⟩ := hI.exists_task
  have hdisarmed := disarmed?_ne (by simp [hget]) hfired hintervened
  obtain ⟨ahead', behind, hentries, hsub, hle⟩ := hI.step_entries hwf hl h hok hfired hdisarmed
  refine ⟨ahead', hsub, hle, ⟨behind, hentries⟩, ?_,
    step_stays_queued hwf h hfired hintervened hget hphase hreleased,
    Nat.le_trans hI.due_le (step_time_le h)⟩
  -- No countdown of the task begins while it is queued.
  rw [armingOf?_concat, Option.filter_eq_none_iff.mpr, Option.none_or, hI.stems]
  intro b hb heq
  have hkey : b.key = a.key := congrArg Countdown.key (by simpa using heq)
  rcases (of_arming? hb).2 with hended | hidle
  · exact hdisarmed (hkey ▸ hended)
  · rw [hkey, hI.isTimerQueued] at hidle
    cases hidle

/-- Along a prompt path without requests about it, the task of an overdue countdown is among the
next that are fired, or its countdown waits behind fewer. -/
theorem Path.behind (hrun : Run c Prompt past s) (hI : Behind past s a ahead)
    (hpath : Path Prompt past s later s')
    (hlater : ∀ step ∈ later, step.1.intervened? step.2 ≠ some a.key) :
    a.key ∈ (log firedKey? later).take (ahead.length + 1) ∨
      ∃ ahead', ahead'.Sublist ahead ∧
        (log firedKey? later).length + ahead'.length ≤ ahead.length ∧
        Behind (past ++ later) s' a ahead' := by
  induction hpath with
  | nil => exact .inr ⟨ahead, .refl _, by simp [log], by rwa [List.append_nil]⟩
  | @snoc later s' s'' m path hstep hok ih =>
    rw [log_concat]
    rcases ih fun step hstep => hlater step (List.mem_append_left _ hstep) with
      hdone | ⟨ahead', hsub, hle, hbehind⟩
    · rw [List.take_append]
      exact .inl (List.mem_append_left _ hdone)
    · by_cases hfired : s'.firedKey? m = some a.key
      · -- At most as many others were fired before as were ahead.
        refine .inl ?_
        rw [hfired, Option.toList_some, List.take_of_length_le (by simp; omega)]
        simp
      · have hrun' := hrun.append path
        obtain ⟨l, hl⟩ := hrun'.upToDate
        obtain ⟨ahead'', hsub', hle', hbehind'⟩ := hbehind.step hrun'.wellFormed hl hstep hok
          hfired (hlater (s', m) (by simp))
        refine .inr ⟨ahead'', hsub'.trans hsub, ?_, by rwa [← List.append_assoc]⟩
        rw [List.length_append]
        omega

/-! ### No starvation -/

/-- **No overdue timer is starved by others.** At some moment a task is queued behind `k` countdowns
and its deadline is reached. Along any prompt path from there without a request about it, the task
is among the first `k + 1` that are fired. Until it is, nothing is put ahead of its countdown, each
firing takes one away there, and no pass parks; and no more passes end with a firing than `k` and
those that had fired a timer before. -/
theorem never_starved (h : Run c Prompt past s) {u : Countdown} {ahead behind : List Countdown}
    {task : TimerTask κ}
    (hentries : s.scheduler.state.timerQueue.entries = ahead ++ u :: behind)
    (hget : s.scheduler.state.timers.get? u.key = some task) (hphase : task.phase = .queued)
    (hreleased : task.released = false) (ha : armingOf? past u = some a) (hdue : a.due ≤ s.time)
    (hpath : Path Prompt past s later s')
    (hlater : ∀ step ∈ later, step.1.intervened? step.2 ≠ some u.key) :
    u.key ∈ (log firedKey? later).take (ahead.length + 1) ∨
      ∃ ahead' behind', s'.scheduler.state.timerQueue.entries = ahead' ++ u :: behind' ∧
        ahead'.Sublist ahead ∧
        (log firedKey? later).length + ahead'.length ≤ ahead.length ∧
        (log reported? later).length + ahead'.length ≤ ahead.length + s.dispatching.length ∧
        ∀ events now readAt rest, s'.passes = .ready (.evaluate events now) readAt :: rest →
          (∀ wait next, (s'.scheduler.resume (.evaluate events now)).1 ≠ .park wait next) ∧
            (s'.scheduler.state.eventQueue.pending = [] →
              ∃ q ∈ ahead' ++ [u], s'.firedKey? .resume = some q.key) := by
  obtain rfl : a.countdown = u := armingOf?_eq_some ha
  have hI : Behind past s a ahead := ⟨⟨behind, hentries⟩, ha, ⟨task, hget, hphase, hreleased⟩, hdue⟩
  refine (hpath.behind h hI hlater).imp_right ?_
  rintro ⟨ahead', hsub, hle, hbehind⟩
  obtain ⟨behind', hentries'⟩ := hbehind.exists_behind
  have hreported := hpath.length_reported_le h
  refine ⟨ahead', behind', hentries', hsub, hle, by omega, ?_⟩
  intro events now readAt rest hpasses
  have hrun' := h.append hpath
  have hwf := hrun'.wellFormed
  obtain ⟨l, hl⟩ := hrun'.upToDate
  have hdecides (hidle : s'.scheduler.state.eventQueue.pending = []) :
      ∃ q ∈ ahead' ++ [a.countdown], ∃ callback,
        (s'.scheduler.state.evaluate c now).1 = .fire q.key callback := by
    obtain ⟨q, callback, hfire, hwhich⟩ := hbehind.evaluate hwf hl hpasses hidle
    refine ⟨q, ?_, callback, hfire⟩
    obtain rfl | ⟨skipped, front, rfl, -⟩ := hwhich <;> simp
  constructor
  · intro wait next hpark
    have hparked := Scheduler.evaluate_of_resume_park hpark
    rw [hwf.config_eq] at hparked
    by_cases hidle : s'.scheduler.state.eventQueue.pending = []
    · obtain ⟨q, -, callback, hfire⟩ := hdecides hidle
      rw [hfire] at hparked
      cases hparked
    · rw [State.evaluate_of_pending hidle] at hparked
      cases hparked
  · intro hidle
    obtain ⟨q, hq, callback, hfire⟩ := hdecides hidle
    have hresumed : s'.resumed? .resume = some (.evaluate events now, readAt) := by
      simp [resumed?, hpasses]
    refine ⟨q, hq, ?_⟩
    rw [firedKey?_of_evaluate hresumed, hwf.config_eq, hfire]
    rfl

/-- A timer of 5 us is overdue behind one of no period that repeats, whose callback gives a third
one no period either. The overdue timer is the next that is fired. -/
theorem never_starved_by_zero_periods :
    ∃ (past later : History Nat) (s s' : Host Nat), Run {} Prompt past s ∧
      Path Prompt past s later s' ∧
      (log firedKey? later).length = 1 ∧
      (s.scheduler.state.timerQueue.entries.map Countdown.key) = [⟨0, 0⟩, ⟨1, 0⟩, ⟨2, 0⟩] ∧
      (s'.scheduler.state.timerQueue.entries.map Countdown.key) = [⟨1, 0⟩, ⟨2, 0⟩, ⟨0, 0⟩] ∧
      s'.firedKey? .resume = some ⟨1, 0⟩ := by
  obtain ⟨past, later, s, s', task, hrun, hpath, hentries, hget, hphase, hreleased, ha, htime,
      hlater, hlog, hentries', hpasses, hidle⟩ :
      ∃ (past later : History Nat) (s s' : Host Nat) (task : TimerTask Nat),
        Run {} Prompt past s ∧ Path Prompt past s later s' ∧
        s.scheduler.state.timerQueue.entries
          = [⟨⟨0, 0⟩, .ofTime 4294967290, 0⟩] ++ ⟨⟨1, 0⟩, .ofTime 4294967290, 5⟩
            :: [⟨⟨2, 0⟩, .ofTime 4294967290, 1000⟩] ∧
        s.scheduler.state.timers.get? ⟨1, 0⟩ = some task ∧ task.phase = .queued ∧
        task.released = false ∧
        armingOf? past ⟨⟨1, 0⟩, .ofTime 4294967290, 5⟩ = some ⟨⟨1, 0⟩, 4294967290, 5⟩ ∧
        s.time = 4294967300 ∧
        later.all (fun step => step.1.intervened? step.2 != some ⟨1, 0⟩) = true ∧
        log firedKey? later = [⟨0, 0⟩] ∧
        s'.scheduler.state.timerQueue.entries
          = [⟨⟨1, 0⟩, .ofTime 4294967290, 5⟩, ⟨⟨2, 0⟩, .ofTime 4294967300, 0⟩,
              ⟨⟨0, 0⟩, .ofTime 4294967300, 0⟩] ∧
        s'.passes = [.ready (.evaluate 0 (.ofTime 4294967300)) 4294967300] ∧
        s'.scheduler.state.eventQueue.pending = [] :=
    ⟨_, _, _, _, _,
      Run.of_play ⟨0⟩ 4294967290
        [.ask (.addTimer 10 (.after 0) true), .perform 0,
         .ask (.addTimer 20 (.after 5) false), .perform 0,
         .ask (.addTimer 30 (.after 1000) false), .perform 0, .elapse 10] rfl,
      Path.of_play
        [.enter, .resume, .resume, .resume, .ask (.reschedule ⟨⟨0⟩, ⟨2, 0⟩⟩ (.after 0)), .perform 0,
         .resume, .resume, .resume, .resume, .enter, .resume, .resume] rfl,
      rfl, rfl, rfl, rfl, rfl, rfl, rfl, rfl, rfl, rfl, rfl⟩
  have hwaits := never_starved hrun hentries hget hphase hreleased ha (by rw [htime]; decide) hpath
    fun step hstep => by simpa using List.all_eq_true.mp hlater step hstep
  rw [hlog] at hwaits
  rcases hwaits with hmem | ⟨ahead, behind, hsplit, -, hle, -, hdecides⟩
  · exact absurd hmem (by decide)
  · have hnone : 1 + ahead.length ≤ 1 := hle
    obtain rfl : ahead = [] := List.eq_nil_of_length_eq_zero (by omega)
    obtain ⟨q, hq, hfired⟩ := (hdecides _ _ _ _ hpasses).2 hidle
    rw [List.mem_singleton.mp hq] at hfired
    exact ⟨past, later, s, s', hrun, hpath, by rw [hlog]; rfl, by rw [hentries]; rfl,
      by rw [hentries']; rfl, hfired⟩

end Host

end CoopScheduler
