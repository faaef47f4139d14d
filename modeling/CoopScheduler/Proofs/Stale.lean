import CoopScheduler.Proofs.Countdowns
import CoopScheduler.Proofs.Overdue

/-!
# Stale readings

A pass reads the clock first and decides about its timers later. A countdown that is queued in
between begins after the reading, and the reading is **stale** for it: it lies behind the origin.

* `Countdown.toNat_remaining_of_stale`: at a reading up to half a turn of the clock behind the
  origin there is left what there is until the deadline, unless this is a whole turn or more, and
  then a turn less.
* `Host.Run.latest_of_traceable`: a countdown in the queue is the last one of its task.
* `Host.waits_for_next_pass`: a pass that has read the clock **does not fire what is queued after
  that**, unless the deadline is one turn of the clock after the reading.
* `Host.fires_stale`: at just this deadline it does, before the countdown has begun.
-/

namespace CoopScheduler

/-- **What a stale reading leaves**: the period and the time until the countdown begins, without a
turn of the clock if these make one. -/
theorem Countdown.toNat_remaining_of_stale {c : Countdown} {now : Tick} {ahead : UInt32}
    (horigin : c.origin = now.advance ahead) (hpos : 1 ≤ ahead) (hle : ahead ≤ 2147483648) :
    (c.remaining now).toNat = if c.period.toNat + ahead.toNat < UInt32.size then
        c.period.toNat + ahead.toNat
      else
        c.period.toNat + ahead.toNat - UInt32.size := by
  have hpos' : 1 ≤ ahead.toNat := UInt32.le_iff_toNat_le.mp hpos
  have hle' : ahead.toNat ≤ 2147483648 := UInt32.le_iff_toNat_le.mp hle
  have hnow := now.micros.toNat_lt
  have hperiod := c.period.toNat_lt
  have hbehind : c.origin.elapsedSince now = ahead := by rw [horigin, Tick.elapsedSince_advance]
  -- The reading is as far from the origin as the rest of the turn is long.
  have helapsed : (now.elapsedSince c.origin).toNat = UInt32.size - ahead.toNat := by
    rw [Tick.toNat_elapsedSince, horigin, Tick.toNat_advance]
    simp only [UInt32.size] at *
    omega
  rw [remaining, hbehind]
  simp only [UInt32.lt_iff_toNat_lt, helapsed, toNat_halfRange]
  split
  · next hstale =>
    rw [Saturating.toNat_add, Saturating.top]
    simp only [UInt32.size] at *
    split <;> omega
  · next hover =>
    rw [Saturating.toNat_sub, helapsed]
    simp only [UInt32.size] at *
    split <;> omega

/-- Nothing is left at a stale reading exactly if the deadline is a turn of the clock after it. -/
theorem Countdown.remaining_eq_zero_iff_of_stale {c : Countdown} {now : Tick} {ahead : UInt32}
    (horigin : c.origin = now.advance ahead) (hpos : 1 ≤ ahead) (hle : ahead ≤ 2147483648) :
    c.remaining now = 0 ↔ c.period.toNat + ahead.toNat = UInt32.size := by
  have hremaining := toNat_remaining_of_stale horigin hpos hle
  have hpos' : 1 ≤ ahead.toNat := UInt32.le_iff_toNat_le.mp hpos
  rw [← UInt32.toNat_inj, hremaining, UInt32.toNat_zero]
  split <;> omega

/-- Until half a turn of the clock after the reading, a countdown that begins then is over at the
reading only if its deadline shows the same tick. -/
theorem Arming.due_eq_of_stale {a : Arming} {readAt : Nat} (hafter : readAt ≤ a.since)
    (hnear : a.since ≤ readAt + 2147483648) (hover : a.countdown.remaining (.ofTime readAt) = 0) :
    a.due = readAt ∨ a.due = readAt + UInt32.size := by
  have hdue : a.due = a.since + a.period.toNat := rfl
  rcases Nat.eq_or_lt_of_le hafter with rfl | hlt
  · have hleft := a.countdown.remaining_origin
    rw [show a.countdown.origin = .ofTime a.since from rfl, hover] at hleft
    refine .inl ?_
    rw [hdue, show a.period = 0 from hleft.symm]
    rfl
  · obtain ⟨ahead, hahead⟩ : ∃ ahead : UInt32, ahead.toNat = a.since - readAt :=
      ⟨.ofNat (a.since - readAt), by rw [UInt32.toNat_ofNat']; exact Nat.mod_eq_of_lt (by omega)⟩
    have horigin : a.countdown.origin = (Tick.ofTime readAt).advance ahead := by
      rw [Tick.advance_ofTime, hahead, Nat.add_sub_cancel' hafter]
      rfl
    have hpos : 1 ≤ ahead := by
      rw [UInt32.le_iff_toNat_le, hahead]
      exact Nat.le_sub_of_add_le' hlt
    have hle : ahead ≤ 2147483648 := by
      rw [UInt32.le_iff_toNat_le, hahead]
      exact Nat.sub_le_iff_le_add'.mpr hnear
    have hturn := (Countdown.remaining_eq_zero_iff_of_stale horigin hpos hle).mp hover
    rw [hahead] at hturn
    change a.period.toNat + (a.since - readAt) = UInt32.size at hturn
    refine .inr ?_
    rw [hdue, ← hturn]
    omega

variable {κ : Type}

namespace Host

variable {c : Config} {ok : Condition κ} {past : History κ} {s s' : Host κ} {m : Move κ}
  {key : Key} {a : Arming}

/-- A countdown that starts is the only one of its task in the queue. -/
theorem key_ne_of_kept (hwf : s.WellFormed c) (h : s.step m = some s')
    (hsingle : (s'.scheduler.state.timers.get? a.key).isSome = true →
      s'.scheduler.state.Single a.key) (harming : s.arming? m = some a) :
    ∀ queued ∈ s.kept m Countdown.key s.scheduler.state.timerQueue.entries,
      queued.key ≠ a.key := by
  have hqueued := isTimerQueued_of_arming? hwf h harming
  have honce := hsingle (isSome_get?_of_isTimerQueued hqueued)
  have hqueue := step_kept hwf h
  rw [harming] at hqueue
  rw [State.Single, if_pos hqueued, State.countdowns, hqueue,
    (TimerQueue.perm_insert _ a.countdown).countP_eq, List.countP_cons,
    if_pos (by simp)] at honce
  have hnone := List.countP_eq_zero.mp (Nat.le_zero.mp (Nat.le_of_succ_le_succ honce))
  exact fun queued hmem hkey => hnone queued hmem (by simpa using hkey)

/-- **A countdown in the queue is the last one of its task.** -/
theorem Run.latest_of_traceable (h : Run c ok past s) (htraceable : TraceableKey ok past key) :
    ∀ queued ∈ s.scheduler.state.timerQueue.entries, queued.key = key →
      ∃ a, lastArming? past key = some a ∧ a.countdown = queued := by
  revert htraceable
  refine h.inductAlong (I := fun past s => TraceableKey ok past key →
    ∀ queued ∈ s.scheduler.state.timerQueue.entries, queued.key = key →
      ∃ a, lastArming? past key = some a ∧ a.countdown = queued) (fun id time _ => ?_)
    fun {past s m s'} hrun hI hstep hok htraceable queued hqueued hkey => ?_
  · simp [create, Scheduler.create, State.ofConfig]
  · have hkept : s.kept m Countdown.key s.scheduler.state.timerQueue.entries
        ⊆ s.scheduler.state.timerQueue.entries := (kept_sublist ..).subset
    rw [lastArming?_concat]
    rw [step_kept hrun.wellFormed hstep] at hqueued
    cases harming : s.arming? m with
    | none =>
      rw [harming] at hqueued
      simpa using hI htraceable.of_concat queued (hkept hqueued) hkey
    | some a =>
      rw [harming] at hqueued
      rcases TimerQueue.mem_insert.mp hqueued with rfl | hqueued
      · exact ⟨a, by simp [Option.filter, show a.key = key from hkey], rfl⟩
      · have hne : a.key ≠ key := by
          rintro rfl
          exact key_ne_of_kept hrun.wellFormed hstep
            ((hrun.snoc hstep hok).single_of_traceable htraceable) harming queued hqueued hkey
        simpa [Option.filter, hne] using hI htraceable.of_concat queued (hkept hqueued) hkey

/-- **What fires** is a countdown of which nothing is left at the reading, and it stems from an
arming. -/
theorem Run.exists_of_fired (h : Run c ok past s) {readAt : Nat}
    (hfired : s.fired? m = some (key, readAt)) :
    ∃ a, a.key = key ∧ a.countdown ∈ s.scheduler.state.timerQueue.entries ∧
      armingOf? past a.countdown = some a ∧ a.countdown.remaining (.ofTime readAt) = 0 := by
  obtain ⟨events, now, callback, rest, -, hpasses, hfire⟩ := fired?_eq_some hfired
  obtain ⟨rfl, -⟩ := h.wellFormed.evaluate_now hpasses
  obtain ⟨skipped, head, behind, task, hentries, -, hover, hkey, -⟩ := State.evaluate_of_fire hfire
  have hmem : head ∈ s.scheduler.state.timerQueue.entries := by simp [hentries]
  obtain ⟨a, ha⟩ := h.stems head hmem
  obtain rfl : a.countdown = head := armingOf?_eq_some ha
  exact ⟨a, hkey, hmem, ha, hover⟩

/-- **What is queued after a pass has read the clock waits for the next pass.**

* A reading up to half a turn of the clock behind the origin of a countdown leaves the period and
  the time until it begins, if these are less than a turn; and it leaves nothing exactly if they are
  one turn.
* So whatever a pass fires began before its reading or more than half a turn after it, unless the
  deadline is one turn after the reading. (A countdown that begins at the time of the reading and
  has no length is due.)
* Hence it does not fire a task whose last countdown began after its reading. -/
theorem waits_for_next_pass (h : Run c ok past s) :
    (∀ (queued : Countdown) (now : Tick) (ahead : UInt32), 1 ≤ ahead → ahead ≤ 2147483648 →
      queued.origin = now.advance ahead →
        (queued.period.toNat + ahead.toNat < UInt32.size →
          (queued.remaining now).toNat
            = min (queued.period.toNat + ahead.toNat) Saturating.top) ∧
        (queued.remaining now = 0 ↔ queued.period.toNat + ahead.toNat = UInt32.size)) ∧
    (∀ m key readAt, s.fired? m = some (key, readAt) → ∃ a, a.key = key ∧
      a.countdown ∈ s.scheduler.state.timerQueue.entries ∧ armingOf? past a.countdown = some a ∧
      (a.since < readAt ∨ readAt + 2147483648 < a.since ∨ a.due = readAt ∨
        a.due = readAt + UInt32.size)) ∧
    ∀ m key readAt a, TraceableKey ok past key → lastArming? past key = some a →
      readAt ≤ a.since → a.since ≤ readAt + 2147483648 →
      a.due ≠ readAt → a.due ≠ readAt + UInt32.size → s.fired? m ≠ some (key, readAt) := by
  refine ⟨fun queued now ahead hpos hle horigin => ⟨fun hfits => ?_, ?_⟩,
    fun m key readAt hfired => ?_, ?_⟩
  · rw [Countdown.toNat_remaining_of_stale horigin hpos hle, if_pos hfits]
    exact (Nat.min_eq_left (Nat.le_of_lt_succ hfits)).symm
  · exact Countdown.remaining_eq_zero_iff_of_stale horigin hpos hle
  · obtain ⟨a, hkey, hmem, hstems, hover⟩ := h.exists_of_fired hfired
    refine ⟨a, hkey, hmem, hstems, ?_⟩
    by_contra hstale
    push Not at hstale
    obtain ⟨hafter, hnear, hdue, hturn⟩ := hstale
    exact (a.due_eq_of_stale hafter hnear hover).elim hdue hturn
  · intro m key readAt a htraceable hlast hafter hnear hdue hturn hfired
    obtain ⟨fired, hkey, hmem, -, hover⟩ := h.exists_of_fired hfired
    obtain ⟨last, hlast', heq⟩ := h.latest_of_traceable htraceable _ hmem hkey
    obtain rfl : a = last := Option.some.inj (hlast.symm.trans hlast')
    rw [← heq] at hover
    exact (a.due_eq_of_stale hafter hnear hover).elim hdue hturn

/-- Between the clock reading and the decision of a pass, a timer of the longest period is added 2
us after the reading and one of 1000 us when it is 1500 us old. Neither fires. -/
theorem waits_for_next_pass_longest :
    ∃ (past : History Nat) (s : Host Nat), Run {} (fun _ _ _ _ => True) past s ∧
      s.passes = [.ready (.evaluate 0 (.ofTime 4294967290)) 4294967290] ∧
      s.scheduler.state.timerQueue.entries
        = [⟨⟨1, 0⟩, .ofTime 4294968790, 1000⟩, ⟨⟨0, 0⟩, .ofTime 4294967292, 4294967295⟩] ∧
      ((⟨⟨1, 0⟩, .ofTime 4294968790, 1000⟩ : Countdown).remaining (.ofTime 4294967290)).toNat
        = 2500 ∧
      (⟨⟨0, 0⟩, .ofTime 4294967292, 4294967295⟩ : Countdown).remaining (.ofTime 4294967290) ≠ 0 ∧
      s.fired? .resume ≠ some (⟨1, 0⟩, 4294967290) ∧
      s.fired? .resume ≠ some (⟨0, 0⟩, 4294967290) := by
  obtain ⟨past, s, hrun, hlength, hpasses, hentries, hlong, hshort⟩ :
      ∃ (past : History Nat) (s : Host Nat), Run {} (fun _ _ _ _ => True) past s ∧
        past.length = 9 ∧
        s.passes = [.ready (.evaluate 0 (.ofTime 4294967290)) 4294967290] ∧
        s.scheduler.state.timerQueue.entries
          = [⟨⟨1, 0⟩, .ofTime 4294968790, 1000⟩, ⟨⟨0, 0⟩, .ofTime 4294967292, 4294967295⟩] ∧
        lastArming? past ⟨0, 0⟩ = some ⟨⟨0, 0⟩, 4294967292, 4294967295⟩ ∧
        lastArming? past ⟨1, 0⟩ = some ⟨⟨1, 0⟩, 4294968790, 1000⟩ :=
    ⟨_, _, Run.of_play ⟨0⟩ 4294967290
      [.enter, .resume, .resume, .elapse 2, .ask (.addTimer 10 (.after 4294967295) false),
       .perform 0, .elapse 1498, .ask (.addTimer 20 (.after 1000) false), .perform 0]
      rfl, rfl, rfl, rfl, rfl, rfl⟩
  have hfew (key : Key) : TraceableKey (fun _ _ _ _ => True) past key :=
    .inl (Nat.lt_of_le_of_lt (releases_le_length past _) (by rw [hlength]; decide))
  obtain ⟨hleft, -, hwaits⟩ := waits_for_next_pass hrun
  refine ⟨past, s, hrun, hpasses, hentries, ?_, ?_,
    hwaits .resume _ _ _ (hfew _) hshort (by decide) (by decide) (by decide) (by decide),
    hwaits .resume _ _ _ (hfew _) hlong (by decide) (by decide) (by decide) (by decide)⟩
  · exact (hleft _ (.ofTime 4294967290) 1500 (by decide) (by decide) rfl).1 (by decide)
  · rw [Ne, (hleft _ (.ofTime 4294967290) 2 (by decide) (by decide) rfl).2]
    decide

/-- **A countdown that has not begun is taken for one that is over.** After a pass has read the
clock, a timer of the longest period is added 1 us later, and the pass fires it at once. -/
theorem fires_stale :
    ∃ (past : History Nat) (s : Host Nat), Run {} (fun _ _ _ _ => True) past s ∧
      s.passes = [.ready (.evaluate 0 (.ofTime 0)) 0] ∧
      lastArming? past ⟨0, 0⟩ = some ⟨⟨0, 0⟩, 1, 4294967295⟩ ∧
      s.scheduler.state.timerQueue.entries = [⟨⟨0, 0⟩, .ofTime 1, 4294967295⟩] ∧
      (⟨⟨0, 0⟩, .ofTime 1, 4294967295⟩ : Countdown).remaining (.ofTime 0) = 0 ∧
      s.fired? .resume = some (⟨0, 0⟩, 0) :=
  ⟨_, _, Run.of_play ⟨0⟩ 0
    [.enter, .resume, .resume, .elapse 1, .ask (.addTimer 10 (.ofMillis 4294968) false),
     .perform 0] rfl, rfl, rfl, rfl, rfl, rfl⟩

end Host

end CoopScheduler
