import CoopScheduler.Proofs.Latest

/-!
# Overdue timers

A pass tells a countdown that is over from one that has not begun by the distance of its reading
from the origin: more than half a turn of the clock, and more than the period, reads as a clock
that is behind (`Countdown.remaining`).

* Each countdown in the queue stems from an arming (`Host.Run.stems`), on any run whatsoever.
* `Host.fires_overdue`: **a deadline that is reached is not missed**, at the very deadline and
  from then on until half a turn of the clock after the countdown began. After that an overdue
  timer reads as one that has not begun, or the clock has made a turn, and the pass parks.
* For a short period it takes half an hour for that (`Host.overdue_by_half_turn`), and a clock that
  is late by so much cannot be told from one that is behind. For a period of
  `Countdown.halfRange` or more it is a defect: half a turn is over by the deadline, and **a fresh
  reading just past the deadline parks the context** (`Host.parks_past_long_deadline`).
-/

namespace CoopScheduler

variable {κ : Type}

namespace Host

variable {c : Config} {ok : Condition κ} {past : History κ} {s : Host κ}

/-- Every countdown in the queue stems from an arming. -/
theorem Run.stems (h : Run c ok past s) :
    ∀ queued ∈ s.scheduler.state.timerQueue.entries, ∃ a, armingOf? past queued = some a := by
  refine h.induct
    (I := fun past s => ∀ queued ∈ s.scheduler.state.timerQueue.entries,
      ∃ a, armingOf? past queued = some a)
    (fun id time => by simp [create, Scheduler.create, State.ofConfig]) ?_
  intro past s m s' hwf hstems hstep _ queued hqueued
  rw [armingOf?_concat]
  obtain ⟨kept, hkept, hqueue⟩ := step_entries hwf hstep
  rw [hqueue] at hqueued
  cases harming : s.arming? m with
  | none =>
    rw [harming] at hqueued
    simpa using hstems queued (hkept.subset hqueued)
  | some a =>
    rw [harming] at hqueued
    -- An arming of the same countdown takes the place of the one before.
    by_cases heq : a.countdown = queued
    · exact ⟨a, by simp [Option.filter, heq]⟩
    · rcases TimerQueue.mem_insert.mp hqueued with rfl | hqueued
      · exact absurd rfl heq
      · simpa [Option.filter, heq] using hstems queued (hkept.subset hqueued)

/-- **A deadline that is reached is not missed** by the reading of that very time, nor by a later
one until half a turn of the clock after the countdown began: the timer in front, whose task
exists, fires. The deadline is that of the last countdown of the task, unless released tasks are
queued again.

In the rest of the half turn after the deadline the pass parks. For a period of
`Countdown.halfRange` or more that rest begins right behind the deadline, and all readings but the
one of that very time miss the timer: a defect, as a period may be of any length. -/
theorem fires_overdue (h : Run c ok past s) {events readAt : Nat} {now : Tick}
    {rest : List (Frame κ)} {head : Countdown} {task : TimerTask κ}
    (hpasses : s.passes = .ready (.evaluate events now) readAt :: rest)
    (hidle : s.scheduler.state.eventQueue.pending = [])
    (hhead : s.scheduler.state.timerQueue.peek? = some head)
    (hlive : s.scheduler.state.timers.get? head.key = some task) :
    ∃ a, armingOf? past head = some a ∧
      ((∀ past s m s', ok past s m s' → Unrevived past s m s') →
        lastArming? past head.key = some a) ∧
      (a.due ≤ readAt → readAt < a.due + 2147483648 →
        (readAt = a.due ∨ readAt ≤ a.since + Countdown.halfRange.toNat →
          (s.scheduler.resume (.evaluate events now)).1
            = .callIfPresent task.callback (.timerReturned events head.key task.callback)) ∧
        (¬(readAt = a.due ∨ readAt ≤ a.since + Countdown.halfRange.toNat) →
          ∃ wait, (s.scheduler.resume (.evaluate events now)).1
            = .park wait (.woken events wait))) := by
  obtain ⟨rest', hentries⟩ := List.head?_eq_some_iff.mp hhead
  obtain ⟨a, ha⟩ := h.stems head (by simp [hentries])
  refine ⟨a, ha, fun hok => ?_, fun hdue hlt => ?_⟩
  · obtain ⟨last, hlast, hcountdown⟩ := (h.current hok).latest head (by simp [hentries])
    have hkey : last.key = head.key := congrArg Countdown.key hcountdown
    have hstems := armingOf?_of_lastArming? (hkey ▸ hlast)
    rw [hcountdown, ha] at hstems
    rw [hlast, hstems]
  obtain ⟨rfl, -⟩ := h.wellFormed.evaluate_now hpasses
  have hover : head.remaining (.ofTime readAt) = 0 ↔
      readAt = a.due ∨ readAt ≤ a.since + Countdown.halfRange.toNat := by
    rw [← armingOf?_eq_some ha]
    exact Arming.remaining_eq_zero_iff hdue hlt
  have hpop := State.popTimer_of_live hentries hlive (.ofTime readAt)
  rw [← hover, Scheduler.resume, State.evaluate_of_idle hidle, hpop]
  constructor
  · intro hzero
    have hnot : ¬0 < head.remaining (.ofTime readAt) := by simp [hzero]
    simp only [hnot, if_false]
  · intro hzero
    have hleft : 0 < head.remaining (.ofTime readAt) := UInt32.pos_iff_ne_zero.mpr hzero
    simp only [hleft, if_true]
    exact ⟨_, rfl⟩

/-- A timer of 100 us runs when its pass reads the clock as late as half a turn after the timer
was added. -/
theorem fires_overdue_until_half_turn :
    ∃ (past : History Nat) (s : Host Nat), Run {} Undisturbed past s ∧
      s.passes = [.ready (.evaluate 0 (.ofTime 2147483647)) 2147483647] ∧
      (s.scheduler.resume (.evaluate 0 (.ofTime 2147483647))).1
        = .call 10 (.timerReturned 0 ⟨0, 0⟩ (some 10)) := by
  obtain ⟨past, s, hrun, hpasses, hidle, hhead, hlive, harming⟩ :
      ∃ (past : History Nat) (s : Host Nat), Run {} Undisturbed past s ∧
        s.passes = [.ready (.evaluate 0 (.ofTime 2147483647)) 2147483647] ∧
        s.scheduler.state.eventQueue.pending = [] ∧
        s.scheduler.state.timerQueue.peek? = some ⟨⟨0, 0⟩, .ofTime 0, 100⟩ ∧
        s.scheduler.state.timers.get? ⟨0, 0⟩
          = some ⟨some 10, .after 100, false, .ofTime 0, .queued, false, false⟩ ∧
        armingOf? past ⟨⟨0, 0⟩, .ofTime 0, 100⟩ = some ⟨⟨0, 0⟩, 0, 100⟩ :=
    ⟨_, _, Run.of_play ⟨0⟩ 0
      [.ask (.addTimer 10 (.after 100) false), .perform 0, .elapse 2147483647, .enter, .resume,
       .resume] rfl, rfl, rfl, rfl, rfl, rfl⟩
  obtain ⟨a, ha, -, hfires⟩ := fires_overdue hrun hpasses hidle hhead hlive
  obtain rfl : (⟨⟨0, 0⟩, 0, 100⟩ : Arming) = a := Option.some.inj (harming.symm.trans ha)
  exact ⟨past, s, hrun, hpasses, (hfires (by decide) (by decide)).1 (.inr (by decide))⟩

/-- **Beyond half a turn** the same timer, which is less than half a turn late, is taken for one
that has not begun, and the context parks. -/
theorem overdue_by_half_turn :
    ∃ (past : History Nat) (s : Host Nat) (head : Countdown) (task : TimerTask Nat) (a : Arming),
      Run {} Undisturbed past s ∧
      s.passes = [.ready (.evaluate 0 (.ofTime 2147483698)) 2147483698] ∧
      s.scheduler.state.eventQueue.pending = [] ∧
      s.scheduler.state.timerQueue.peek? = some head ∧
      s.scheduler.state.timers.get? head.key = some task ∧
      armingOf? past head = some a ∧ a.due ≤ 2147483698 ∧ 2147483698 < a.due + 2147483648 ∧
      (s.scheduler.resume (.evaluate 0 (.ofTime 2147483698))).1
        = .park (.ofMicros 2147483698) (.woken 0 (.ofMicros 2147483698)) :=
  ⟨_, _, ⟨⟨0, 0⟩, .ofTime 0, 100⟩, _, ⟨⟨0, 0⟩, 0, 100⟩,
    Run.of_play ⟨0⟩ 0
      [.ask (.addTimer 10 (.after 100) false), .perform 0, .elapse 2147483698, .enter, .resume,
       .resume] rfl,
    rfl, rfl, rfl, rfl, rfl, by decide, by decide, rfl⟩

/-- **A deadline that is missed**: a timer of an hour is late by 1 us. The reading is fresh and no
request is in flight, yet it is taken for one from before the countdown began, and the context
parks for 71 minutes. -/
theorem parks_past_long_deadline :
    ∃ (past : History Nat) (s : Host Nat) (head : Countdown) (task : TimerTask Nat) (a : Arming),
      Run {} Undisturbed past s ∧ s.time = 3600000001 ∧ s.inFlight = [] ∧
      s.passes = [.ready (.evaluate 0 (.ofTime 3600000001)) 3600000001] ∧
      s.scheduler.state.eventQueue.pending = [] ∧
      s.scheduler.state.timerQueue.peek? = some head ∧
      s.scheduler.state.timers.get? head.key = some task ∧
      armingOf? past head = some a ∧ lastArming? past head.key = some a ∧ a.due = 3600000000 ∧
      (s.scheduler.resume (.evaluate 0 (.ofTime 3600000001))).1
        = .park (.ofMicros 4294967295) (.woken 0 (.ofMicros 4294967295)) :=
  ⟨_, _, ⟨⟨0, 0⟩, .ofTime 0, 3600000000⟩, _, ⟨⟨0, 0⟩, 0, 3600000000⟩,
    Run.of_play ⟨0⟩ 0
      [.ask (.addTimer 10 (.after 3600000000) false), .perform 0, .elapse 3600000001, .enter,
       .resume, .resume] rfl,
    rfl, rfl, rfl, rfl, rfl, rfl, rfl, rfl, rfl, rfl⟩

end Host

end CoopScheduler
