import CoopScheduler.Proofs.Firings
import CoopScheduler.Proofs.Timeline

/-!
# Interleaved registrations

Between the clock reading for a countdown and the section that puts it into the queue, anything may
happen: the clock goes on and other countdowns are started, so countdowns need not come in the
order of their readings. The queue compares a new deadline with each countdown by the distance from
where that one began, and a deadline that lies before takes the distance of a whole turn of
the clock.

* Less than a quarter of a turn apart (`Host.Close`), the order test is wrong about no countdown
  but one that begins after the new deadline (`Host.Interleaved` excludes these).
* `Host.dispatches_in_order`: **the queue is in the order of the true deadlines** then, no task is
  fired ahead of one with an earlier deadline, and a pass parks only until the first deadline.
* `Host.parks_past_interleaved`: a new deadline that lies before the beginning of a countdown in
  the queue is put behind it, and the context sleeps past it.
-/

namespace CoopScheduler

variable {κ : Type}

/-- **What a park waits for** is the first countdown in front of which there are only countdowns
whose tasks are gone, and this one is not over. -/
theorem State.evaluate_of_park_skipped {s : State κ} {c : Config} {now : Tick} {wait : Duration}
    (h : (s.evaluate c now).1 = .park wait) :
    ∃ skipped rest, s.timerQueue.entries = skipped ++ rest ∧
      (∀ c ∈ skipped, s.timers.get? c.key = none) ∧
      (∀ head ∈ rest.head?, 0 < head.remaining now) ∧
      wait = c.sleepFor (rest.head?.map (·.remaining now)) := by
  by_cases hpending : s.eventQueue.pending = []
  · rw [evaluate_of_idle hpending] at h
    obtain ⟨skipped, rest, hentries, hgone, ⟨hleft, heq⟩ | ⟨head, behind, task, -, -, -, heq⟩⟩ :=
      s.popTimer_skipped now
    · rw [heq] at h
      cases h
      exact ⟨skipped, rest, hentries, hgone, hleft, rfl⟩
    · rw [heq] at h
      cases h
  · rw [evaluate_of_pending hpending] at h
    cases h

/-- A pass parks for as long as it has decided to. -/
theorem Scheduler.evaluate_of_resume_park {s : Scheduler κ} {events : Nat} {now : Tick}
    {wait : Duration} {next : Activation κ}
    (h : (s.resume (.evaluate events now)).1 = .park wait next) :
    (s.state.evaluate s.config now).1 = .park wait := by
  revert h
  rw [resume]
  rcases s.state.evaluate s.config now with ⟨⟨key, _ | callback⟩ | _ | decided, state⟩
  · exact fun h => by cases h
  · exact fun h => by cases h
  · exact fun h => by cases h
  · intro h
    cases h
    rfl

namespace Host

/-- All times that matter to a countdown that starts are less than a quarter of a turn of the clock
apart. -/
structure Close (past : History κ) (s : Host κ) (m : Move κ) (s' : Host κ) : Prop where
  /-- It is that short. -/
  short : ∀ a ∈ s.arming? m, a.period.toNat < 1073741824
  /-- Its beginning is that near to those of the countdowns that stay in the queue. -/
  near : ∀ a ∈ s.arming? m, ∀ queued ∈ s.scheduler.state.timerQueue.entries,
    queued ∈ s'.scheduler.state.timerQueue.entries → ∀ b ∈ armingOf? past queued,
      a.since < b.since + 1073741824 ∧ b.since < a.since + 1073741824

/-- What a step has to respect for the queue to stay in order, if countdowns may be queued in
another order than that of their readings. -/
structure Interleaved (past : History κ) (s : Host κ) (m : Move κ) (s' : Host κ) : Prop
    extends Close past s m s' where
  /-- No countdown that stays in the queue begins after the deadline of the one that starts. -/
  since_le_due : ∀ a ∈ s.arming? m, ∀ queued ∈ s.scheduler.state.timerQueue.entries,
    queued ∈ s'.scheduler.state.timerQueue.entries → ∀ b ∈ armingOf? past queued, b.since ≤ a.due

instance (past : History κ) (s : Host κ) (m : Move κ) (s' : Host κ) :
    Decidable (Close past s m s') :=
  decidable_of_iff
    ((∀ a ∈ s.arming? m, a.period.toNat < 1073741824) ∧
      ∀ a ∈ s.arming? m, ∀ queued ∈ s.scheduler.state.timerQueue.entries,
        queued ∈ s'.scheduler.state.timerQueue.entries → ∀ b ∈ armingOf? past queued,
          a.since < b.since + 1073741824 ∧ b.since < a.since + 1073741824)
    ⟨fun ⟨h₁, h₂⟩ => ⟨h₁, h₂⟩, fun ⟨h₁, h₂⟩ => ⟨h₁, h₂⟩⟩

instance (past : History κ) (s : Host κ) (m : Move κ) (s' : Host κ) :
    Decidable (Interleaved past s m s') :=
  decidable_of_iff
    (Close past s m s' ∧
      ∀ a ∈ s.arming? m, ∀ queued ∈ s.scheduler.state.timerQueue.entries,
        queued ∈ s'.scheduler.state.timerQueue.entries → ∀ b ∈ armingOf? past queued,
          b.since ≤ a.due)
    ⟨fun ⟨h₁, h₂⟩ => ⟨h₁, h₂⟩, fun ⟨h₁, h₂⟩ => ⟨h₁, h₂⟩⟩

/-- The timer queue holds the countdowns of the armings `l`, all of them short, in the order of
their true deadlines. -/
structure InOrder (past : History κ) (s : Host κ) (l : List Arming) : Prop where
  entries_eq : s.scheduler.state.timerQueue.entries = l.map Arming.countdown
  sorted : Timeline.Sorted l
  /-- A countdown stems from its arming and no later one. -/
  stems : ∀ a ∈ l, armingOf? past a.countdown = some a
  short : ∀ a ∈ l, a.period.toNat < 1073741824

variable {c : Config} {past : History κ} {s s' : Host κ} {m : Move κ} {l : List Arming}

/-- **A step keeps the queue in order**, even if it uses a reading that is older than the
countdowns in the queue. -/
theorem InOrder.step (hwf : s.WellFormed c) (hI : InOrder past s l) (h : s.step m = some s')
    (hok : Interleaved past s m s') : ∃ l', InOrder (past ++ [(s, m)]) s' l' := by
  obtain ⟨entries, hsub, hqueue⟩ := step_entries hwf h
  rw [hI.entries_eq] at hsub
  -- What is kept of the queue are the countdowns of some of its armings.
  obtain ⟨kept, hkept, rfl⟩ := List.sublist_map_iff.mp hsub
  have hmem {q : Arming} (hq : q ∈ kept) :
      q.countdown ∈ s.scheduler.state.timerQueue.entries := by
    rw [hI.entries_eq]
    exact List.mem_map_of_mem (hkept.subset hq)
  cases harming : s.arming? m with
  | none =>
    refine ⟨kept, ?_, hI.sorted.sublist hkept, fun q hq => ?_,
      fun q hq => hI.short q (hkept.subset hq)⟩
    · rw [hqueue, harming]
    · rw [armingOf?_concat, harming]
      simpa using hI.stems q (hkept.subset hq)
  | some a =>
    have hstays {q : Arming} (hq : q ∈ kept) :
        q.countdown ∈ s'.scheduler.state.timerQueue.entries := by
      rw [hqueue, harming]
      exact TimerQueue.mem_insert.mpr (.inr (List.mem_map_of_mem hq))
    have hstems {q : Arming} (hq : q ∈ kept) := hI.stems q (hkept.subset hq)
    have hnear {q : Arming} (hq : q ∈ kept) :=
      hok.near a harming q.countdown (hmem hq) (hstays hq) q (hstems hq)
    have hshort := hok.short a harming
    refine ⟨Timeline.insert kept a, ?_, Timeline.sorted_insert (hI.sorted.sublist hkept) a,
      fun b hb => ?_, fun b hb => ?_⟩
    · rw [hqueue, harming]
      refine Timeline.entries_insert fun q hq => Arming.dueNoLaterThan_iff ?_ ?_
      · exact hok.since_le_due a harming q.countdown (hmem hq) (hstays hq) q (hstems hq)
      · have hlt := (hnear hq).1
        change a.since + a.period.toNat < q.since + 4294967296
        omega
    · rw [armingOf?_concat, harming]
      rcases Timeline.mem_insert.mp hb with rfl | hb
      · simp [Option.filter]
      · by_cases heq : a.countdown = b.countdown
        · obtain ⟨hab, hba⟩ := hnear hb
          rw [← Arming.eq_of_countdown_eq heq (Nat.lt_trans hab (by simp [UInt32.size]))
            (Nat.lt_trans hba (by simp [UInt32.size]))]
          simp [Option.filter]
        · simpa [Option.filter, heq] using hstems hb
    · rcases Timeline.mem_insert.mp hb with rfl | hb
      · exact hshort
      · exact hI.short b (hkept.subset hb)

/-- The queue is in order as long as no countdown is put behind one that begins after its
deadline. -/
theorem Run.inOrder (h : Run c Interleaved past s) : ∃ l, InOrder past s l := by
  refine h.induct (I := fun past s => ∃ l, InOrder past s l) (fun id time => ?_) ?_
  · exact ⟨[], rfl, List.Pairwise.nil, by simp, by simp⟩
  · rintro past s m s' hwf ⟨l, hI⟩ hstep hok
    exact hI.step hwf hstep hok

/-- The first countdown that is not passed over has the least deadline of all tasks that exist. -/
theorem InOrder.exists_head (hI : InOrder past s l) {skipped behind : List Countdown}
    {head : Countdown}
    (hentries : s.scheduler.state.timerQueue.entries = skipped ++ head :: behind)
    (hgone : ∀ c ∈ skipped, s.scheduler.state.timers.get? c.key = none) :
    ∃ a ∈ l, a.countdown = head ∧
      ∀ b ∈ l, (s.scheduler.state.timers.get? b.key).isSome = true → a.due ≤ b.due := by
  rw [hI.entries_eq] at hentries
  obtain ⟨l₁, l₂, rfl, rfl, htail⟩ := List.map_eq_append_iff.mp hentries
  obtain ⟨a, l₃, rfl, rfl, -⟩ := List.map_eq_cons_iff.mp htail
  refine ⟨a, by simp, rfl, fun b hb hlive => ?_⟩
  have hsorted := (List.pairwise_append.mp hI.sorted).2.1
  rcases List.mem_append.mp hb with hskipped | hb
  · have hnone := hgone b.countdown (List.mem_map_of_mem hskipped)
    rw [Arming.countdown_key] at hnone
    simp [hnone] at hlive
  · rcases List.mem_cons.mp hb with rfl | hb
    · exact Nat.le_refl _
    · exact (List.pairwise_cons.mp hsorted).1 b hb

/-- **Interleaved registrations are dispatched in order**, as long as no countdown is put into the
queue with a deadline before the beginning of another one: the whole queue is in the order of the
true deadlines, a task that fires has the least one of all queued tasks that exist, and a pass
parks before all of these deadlines and no longer than until the first, unless the sleep floor
is longer. -/
theorem dispatches_in_order (h : Run c Interleaved past s) :
    ∃ l, s.scheduler.state.timerQueue.entries = l.map Arming.countdown ∧ Timeline.Sorted l ∧
      (∀ a ∈ l, armingOf? past a.countdown = some a) ∧
      (∀ m key readAt, s.fired? m = some (key, readAt) → ∃ a ∈ l, a.key = key ∧
        ∀ b ∈ l, (s.scheduler.state.timers.get? b.key).isSome = true → a.due ≤ b.due) ∧
      ∀ events now readAt rest wait,
        s.passes = .ready (.evaluate events now) readAt :: rest →
        (s.scheduler.resume (.evaluate events now)).1 = .park wait (.woken events wait) →
        (∀ a ∈ l, readAt < a.since + 1073741824 ∧ a.since < readAt + 1073741824) →
        ∀ b ∈ l, (s.scheduler.state.timers.get? b.key).isSome = true →
          readAt < b.due ∧ wait ≤ max (.ofMicros (b.due - readAt)) c.sleepFloor := by
  obtain ⟨l, hI⟩ := h.inOrder
  refine ⟨l, hI.entries_eq, hI.sorted, hI.stems, ?_, ?_⟩
  · intro m key readAt hfired
    obtain ⟨events, now, callback, rest, -, -, hfire⟩ := fired?_eq_some hfired
    obtain ⟨skipped, head, behind, task, hentries, hgone, -, rfl, -⟩ :=
      State.evaluate_of_fire hfire
    obtain ⟨a, ha, rfl, hleast⟩ := hI.exists_head hentries hgone
    exact ⟨a, ha, rfl, hleast⟩
  · intro events now readAt rest wait hpasses hpark hnear b hb hlive
    obtain ⟨rfl, -⟩ := h.wellFormed.evaluate_now hpasses
    obtain ⟨skipped, ahead, hentries, hgone, hleft, hwait⟩ :=
      State.evaluate_of_park_skipped (Scheduler.evaluate_of_resume_park hpark)
    cases ahead with
    | nil =>
      have hmem : b.countdown ∈ skipped := by
        rw [hI.entries_eq, List.append_nil] at hentries
        exact hentries ▸ List.mem_map_of_mem hb
      have hnone := hgone b.countdown hmem
      rw [Arming.countdown_key] at hnone
      simp [hnone] at hlive
    | cons head behind =>
      obtain ⟨a, ha, rfl, hleast⟩ := hI.exists_head hentries hgone
      obtain ⟨hage, hstale⟩ := hnear a ha
      have hdue := hleast b hb hlive
      have hremaining := a.remaining_of_near (hI.short a ha) hage hstale
      have hpos := UInt32.lt_iff_toNat_lt.mp (hleft _ rfl)
      rw [hremaining] at hpos
      refine ⟨Nat.lt_of_lt_of_le (Nat.lt_of_sub_pos hpos) hdue, ?_⟩
      rw [hwait, h.wellFormed.config_eq, List.head?_cons, Option.map_some, Config.sleepFor,
        Config.timedSleep, hremaining, Duration.le_def, Duration.nanos_max, Duration.nanos_max]
      simp only [Duration.ofMicros]
      omega

/-- A countdown that began 100 us after another one is queued first and is due first, while the
clock wraps, and a pass parks for this one. -/
theorem dispatches_in_order_of_deadlines :
    ∃ (past : History Nat) (s : Host Nat) (l : List Arming), Run {} Interleaved past s ∧
      s.scheduler.state.timerQueue.entries
        = [⟨⟨0, 0⟩, .ofTime 4294967390, 2000⟩, ⟨⟨1, 0⟩, .ofTime 4294967290, 10000⟩] ∧
      s.scheduler.state.timerQueue.entries = l.map Arming.countdown ∧ Timeline.Sorted l ∧
      s.passes = [.ready (.evaluate 0 (.ofTime 4294967390)) 4294967390] ∧
      (s.scheduler.resume (.evaluate 0 (.ofTime 4294967390))).1
        = .park (.ofMicros 2000) (.woken 0 (.ofMicros 2000)) ∧
      ∀ b ∈ l, 4294967390 < b.due ∧
        Duration.ofMicros 2000 ≤ max (.ofMicros (b.due - 4294967390)) (Config.sleepFloor {}) := by
  obtain ⟨past, s, hrun, hentries, hpasses, hpark, hfirst, hsecond, hlive, hlive'⟩ :
      ∃ (past : History Nat) (s : Host Nat), Run {} Interleaved past s ∧
        s.scheduler.state.timerQueue.entries
          = [⟨⟨0, 0⟩, .ofTime 4294967390, 2000⟩, ⟨⟨1, 0⟩, .ofTime 4294967290, 10000⟩] ∧
        s.passes = [.ready (.evaluate 0 (.ofTime 4294967390)) 4294967390] ∧
        (s.scheduler.resume (.evaluate 0 (.ofTime 4294967390))).1
          = .park (.ofMicros 2000) (.woken 0 (.ofMicros 2000)) ∧
        armingOf? past ⟨⟨0, 0⟩, .ofTime 4294967390, 2000⟩
          = some ⟨⟨0, 0⟩, 4294967390, 2000⟩ ∧
        armingOf? past ⟨⟨1, 0⟩, .ofTime 4294967290, 10000⟩
          = some ⟨⟨1, 0⟩, 4294967290, 10000⟩ ∧
        (s.scheduler.state.timers.get? ⟨0, 0⟩).isSome = true ∧
        (s.scheduler.state.timers.get? ⟨1, 0⟩).isSome = true :=
    ⟨_, _, Run.of_play ⟨0⟩ 4294967290
      [.ask (.addTimer 10 (.after 10000) false), .elapse 100,
       .ask (.addTimer 20 (.after 2000) false), .perform 1, .perform 0, .enter, .resume, .resume]
      rfl, rfl, rfl, rfl, rfl, rfl, rfl, rfl⟩
  obtain ⟨l, hl, hsorted, hstems, -, hparks⟩ := dispatches_in_order hrun
  have harmings : ∀ a ∈ l,
      a = ⟨⟨0, 0⟩, 4294967390, 2000⟩ ∨ a = ⟨⟨1, 0⟩, 4294967290, 10000⟩ := by
    intro a ha
    have hstem := hstems a ha
    have hqueued : a.countdown ∈ s.scheduler.state.timerQueue.entries :=
      hl ▸ List.mem_map_of_mem ha
    rw [hentries, List.mem_cons, List.mem_singleton] at hqueued
    rcases hqueued with heq | heq
    · rw [heq, hfirst] at hstem
      exact .inl (Option.some.inj hstem).symm
    · rw [heq, hsecond] at hstem
      exact .inr (Option.some.inj hstem).symm
  refine ⟨past, s, l, hrun, hentries, hl, hsorted, hpasses, hpark,
    fun b hb => hparks 0 _ _ [] _ hpasses hpark (fun a ha => ?_) b hb ?_⟩
  · rcases harmings a ha with rfl | rfl <;> decide
  · rcases harmings b hb with rfl | rfl
    · exact hlive
    · exact hlive'

/-- **A countdown is slept past.** While the reading for a timer of 10 us waits, 100 us go by and a
timer of 1000 us is added. The first one, whose deadline lies before the beginning of the second,
is put behind it, and 90 us after its deadline the context parks for 1000 us. -/
theorem parks_past_interleaved :
    ∃ (past : History Nat) (s : Host Nat), Run {} Close past s ∧
      s.passes = [.ready (.evaluate 0 (.ofTime 100)) 100] ∧
      s.scheduler.state.timerQueue.entries
        = [⟨⟨0, 0⟩, .ofTime 100, 1000⟩, ⟨⟨1, 0⟩, .ofTime 0, 10⟩] ∧
      armingOf? past ⟨⟨0, 0⟩, .ofTime 100, 1000⟩ = some ⟨⟨0, 0⟩, 100, 1000⟩ ∧
      armingOf? past ⟨⟨1, 0⟩, .ofTime 0, 10⟩ = some ⟨⟨1, 0⟩, 0, 10⟩ ∧
      ¬Timeline.Sorted [⟨⟨0, 0⟩, 100, 1000⟩, ⟨⟨1, 0⟩, 0, 10⟩] ∧
      s.scheduler.state.isTimerQueued ⟨1, 0⟩ = true ∧
      (s.scheduler.resume (.evaluate 0 (.ofTime 100))).1
        = .park (.ofMicros 1000) (.woken 0 (.ofMicros 1000)) :=
  ⟨_, _, Run.of_play ⟨0⟩ 0
    [.ask (.addTimer 10 (.after 10) false), .elapse 100,
     .ask (.addTimer 20 (.after 1000) false), .perform 1, .perform 0, .enter, .resume, .resume]
    rfl, rfl, rfl, rfl, rfl, by decide, rfl, rfl⟩

end Host

end CoopScheduler
