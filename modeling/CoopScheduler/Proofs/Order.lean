import CoopScheduler.Proofs.Readings
import CoopScheduler.Proofs.Timeline

/-!
# The order of the timer queue

A run is **orderly** if nothing falls between the clock reading for a countdown and the section
that starts it, and if no countdown takes longer than half a turn of the clock or is older than
that at a clock reading (`Host.Orderly`). Other than on a timely run, a pass may decide with an
old reading, and tasks may be queued again after they were released, which leaves countdowns
behind whose tasks are gone.

* On an orderly run the whole timer queue, with what was left behind, is in the order of the
  true deadlines (`Host.Run.ordered`).
* A countdown in the queue is the one of a single arming (`Host.Ordered.stems`).
-/

namespace CoopScheduler

variable {κ : Type}

namespace Host

/-- What a step has to respect for the timer queue to be in order. -/
structure Orderly (past : History κ) (s : Host κ) (m : Move κ) (s' : Host κ) : Prop where
  /-- A critical section leaves no reading for a countdown open, so none falls between such a
  reading and the section that uses it. -/
  undisturbed : s.entersSection m = true → s'.registeringReadings = []
  /-- At a clock reading no countdown in the queue began more than half a turn of the clock
  ago. -/
  age_le : s.readsClock m = true → ∀ c ∈ s.scheduler.state.timerQueue.entries,
    ∀ a ∈ armingOf? past c, s.time ≤ a.since + Countdown.halfRange.toNat
  /-- No countdown takes longer than that. -/
  short : ∀ a ∈ s.arming? m, a.period ≤ Countdown.halfRange

instance (past : History κ) (s : Host κ) (m : Move κ) (s' : Host κ) :
    Decidable (Orderly past s m s') :=
  decidable_of_iff
    ((s.entersSection m = true → s'.registeringReadings = []) ∧
      (s.readsClock m = true → ∀ c ∈ s.scheduler.state.timerQueue.entries,
        ∀ a ∈ armingOf? past c, s.time ≤ a.since + Countdown.halfRange.toNat) ∧
      ∀ a ∈ s.arming? m, a.period ≤ Countdown.halfRange)
    ⟨fun ⟨h₁, h₂, h₃⟩ => ⟨h₁, h₂, h₃⟩, fun ⟨h₁, h₂, h₃⟩ => ⟨h₁, h₂, h₃⟩⟩

/-- The timer queue holds the countdowns of the armings `l`, in the order of their true
deadlines. -/
structure Ordered (past : History κ) (s : Host κ) (l : List Arming) : Prop where
  entries_eq : s.scheduler.state.timerQueue.entries = l.map Arming.countdown
  sorted : Timeline.Sorted l
  /-- A countdown stems from its arming and no later one. -/
  stems : ∀ a ∈ l, armingOf? past a.countdown = some a
  since_le : ∀ a ∈ l, a.since ≤ s.time
  short : ∀ a ∈ l, a.period ≤ Countdown.halfRange
  /-- No reading for a countdown is out of reach of a countdown in the queue. -/
  window : ∀ r ∈ s.registeringReadings, Timeline.Window l r

variable {c : Config} {past : History κ} {s s' : Host κ} {m : Move κ} {l : List Arming}

/-- Armings of one countdown in a window are one. -/
private theorem eq_of_countdown_eq {a b : Arming} (hwindow : Timeline.Window l a.since)
    (hb : b ∈ l) (h : b.countdown = a.countdown) : b = a := by
  have hsince := hwindow.since_le b hb
  have hage := hwindow.age_le b hb
  rw [Countdown.toNat_halfRange] at hage
  obtain ⟨key, since, period⟩ := a
  obtain ⟨key', since', period'⟩ := b
  simp only [Arming.countdown, Countdown.mk.injEq] at h
  obtain ⟨rfl, htick, rfl⟩ := h
  have hmod : since' % UInt32.size = since % UInt32.size := by
    rw [← Tick.toNat_ofTime, ← Tick.toNat_ofTime, htick]
  -- Both began in the same half turn of the clock, where equal ticks are equal times.
  have heq : since' = since := by
    simp only [UInt32.size] at hsince hage hmod
    omega
  rw [heq]

/-- The readings that wait after an orderly step are within reach of the countdowns in the
queue. If there are any, the step has started none. -/
private theorem Ordered.window_step (hwf : s.WellFormed c) (hI : Ordered past s l)
    (h : s.step m = some s') (hok : Orderly past s m s') {r : Nat}
    (hr : r ∈ s'.registeringReadings) : s.arming? m = none ∧ Timeline.Window l r := by
  cases hsection : s.entersSection m with
  | true =>
    rw [hok.undisturbed hsection] at hr
    cases hr
  | false =>
    refine ⟨(of_not_entersSection hsection).1, ?_⟩
    rcases readings_step Frame.reading?_of_settling? hwf h hr with hr | ⟨rfl, hreads⟩
    · exact hI.window r hr
    · refine ⟨hI.since_le, fun a ha => ?_, hI.short⟩
      refine hok.age_le hreads a.countdown ?_ a (hI.stems a ha)
      rw [hI.entries_eq]
      exact List.mem_map_of_mem ha

/-- **An orderly step keeps the queue in order.** What it adds to the armings in the queue is
the countdown that it starts. -/
theorem Ordered.step (hwf : s.WellFormed c) (hI : Ordered past s l) (h : s.step m = some s')
    (hok : Orderly past s m s') :
    ∃ l', (∀ b ∈ l', b ∈ l ∨ s.arming? m = some b) ∧ Ordered (past ++ [(s, m)]) s' l' := by
  obtain ⟨entries, hsub, hqueue⟩ := step_entries hwf h
  rw [hI.entries_eq] at hsub
  -- What is kept of the queue are the countdowns of some of its armings.
  obtain ⟨kept, hkept, rfl⟩ := List.sublist_map_iff.mp hsub
  have hle := step_time_le h
  cases harming : s.arming? m with
  | none =>
    refine ⟨kept, fun b hb => .inl (hkept.subset hb), ?_, hI.sorted.sublist hkept, fun b hb => ?_,
      fun b hb => Nat.le_trans (hI.since_le b (hkept.subset hb)) hle,
      fun b hb => hI.short b (hkept.subset hb), ?_⟩
    · rw [hqueue, harming]
    · rw [armingOf?_concat, harming]
      simpa using hI.stems b (hkept.subset hb)
    · intro r hr
      exact (hI.window_step hwf h hok hr).2.of_subset hkept.subset
  | some a =>
    have hopen := (of_arming? harming).1
    have hwindow := hI.window a.since hopen
    have hshort := hok.short a harming
    have hsince : a.since ≤ s'.time :=
      Nat.le_trans (hwf.openReadings_le (s.registeringReadings_subset hopen)) hle
    have hmem {b : Arming} (hb : b ∈ Timeline.insert kept a) : b = a ∨ b ∈ l :=
      (Timeline.mem_insert.mp hb).imp id fun hb => hkept.subset hb
    refine ⟨Timeline.insert kept a, fun b hb => ?_, ?_,
      Timeline.sorted_insert (hI.sorted.sublist hkept) a, fun b hb => ?_, fun b hb => ?_,
      fun b hb => ?_, fun r hr => ?_⟩
    · exact (hmem hb).symm.imp id fun heq => by rw [heq]
    · rw [hqueue, harming]
      exact Timeline.entries_insert fun q hq => hwindow.dueNoLaterThan_iff hshort (hkept.subset hq)
    · rw [armingOf?_concat, harming]
      rcases hmem hb with rfl | hb
      · simp [Option.filter]
      · by_cases heq : a.countdown = b.countdown
        · rw [eq_of_countdown_eq hwindow hb heq.symm]
          simp [Option.filter]
        · simpa [Option.filter, heq] using hI.stems b hb
    · rcases hmem hb with rfl | hb
      · exact hsince
      · exact Nat.le_trans (hI.since_le b hb) hle
    · rcases hmem hb with rfl | hb
      · exact hshort
      · exact hI.short b hb
    · have hnone := (hI.window_step hwf h hok hr).1
      rw [harming] at hnone
      cases hnone

/-- On an orderly run the timer queue is in order. -/
theorem Run.ordered (h : Run c Orderly past s) : ∃ l, Ordered past s l := by
  refine h.induct (I := fun past s => ∃ l, Ordered past s l) (fun id time => ?_) ?_
  · exact ⟨[], rfl, List.Pairwise.nil, by simp, by simp, by simp,
      by simp [registeringReadings, readings, create]⟩
  · rintro past s m s' hwf ⟨l, hI⟩ hstep hok
    obtain ⟨l', -, hI'⟩ := hI.step hwf hstep hok
    exact ⟨l', hI'⟩

end Host

end CoopScheduler
