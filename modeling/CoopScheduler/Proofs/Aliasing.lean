import CoopScheduler.Proofs.Readings
import CoopScheduler.Proofs.Timeline

/-!
# Deadlines a turn of the clock away

A period may take almost a whole turn of the clock, so a new deadline may lie a turn or more after
the beginning of a countdown in the queue. What the order test sees of it is a tick that came up
before, and if that tick falls short of the end of the countdown, the test takes the later deadline
for the earlier one: the deadline is an **alias** (`Arming.Aliases`).

* The order test is wrong about aliases and nothing else
  (`Arming.dueNoLaterThan_iff_not_aliases`).
* `Host.timeline` finds the armings in the queue, in the order of their true deadlines, in the
  history.
* `Host.queue_in_order`: **the queue is that timeline**, whatever the periods, as long as nothing
  falls between a reading and the section that uses it and no alias is queued.
* `Host.out_of_order`: of two countdowns with the longest period, one that begins 100 us after the
  other is put ahead of it.
-/

namespace CoopScheduler

namespace Arming

/-- A deadline a turn of the clock or more after the beginning of a countdown, whose tick looks
like one from before the countdown is over. -/
def Aliases (q a : Arming) : Prop :=
  q.since + UInt32.size ≤ a.due ∧ (a.due - q.since) % UInt32.size < q.period.toNat

instance (q a : Arming) : Decidable (q.Aliases a) :=
  inferInstanceAs (Decidable (_ ∧ _))

/-- **What the order test says** of a deadline after the beginning of the countdown, however far
away that is. -/
theorem dueNoLaterThan_iff_not_aliases {q a : Arming} (hle : q.since ≤ a.due) :
    q.countdown.dueNoLaterThan a.countdown.deadline = true ↔ q.due ≤ a.due ∧ ¬q.Aliases a := by
  have hperiod := q.period.toNat_lt
  have hmod := Nat.mod_add_div (a.due - q.since) UInt32.size
  have hdue : q.due = q.since + q.period.toNat := rfl
  rw [countdown_deadline, Countdown.dueNoLaterThan, decide_eq_true_eq, UInt32.le_iff_toNat_le]
  change q.period.toNat ≤ ((Tick.ofTime a.due).elapsedSince (.ofTime q.since)).toNat ↔ _
  rw [Tick.toNat_elapsedSince_ofTime hle, Aliases, hdue]
  simp only [UInt32.size] at *
  omega

end Arming

variable {κ : Type}

namespace Host

/-- What a move does to the armings in the queue, if it inserts the one it starts by its true
deadline. -/
def reorder (s : Host κ) (m : Move κ) (l : List Arming) : List Arming :=
  match s.arming? m with
  | none => s.kept m Arming.key l
  | some a => Timeline.insert (s.kept m Arming.key l) a

/-- The armings in the queue, in the order of their true deadlines. -/
def timeline (past : History κ) : List Arming :=
  past.foldl (fun l (s, m) => s.reorder m l) []

@[simp]
theorem timeline_concat (past : History κ) (s : Host κ) (m : Move κ) :
    timeline (past ++ [(s, m)]) = s.reorder m (timeline past) := by
  rw [timeline, List.foldl_append]
  rfl

/-- What a step has to respect for the queue to be in order, whatever the periods. -/
structure Unaliased (past : History κ) (s : Host κ) (m : Move κ) (s' : Host κ) : Prop where
  /-- A critical section leaves no reading for a countdown open, so none falls between such a
  reading and the section that uses it. -/
  undisturbed : s.entersSection m = true → s'.registeringReadings = []
  /-- The deadline of a countdown that starts is not an alias for one that stays in the queue. -/
  unaliased : ∀ a ∈ s.arming? m, ∀ q ∈ s.kept m Arming.key (timeline past), ¬q.Aliases a

instance (past : History κ) (s : Host κ) (m : Move κ) (s' : Host κ) :
    Decidable (Unaliased past s m s') :=
  decidable_of_iff
    ((s.entersSection m = true → s'.registeringReadings = []) ∧
      ∀ a ∈ s.arming? m, ∀ q ∈ s.kept m Arming.key (timeline past), ¬q.Aliases a)
    ⟨fun ⟨h₁, h₂⟩ => ⟨h₁, h₂⟩, fun ⟨h₁, h₂⟩ => ⟨h₁, h₂⟩⟩

/-- The timer queue holds the countdowns of the armings `l`, in the order of their true deadlines
and so that ticks can tell. -/
structure Lined (past : History κ) (s : Host κ) (l : List Arming) : Prop where
  entries_eq : s.scheduler.state.timerQueue.entries = l.map Arming.countdown
  legible : Timeline.Legible l
  armed : ∀ a ∈ l, a ∈ armings past
  since_le : ∀ a ∈ l, a.since ≤ s.time
  /-- No countdown in the queue begins after a reading from which another one may start. -/
  since_le_reading : ∀ r ∈ s.registeringReadings, ∀ a ∈ l, a.since ≤ r

variable {c : Config} {past : History κ} {s s' : Host κ} {m : Move κ} {l : List Arming}
  {a : Arming}

/-- The order test is exact for a countdown that is not queued under an alias. -/
theorem Lined.dueNoLaterThan_iff (hI : Lined past s l) (harming : s.arming? m = some a)
    (hunaliased : ∀ q ∈ s.kept m Arming.key l, ¬q.Aliases a) :
    ∀ q ∈ s.kept m Arming.key l,
      q.countdown.dueNoLaterThan a.countdown.deadline = true ↔ q.due ≤ a.due := by
  intro q hq
  have hsince := hI.since_le_reading _ (of_arming? harming).1 q ((kept_sublist ..).subset hq)
  rw [Arming.dueNoLaterThan_iff_not_aliases (Nat.le_trans hsince a.since_le_due)]
  exact and_iff_left (hunaliased q hq)

/-- **A step keeps the queue in line**: what it leaves of the queue stays in order, and a
countdown that it starts is put in its place. -/
theorem Lined.step (hwf : s.WellFormed c) (hI : Lined past s l) (h : s.step m = some s')
    (hundisturbed : s.entersSection m = true → s'.registeringReadings = [])
    (hunaliased : ∀ a ∈ s.arming? m, ∀ q ∈ s.kept m Arming.key l, ¬q.Aliases a) :
    Lined (past ++ [(s, m)]) s' (s.reorder m l) := by
  have hqueue := step_kept hwf h
  have hkept : (s.kept m Arming.key l).Sublist l := kept_sublist ..
  have hlegible : Timeline.Legible (s.kept m Arming.key l) := hI.legible.sublist hkept
  have hle := step_time_le h
  rw [hI.entries_eq, kept_map] at hqueue
  cases harming : s.arming? m with
  | none =>
    rw [harming] at hqueue
    simp only [reorder, harming]
    refine ⟨by rw [hqueue], hlegible, fun b hb => ?_,
      fun b hb => Nat.le_trans (hI.since_le b (hkept.subset hb)) hle, fun r hr b hb => ?_⟩
    · rw [armings_concat]
      exact List.mem_append_left _ (hI.armed b (hkept.subset hb))
    · rcases readings_step Frame.reading?_of_settling? hwf h hr with hr | ⟨rfl, -⟩
      · exact hI.since_le_reading r hr b (hkept.subset hb)
      · exact hI.since_le b (hkept.subset hb)
  | some a =>
    rw [harming] at hqueue
    simp only [reorder, harming]
    have hopen := (of_arming? harming).1
    have hexact := hI.dueNoLaterThan_iff harming (hunaliased a harming)
    have hsection : s.entersSection m = true := by
      refine Bool.not_eq_false _ ▸ fun hnone => ?_
      rw [(of_not_entersSection hnone).1] at harming
      cases harming
    refine ⟨?_, hlegible.insert hexact fun q hq hlater => ?_, fun b hb => ?_, fun b hb => ?_, ?_⟩
    · rw [hqueue]
      exact Timeline.entries_insert hexact
    · -- The countdowns in the queue began no later, so none is due a turn of the clock later.
      have hsince := hI.since_le_reading _ hopen q (hkept.subset hq)
      have hperiod := q.period.toNat_lt
      have hdue : q.due = q.since + q.period.toNat := rfl
      refine (Arming.dueNoLaterThan_iff ?_ ?_).mpr (Nat.le_of_lt hlater)
      · exact Nat.le_trans a.since_le_due (Nat.le_of_lt hlater)
      · simp only [UInt32.size]
        omega
    · rw [armings_concat, harming]
      rcases Timeline.mem_insert.mp hb with rfl | hb
      · simp
      · exact List.mem_append_left _ (hI.armed b (hkept.subset hb))
    · rcases Timeline.mem_insert.mp hb with rfl | hb
      · exact Nat.le_trans (hwf.openReadings_le (s.registeringReadings_subset hopen)) hle
      · exact Nat.le_trans (hI.since_le b (hkept.subset hb)) hle
    · rw [hundisturbed hsection]
      simp

theorem Run.lined (h : Run c Unaliased past s) : Lined past s (timeline past) := by
  refine h.induct (I := fun past s => Lined past s (timeline past)) (fun id time => ?_) ?_
  · exact ⟨rfl, List.Pairwise.nil, by simp [timeline], by simp [timeline], by simp [timeline]⟩
  · intro past s m s' hwf hI hstep hok
    rw [timeline_concat]
    exact hI.step hwf hstep hok.undisturbed hok.unaliased

/-- **The timer queue is in the order of the true deadlines**, whatever the periods, as long as
no deadline is queued as an alias: the queue says so of itself, it is the timeline of its
armings, and a countdown that starts is put behind every one that is due no later and ahead of all
others. -/
theorem queue_in_order (h : Run c Unaliased past s) :
    s.scheduler.timersInOrder = true ∧
      s.scheduler.state.timerQueue.entries = (timeline past).map Arming.countdown ∧
      Timeline.Sorted (timeline past) ∧ (∀ a ∈ timeline past, a ∈ armings past) ∧
      ∀ m s' a, s.step m = some s' → Unaliased past s m s' → s.arming? m = some a →
        ∃ front back, s.kept m Arming.key (timeline past) = front ++ back ∧
          s'.scheduler.state.timerQueue.entries = (front ++ a :: back).map Arming.countdown ∧
          (∀ q ∈ front, q.due ≤ a.due) ∧ ∀ q ∈ back, a.due < q.due := by
  have hI := h.lined
  refine ⟨?_, hI.entries_eq, hI.legible.sorted, hI.armed, fun m s' a hstep hok harming => ?_⟩
  · have hsorted := hI.legible.isSorted
    rw [← hI.entries_eq] at hsorted
    exact hsorted
  · obtain ⟨front, back, hkept, hinsert, hfront, hback⟩ :=
      Timeline.exists_insert_eq (hI.legible.sorted.sublist (kept_sublist s m Arming.key _)) a
    have hstep' := (hI.step h.wellFormed hstep hok.undisturbed hok.unaliased).entries_eq
    simp only [reorder, harming, hinsert] at hstep'
    exact ⟨front, back, hkept, hstep', hfront, hback⟩

/-- Two countdowns of the longest period begin 6 us before the clock wraps. After that a third one
is queued for the same deadline and a fourth one ahead of them, and when the second one is
rescheduled to this deadline as well, it goes behind all others. -/
theorem queue_in_order_across_wrap :
    ∃ (past : History Nat) (s s' : Host Nat) (m : Move Nat), Run {} Unaliased past s ∧
      s.scheduler.timersInOrder = true ∧
      timeline past = [⟨⟨3, 0⟩, 4294967390, 50⟩, ⟨⟨0, 0⟩, 4294967290, 4294967295⟩,
        ⟨⟨1, 0⟩, 4294967290, 4294967295⟩, ⟨⟨2, 0⟩, 4294967390, 4294967195⟩] ∧
      s.step m = some s' ∧ s.arming? m = some ⟨⟨1, 0⟩, 4294967390, 4294967195⟩ ∧
      ∃ front back, s.kept m Arming.key (timeline past) = front ++ back ∧
        s'.scheduler.state.timerQueue.entries
          = (front ++ ⟨⟨1, 0⟩, 4294967390, 4294967195⟩ :: back).map Arming.countdown ∧
        (∀ q ∈ front, q.due ≤ 8589934585) ∧ ∀ q ∈ back, 8589934585 < q.due := by
  obtain ⟨past, s, s', hrun, htimeline, hstep, hok, harming⟩ :
      ∃ (past : History Nat) (s s' : Host Nat), Run {} Unaliased past s ∧
        timeline past = [⟨⟨3, 0⟩, 4294967390, 50⟩, ⟨⟨0, 0⟩, 4294967290, 4294967295⟩,
          ⟨⟨1, 0⟩, 4294967290, 4294967295⟩, ⟨⟨2, 0⟩, 4294967390, 4294967195⟩] ∧
        s.step (.perform 0) = some s' ∧ Unaliased past s (.perform 0) s' ∧
        s.arming? (.perform 0) = some ⟨⟨1, 0⟩, 4294967390, 4294967195⟩ :=
    ⟨_, _, _, Run.of_play ⟨0⟩ 4294967290
      [.ask (.addTimer 10 (.after 4294967295) false), .perform 0,
       .ask (.addTimer 20 (.after 4294967295) true), .perform 0, .elapse 100,
       .ask (.addTimer 30 (.after 4294967195) false), .perform 0,
       .ask (.addTimer 40 (.after 50) false), .perform 0,
       .ask (.reschedule ⟨⟨0⟩, ⟨1, 0⟩⟩ (.after 4294967195))]
      rfl, rfl, rfl, by decide, rfl⟩
  obtain ⟨hsorted, -, -, -, hplace⟩ := queue_in_order hrun
  exact ⟨past, s, s', .perform 0, hrun, hsorted, htimeline, hstep, harming,
    hplace _ _ _ hstep hok harming⟩

/-- **The longest periods are put in the wrong order.** A countdown that begins 100 us after one
of the same period, which is the longest there is and that of 4294968 ms, is put ahead of it,
and the queue is not in order. -/
theorem out_of_order :
    ∃ (past : History Nat) (s : Host Nat), Run {} Undisturbed past s ∧
      s.scheduler.state.timerQueue.entries
        = [⟨⟨1, 0⟩, .ofTime 100, 4294967295⟩, ⟨⟨0, 0⟩, .ofTime 0, 4294967295⟩] ∧
      armings past = [⟨⟨0, 0⟩, 0, 4294967295⟩, ⟨⟨1, 0⟩, 100, 4294967295⟩] ∧
      ¬Timeline.Sorted [⟨⟨1, 0⟩, 100, 4294967295⟩, ⟨⟨0, 0⟩, 0, 4294967295⟩] ∧
      s.scheduler.timersInOrder = false :=
  ⟨_, _, Run.of_play ⟨0⟩ 0
    [.ask (.addTimer 10 (.ofMillis 4294968) false), .perform 0, .elapse 100,
     .ask (.addTimer 20 (.ofMillis 4294968) false), .perform 0] rfl, rfl, rfl, by decide, rfl⟩

end Host

end CoopScheduler
