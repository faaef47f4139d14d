import CoopScheduler.Proofs.Readings
import CoopScheduler.Proofs.Records

/-!
# The last countdowns

As long as no task is queued again once it was released in its own callback
(`Host.Unrevived`), the timer queue holds the last countdown of each queued task and nothing else
(`Host.Run.current`). Periods may be of any length and readings of any age: only the order of the
queue depends on those.
-/

namespace CoopScheduler

variable {κ : Type}

namespace Host

/-- The timer queue holds the last countdown of each queued task and nothing else. -/
structure Current (past : History κ) (s : Host κ) : Prop where
  sound : s.scheduler.state.Sound
  nodup : (s.scheduler.state.timerQueue.entries.map Countdown.key).Nodup
  queued : ∀ c ∈ s.scheduler.state.timerQueue.entries,
    s.scheduler.state.isTimerQueued c.key = true
  latest : ∀ c ∈ s.scheduler.state.timerQueue.entries,
    ∃ a, lastArming? past c.key = some a ∧ a.countdown = c

variable {c : Config} {ok : Condition κ} {past : History κ} {s s' : Host κ} {m : Move κ}

private theorem Current.mem_without (hI : Current past s) {ended? : Option Key}
    {queued : Countdown} (hmem : queued ∈ (s.scheduler.state.without ended?).entries) :
    queued ∈ s.scheduler.state.timerQueue.entries ∧ ended? ≠ some queued.key := by
  refine ⟨(s.scheduler.state.without_sublist ended?).subset hmem, ?_⟩
  rintro rfl
  rw [State.without] at hmem
  split at hmem
  · rw [TimerQueue.erase, eraseP_eq_filter Countdown.key hI.nodup, List.mem_filter] at hmem
    simp at hmem
  · next hfree => exact hfree (hI.queued queued hmem)

/-- A countdown that goes on is still the last one of its task. -/
private theorem Current.latest_of_kept (hI : Current past s) {queued : Countdown}
    (hmem : queued ∈ (s.scheduler.state.without (s.disarmed? m)).entries) :
    (∀ a, s.arming? m = some a → a.key ≠ queued.key) ∧
      ∃ a, lastArming? (past ++ [(s, m)]) queued.key = some a ∧ a.countdown = queued := by
  obtain ⟨hentry, hgoes⟩ := hI.mem_without hmem
  have hne : ∀ a, s.arming? m = some a → a.key ≠ queued.key := by
    intro a ha heq
    rcases (of_arming? ha).2 with hended | hfree
    · exact hgoes (heq ▸ hended)
    · rw [heq, hI.queued queued hentry] at hfree
      cases hfree
  have hnone : (s.arming? m).filter (fun a => a.key = queued.key) = none :=
    Option.filter_eq_none_iff.mpr fun a ha hkey => hne a ha (by simpa using hkey)
  rw [lastArming?_concat, hnone, Option.none_or]
  exact ⟨hne, hI.latest queued hentry⟩

theorem Current.step (hwf : s.WellFormed c) (hI : Current past s) (h : s.step m = some s')
    (hok : Unrevived past s m s') : Current (past ++ [(s, m)]) s' := by
  have hrevised := step_revised hwf h hI.queued fun key task hget hreleased =>
    hI.sound.not_queued hget hreleased
  have hkept := s.scheduler.state.without_sublist (s.disarmed? m)
  have hnodup := hI.nodup.sublist (hkept.map Countdown.key)
  have hqueued {queued : Countdown}
      (hmem : queued ∈ (s.scheduler.state.without (s.disarmed? m)).entries) :
      s'.scheduler.state.isTimerQueued queued.key = true := by
    obtain ⟨hentry, hgoes⟩ := hI.mem_without hmem
    exact (hrevised.isTimerQueued_iff _).mpr (.inr ⟨hgoes, hI.queued queued hentry⟩)
  have hqueue := hrevised.timerQueue_eq
  cases harming : s.arming? m with
  | none =>
    rw [harming, State.revisedQueue] at hqueue
    refine ⟨step_sound h hI.sound hok, ?_, ?_, ?_⟩
    · rw [hqueue]
      exact hnodup
    · rw [hqueue]
      exact fun queued hmem => hqueued hmem
    · rw [hqueue]
      exact fun queued hmem => (hI.latest_of_kept hmem).2
  | some a =>
    rw [harming, State.revisedQueue] at hqueue
    have hperm := TimerQueue.perm_insert (s.scheduler.state.without (s.disarmed? m)) a.countdown
    refine ⟨step_sound h hI.sound hok, ?_, ?_, ?_⟩
    · rw [hqueue, (hperm.map Countdown.key).nodup_iff, List.map_cons, List.nodup_cons]
      refine ⟨fun hmem => ?_, hnodup⟩
      obtain ⟨queued, hmem, hkey⟩ := List.mem_map.mp hmem
      exact (hI.latest_of_kept hmem).1 a harming hkey.symm
    · intro queued hmem
      rw [hqueue] at hmem
      rcases TimerQueue.mem_insert.mp hmem with rfl | hmem
      · exact (hrevised.isTimerQueued_iff _).mpr (.inl ⟨a, harming, rfl⟩)
      · exact hqueued hmem
    · intro queued hmem
      rw [hqueue] at hmem
      rcases TimerQueue.mem_insert.mp hmem with rfl | hmem
      · exact ⟨a, by simp [lastArming?_concat, harming, Option.filter], rfl⟩
      · exact (hI.latest_of_kept hmem).2

/-- **The queue holds the last countdowns**, unless released tasks are queued again. -/
theorem Run.current (h : Run c ok past s)
    (hok : ∀ past s m s', ok past s m s' → Unrevived past s m s') : Current past s := by
  refine h.induct (fun id time => ?_) fun hwf hI hstep hstepOk =>
    hI.step hwf hstep (hok _ _ _ _ hstepOk)
  constructor
  · intro key task hget
    simp [create, Scheduler.create, State.ofConfig, Arena.get?] at hget
  · exact List.nodup_nil
  · simp [create, Scheduler.create, State.ofConfig]
  · simp [create, Scheduler.create, State.ofConfig]

end Host

end CoopScheduler
