import CoopScheduler.Proofs.Requests

/-!
# Clock readings that wait to be used

A request or a pass reads the clock first and enters the critical section that uses the reading
later. In between the reading is **open** (`Host.openReadings`).

* A reading that is open after a step was open before it, or the step took it
  (`Host.readings_step`).
* The readings from which countdowns may start are `Host.registeringReadings`. A countdown that
  a move starts runs from one of these, and its task was not queued or is not any more
  (`Host.of_arming?`).
-/

namespace CoopScheduler

variable {κ : Type}

namespace Host

/-- When the reading was taken that a request has not used yet. -/
def InFlight.reading? (s : Scheduler κ) : InFlight κ → Option Nat
  | .asked op readAt => if s.readsClock op then some readAt else none
  | _ => none

/-- When the reading was taken that a pass has not used yet. -/
def Frame.reading? : Frame κ → Option Nat
  | .ready (.evaluate ..) readAt | .ready (.settle ..) readAt => some readAt
  | _ => none

/-- When the reading was taken with which a pass is about to put a timer back. -/
def Frame.settling? : Frame κ → Option Nat
  | .ready (.settle ..) readAt => some readAt
  | _ => none

/-- The times of the clock readings that wait to be used: those of requests, and those that
`reading?` finds in the passes in progress. -/
def readings (reading? : Frame κ → Option Nat) (s : Host κ) : List Nat :=
  s.inFlight.filterMap (·.reading? s.scheduler) ++ s.passes.filterMap reading?

/-- The times of all readings that wait for the critical sections which use them. -/
def openReadings (s : Host κ) : List Nat :=
  s.readings Frame.reading?

/-- The times of the readings that wait for critical sections which may start a countdown. -/
def registeringReadings (s : Host κ) : List Nat :=
  s.readings Frame.settling?

/-- Whether a move enters a critical section. -/
def entersSection (s : Host κ) (m : Move κ) : Bool :=
  (s.performed? m).isSome || match s.resumed? m with
    | none | some (.timerReturned .., _) | some (.ended _, _) => false
    | some _ => true

/-- A critical section leaves no reading open, so none falls between a reading and the section
that uses it. -/
abbrev Undisturbed : Condition κ :=
  fun _ s m s' => s.entersSection m = true → s'.openReadings = []

variable {c : Config} {ok : Condition κ} {past : History κ} {s s' : Host κ} {m : Move κ}
  {a : Arming}

theorem InFlight.reading?_congr {s s' : Scheduler κ} {request : InFlight κ} (h : s'.id = s.id) :
    request.reading? s' = request.reading? s := by
  cases request with
  | asked op readAt => cases op <;> simp [reading?, Scheduler.readsClock, Scheduler.owns, h]
  | _ => rfl

theorem mem_readings {reading? : Frame κ → Option Nat} {r : Nat} : r ∈ s.readings reading? ↔
    (∃ request ∈ s.inFlight, request.reading? s.scheduler = some r) ∨
      ∃ frame ∈ s.passes, reading? frame = some r := by
  rw [readings, List.mem_append, List.mem_filterMap, List.mem_filterMap]

theorem Frame.reading?_of_settling? {frame : Frame κ} {r : Nat} (h : frame.settling? = some r) :
    frame.reading? = some r := by
  unfold settling? at h
  split at h
  · exact h
  · cases h

/-- A reading for a countdown is a reading. -/
theorem registeringReadings_subset (s : Host κ) : s.registeringReadings ⊆ s.openReadings := by
  intro r hr
  rcases mem_readings.mp hr with hrequest | ⟨frame, hmem, hread⟩
  · exact mem_readings.mpr (.inl hrequest)
  · exact mem_readings.mpr (.inr ⟨frame, hmem, Frame.reading?_of_settling? hread⟩)

theorem WellFormed.openReadings_le (hwf : s.WellFormed c) {r : Nat} (hr : r ∈ s.openReadings) :
    r ≤ s.time := by
  rcases mem_readings.mp hr with ⟨request, hmem, hread⟩ | ⟨frame, hmem, hread⟩
  · cases request with
    | asked op readAt =>
      simp only [InFlight.reading?] at hread
      split at hread
      · cases hread
        exact hwf.inFlight op _ hmem
      · cases hread
    | waking source => cases hread
    | stopping => cases hread
  · cases hwf.passes frame hmem with
    | evaluate events readAt hle =>
      cases hread
      exact hle
    | settle events key callback readAt hle =>
      cases hread
      exact hle
    | _ => cases hread

theorem framesAfter_reading? (s : Scheduler κ) (activation : Activation κ) (readAt : Nat) :
    ∀ frame ∈ framesAfter (s.resume activation).1 readAt, frame.reading? = none := by
  cases activation with
  | drain events =>
    simp only [Scheduler.resume]
    split
    · simp [framesAfter, Frame.reading?]
    · simp [Frame.reading?]
  | evaluate events now =>
    simp only [Scheduler.resume]
    split
    · simp [Frame.reading?]
    · simp [framesAfter]
    · simp [framesAfter, Frame.reading?]
  | _ => simp [Scheduler.resume, framesAfter, Frame.reading?]

/-- A reading that a request has not used after a step waited before it or was taken by it. -/
private theorem inFlight_reading_step (h : s.step m = some s') {request : InFlight κ} {r : Nat}
    (hmem : request ∈ s'.inFlight) (hread : request.reading? s'.scheduler = some r) :
    (∃ request ∈ s.inFlight, request.reading? s.scheduler = some r) ∨
      r = s.time ∧ s.readsClock m = true := by
  have hrequest {request : InFlight κ} {scheduler : Scheduler κ}
      (hid : scheduler.id = s.scheduler.id) (hmem : request ∈ s.inFlight)
      (hread : request.reading? scheduler = some r) :
      ∃ request ∈ s.inFlight, request.reading? s.scheduler = some r := by
    rw [InFlight.reading?_congr hid] at hread
    exact ⟨request, hmem, hread⟩
  cases Step.of_step h with
  | ask op =>
    rcases List.mem_append.mp hmem with hmem | hmem
    · exact .inl (hrequest rfl hmem hread)
    · rw [List.mem_singleton.mp hmem, InFlight.reading?] at hread
      split at hread
      · next hreads =>
        cases hread
        exact .inr ⟨rfl, hreads⟩
      · cases hread
  | @perform i op readAt hi =>
    have hid := (perform_config_id s.scheduler op (.ofTime readAt)).2
    simp only [performAt] at hmem
    split at hmem
    · exact .inl (hrequest hid (List.mem_of_mem_eraseIdx hmem) hread)
    · rcases List.mem_or_eq_of_mem_set hmem with hmem | rfl
      · exact .inl (hrequest hid hmem hread)
      · cases hread
  | unpark hi _ => exact .inl (hrequest rfl (List.mem_of_mem_eraseIdx hmem) hread)
  | stop =>
    rcases List.mem_append.mp hmem with hmem | hmem
    · exact .inl (hrequest rfl hmem hread)
    · rw [List.mem_singleton.mp hmem] at hread
      cases hread
  | goOn _ => exact .inl (hrequest (resume_config_id ..).2 hmem hread)
  | _ => exact .inl (hrequest rfl hmem hread)

/-- A reading that a pass has not used after a step waited before it or was taken by it. -/
private theorem passes_reading_step (hwf : s.WellFormed c) (h : s.step m = some s')
    {frame : Frame κ} {r : Nat} (hmem : frame ∈ s'.passes) (hread : frame.reading? = some r) :
    frame ∈ s.passes ∨ r = s.time ∧ s.readsClock m = true := by
  cases Step.of_step h with
  | enter =>
    rcases List.mem_cons.mp hmem with rfl | hmem
    · cases hread
    · exact .inl hmem
  | read hpasses =>
    rcases List.mem_cons.mp hmem with rfl | hmem
    · cases hwf.passes _ (hpasses ▸ List.mem_cons_self) with
      | readEvaluate events =>
        cases hread
        exact .inr ⟨rfl, by simp [readsClock, hpasses]⟩
      | readSettle events key callback =>
        cases hread
        exact .inr ⟨rfl, by simp [readsClock, hpasses]⟩
    · exact .inl (hpasses ▸ List.mem_cons_of_mem _ hmem)
  | unparked hpasses =>
    rcases List.mem_cons.mp hmem with rfl | hmem
    · cases hwf.passes _ (hpasses ▸ List.mem_cons_self) with
      | parking events wait readAt => cases hread
    · exact .inl (hpasses ▸ List.mem_cons_of_mem _ hmem)
  | goOn hpasses =>
    rcases List.mem_append.mp hmem with hmem | hmem
    · -- The pass has used its reading, and a new one takes a step of its own.
      rw [framesAfter_reading? _ _ _ frame hmem] at hread
      cases hread
    · exact .inl (hpasses ▸ List.mem_cons_of_mem _ hmem)
  | _ => exact .inl hmem

/-- **Readings come from the clock**: one that waits after a step waited before it or was taken
by it. -/
theorem readings_step {reading? : Frame κ → Option Nat}
    (hreading : ∀ {frame r}, reading? frame = some r → frame.reading? = some r)
    (hwf : s.WellFormed c) (h : s.step m = some s') {r : Nat} (hr : r ∈ s'.readings reading?) :
    r ∈ s.readings reading? ∨ r = s.time ∧ s.readsClock m = true := by
  rcases mem_readings.mp hr with ⟨request, hmem, hread⟩ | ⟨frame, hmem, hread⟩
  · exact (inFlight_reading_step h hmem hread).imp_left fun hopen => mem_readings.mpr (.inl hopen)
  · exact (passes_reading_step hwf h hmem (hreading hread)).imp_left fun hmem =>
      mem_readings.mpr (.inr ⟨frame, hmem, hread⟩)

/-- Only critical sections start and end countdowns. -/
theorem of_not_entersSection (h : s.entersSection m = false) :
    s.arming? m = none ∧ s.disarmed? m = none := by
  unfold entersSection at h
  unfold arming? disarmed?
  cases hperformed : s.performed? m with
  | some request => simp [hperformed] at h
  | none =>
    rw [hperformed, Option.isSome_none, Bool.false_or] at h
    split at h
    · next hresumed => simp [hresumed]
    · next hresumed => simp [hresumed]
    · next hresumed => simp [hresumed]
    · cases h

/-- **What is known of a countdown that a move starts**: it runs from a reading taken for it,
and its task was not queued or is not any more. -/
theorem of_arming? (h : s.arming? m = some a) :
    a.since ∈ s.registeringReadings ∧
      (s.disarmed? m = some a.key ∨ s.scheduler.state.isTimerQueued a.key = false) := by
  unfold arming? at h
  split at h
  · next op readAt hperformed =>
    obtain ⟨hsince, hreads, hfree⟩ := Scheduler.of_arming? h
    obtain ⟨i, -, hi⟩ := performed?_eq_some hperformed
    refine ⟨mem_readings.mpr (.inl ⟨_, List.mem_of_getElem? hi, ?_⟩), ?_⟩
    · rw [InFlight.reading?, if_pos hreads, hsince]
    · simpa only [disarmed?, hperformed] using hfree
  · next events key callback after readAt hperformed hresumed =>
    obtain ⟨hkey, hsince, hqueued⟩ := State.of_putBack? h
    subst hkey hsince
    obtain ⟨-, rest, hpasses⟩ := resumed?_eq_some hresumed
    have hmem := hpasses ▸ List.mem_cons_self
    exact ⟨mem_readings.mpr (.inr ⟨_, hmem, rfl⟩), .inr hqueued⟩
  · cases h

/-- No countdown has started from a reading that is ahead of the time. -/
theorem Run.since_le (h : Run c ok past s) : ∀ a ∈ armings past, a.since ≤ s.time := by
  refine h.induct (I := fun past s => ∀ a ∈ armings past, a.since ≤ s.time)
    (fun id time => by simp [armings, log]) fun {past s m s'} hwf hI hstep _ a ha => ?_
  have hle := step_time_le hstep
  rw [armings_concat] at ha
  rcases List.mem_append.mp ha with ha | ha
  · exact Nat.le_trans (hI a ha) hle
  · have hopen := (of_arming? (by simpa using ha)).1
    exact Nat.le_trans (hwf.openReadings_le (s.registeringReadings_subset hopen)) hle

end Host

end CoopScheduler
