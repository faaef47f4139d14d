import CoopScheduler.Proofs.Readings
import CoopScheduler.Proofs.Records
import CoopScheduler.Proofs.Timeline

/-!
# The ideal scheduler

An ideal scheduler keeps the armings in force (`Host.agenda`), with their deadlines on the
unbounded line of true times, and needs no queue: it looks for the least deadline, the one armed
first among equal ones, and compares it with the time (`Verdict.ofAgenda`).

* `Host.Timely` lists what a run has to respect: no critical section falls between a clock
  reading and the section that uses it, periods and ages of countdowns are at most half a turn
  of the clock, and no task is queued again once it was released in its own callback.
* `State.Tracks` relates the queue of countdowns, which lie on a wrapping timeline, and the
  phases of the tasks to the agenda. It is kept by every revision whose order test is exact
  (`State.Tracks.revise`).
* `Host.decides_ideally`: **on a timely run every decision of a pass is the ideal one**, however
  often the clock has wrapped.
-/

namespace CoopScheduler

variable {κ : Type}

/-! ### The ideal decision -/

/-- What there is to do when no event is pending. -/
inductive Verdict where
  /-- Run this timer task. -/
  | run (key : Key)
  /-- Park for this long. -/
  | park (wait : Duration)
deriving DecidableEq

/-- The first task with the least deadline runs once that is reached. Until then, and without
any task, the context parks. -/
def Verdict.ofAgenda (c : Config) (agenda : List Arming) (now : Nat) : Verdict :=
  match agenda.argmin Arming.due with
  | none => .park (max c.maxSleep c.sleepFloor)
  | some a =>
    if a.due ≤ now then .run a.key else .park (max (.ofMicros (a.due - now)) c.sleepFloor)

/-- The decision of a pass that has come to this verdict. -/
def Verdict.decision (s : State κ) : Verdict → Decision κ
  | .run key => .fire key ((s.timers.get? key).bind (·.callback))
  | .park wait => .park wait

/-- How a pass acts on a verdict: it runs the callback that the task holds, or parks. -/
def Verdict.effect (s : State κ) (events : Nat) : Verdict → Effect κ
  | .run key =>
    let callback := (s.timers.get? key).bind (·.callback)
    .callIfPresent callback (.timerReturned events key callback)
  | .park wait => .park wait (.woken events wait)

/-! ### The queue and the agenda -/

namespace State

/-- The queue holds the countdowns of the agenda in the order of their true deadlines, and the
tasks on the agenda are the queued ones. -/
structure Tracks (s : State κ) (agenda : List Arming) : Prop where
  entries_eq : s.timerQueue.entries = (Timeline.ofArmings agenda).map Arming.countdown
  nodup : (agenda.map Arming.key).Nodup
  isTimerQueued_iff : ∀ key, s.isTimerQueued key = true ↔ ∃ a ∈ agenda, a.key = key

variable {s s' : State κ} {agenda : List Arming} {key : Key}

theorem Tracks.without_entries (h : s.Tracks agenda) (ended? : Option Key) :
    (s.without ended?).entries
      = (Timeline.ofArmings (Arming.without agenda ended?)).map Arming.countdown := by
  cases ended? with
  | none => exact h.entries_eq
  | some key =>
    have hnodup : ((Timeline.ofArmings agenda).map Arming.key).Nodup :=
      ((Timeline.perm_ofArmings agenda).map Arming.key).nodup_iff.mpr h.nodup
    have herase : (Timeline.ofArmings agenda).eraseP (·.key = key)
        = Timeline.ofArmings (Arming.without agenda (some key)) := by
      rw [eraseP_eq_filter Arming.key hnodup, Timeline.filter_ofArmings]
      rfl
    by_cases hqueued : s.isTimerQueued key = true
    · rw [State.without, if_pos hqueued, TimerQueue.erase, h.entries_eq, List.eraseP_map, ← herase]
      rfl
    · have hkept : Arming.without agenda (some key) = agenda :=
        List.filter_eq_self.mpr fun a ha => by
          have hne : a.key ≠ key := fun heq => hqueued ((h.isTimerQueued_iff key).mpr ⟨a, ha, heq⟩)
          simpa using hne
      rw [State.without, if_neg hqueued, h.entries_eq, hkept]

/-- The tasks that are left on the agenda when the countdown of one has ended. -/
private theorem Tracks.mem_without (h : s.Tracks agenda) (ended? : Option Key) (key : Key) :
    (∃ a ∈ Arming.without agenda ended?, a.key = key) ↔
      ended? ≠ some key ∧ s.isTimerQueued key = true := by
  rw [h.isTimerQueued_iff]
  cases ended? with
  | none => simp [Arming.without]
  | some ended =>
    simp only [Arming.without, List.mem_filter, decide_eq_true_eq, Option.some.injEq, ne_eq]
    constructor
    · rintro ⟨a, ⟨ha, hne⟩, rfl⟩
      exact ⟨fun heq => hne heq.symm, a, ha, rfl⟩
    · rintro ⟨hne, a, ha, rfl⟩
      exact ⟨a, ⟨ha, fun heq => hne heq.symm⟩, rfl⟩

/-- **Each revision keeps the queue on the agenda**, if the order test is exact for the
countdown that starts, and its task was not queued or is not any more. -/
theorem Tracks.revise {ended? : Option Key} {started? : Option Arming} (h : s.Tracks agenda)
    (hrevised : s.Revised s' ended? started?)
    (hexact : ∀ a, started? = some a → ∀ q ∈ agenda,
      (q.countdown.dueNoLaterThan a.countdown.deadline = true ↔ q.due ≤ a.due))
    (hfree : ∀ a, started? = some a → ended? = some a.key ∨ s.isTimerQueued a.key = false) :
    s'.Tracks (Arming.without agenda ended? ++ started?.toList) := by
  have hsub := Arming.without_sublist agenda ended?
  have hnodup : ((Arming.without agenda ended?).map Arming.key).Nodup :=
    h.nodup.sublist (hsub.map Arming.key)
  have hmem := h.mem_without ended?
  cases started? with
  | none =>
    refine ⟨?_, by simpa using hnodup, fun other => ?_⟩
    · rw [hrevised.timerQueue_eq, Option.toList_none, List.append_nil]
      exact h.without_entries ended?
    · rw [hrevised.isTimerQueued_iff, Option.toList_none, List.append_nil, hmem]
      simp
  | some a =>
    -- What is left of the agenda says nothing about the task whose countdown starts.
    have hnew : ∀ b ∈ Arming.without agenda ended?, b.key ≠ a.key := by
      intro b hb heq
      obtain ⟨hended, hqueued⟩ := (hmem a.key).mp ⟨b, hb, heq⟩
      rcases hfree a rfl with hfree | hfree
      · exact hended hfree
      · rw [hfree] at hqueued
        cases hqueued
    refine ⟨?_, ?_, fun other => ?_⟩
    · have hwithout := h.without_entries ended?
      rw [hrevised.timerQueue_eq, Option.toList_some, Timeline.ofArmings_concat]
      rw [← Timeline.entries_insert fun q hq => hexact a rfl q
        (hsub.subset ((Timeline.perm_ofArmings _).mem_iff.mp hq)), ← hwithout]
      rfl
    · rw [Option.toList_some, List.map_append, List.nodup_append]
      refine ⟨hnodup, by simp, fun k hk k' hk' => ?_⟩
      obtain ⟨b, hb, rfl⟩ := List.mem_map.mp hk
      rw [List.map_singleton, List.mem_singleton] at hk'
      rw [hk']
      exact hnew b hb
    · rw [hrevised.isTimerQueued_iff, ← hmem, Option.toList_some]
      simp only [List.mem_append, List.mem_singleton, Option.some.injEq, exists_eq_left']
      constructor
      · rintro (heq | ⟨b, hb, heq⟩)
        · exact ⟨a, .inr rfl, heq⟩
        · exact ⟨b, .inl hb, heq⟩
      · rintro ⟨b, hb | rfl, heq⟩
        · exact .inr ⟨b, hb, heq⟩
        · exact .inl heq

/-- A state that tracks an agenda decides as the ideal scheduler, at a reading within reach of
all the countdowns. -/
theorem Tracks.evaluate_fst (h : s.Tracks agenda) (hidle : s.eventQueue.pending = []) {now : Nat}
    (hwindow : Timeline.Window agenda now) (c : Config) :
    (s.evaluate c (.ofTime now)).1 = (Verdict.ofAgenda c agenda now).decision s := by
  have hhead := Timeline.head?_ofArmings agenda
  rw [evaluate_of_idle hidle, Verdict.ofAgenda]
  cases hleast : agenda.argmin Arming.due with
  | none =>
    rw [hleast, List.head?_eq_none_iff] at hhead
    have hentries : s.timerQueue.entries = [] := by rw [h.entries_eq, hhead, List.map_nil]
    simp only [popTimer, hentries, popTimerFrom]
    rfl
  | some a =>
    rw [hleast, List.head?_eq_some_iff] at hhead
    obtain ⟨rest, hrest⟩ := hhead
    have ha : a ∈ agenda := List.argmin_mem hleast
    have hentries : s.timerQueue.entries = a.countdown :: rest.map Arming.countdown := by
      rw [h.entries_eq, hrest, List.map_cons]
    -- The head of the queue is not left behind: its task is on the agenda, so it exists.
    obtain ⟨task, hget, -⟩ := State.isTimerQueued_iff.mp
      ((h.isTimerQueued_iff a.key).mpr ⟨a, ha, rfl⟩)
    have hremaining := Arming.remaining_of_age_le (hwindow.since_le a ha) (hwindow.age_le a ha)
    rw [popTimer_of_live hentries hget]
    by_cases hdue : a.due ≤ now
    · have hover : ¬0 < a.countdown.remaining (.ofTime now) := by
        rw [UInt32.lt_iff_toNat_lt, hremaining, UInt32.toNat_zero]
        omega
      simp only [hover, hdue, if_true, if_false, Verdict.decision, hget, Arming.countdown_key,
        Option.bind_some]
    · have hleft : 0 < a.countdown.remaining (.ofTime now) := by
        rw [UInt32.lt_iff_toNat_lt, hremaining, UInt32.toNat_zero]
        omega
      simp only [hleft, hdue, if_true, if_false, Verdict.decision, TimerQueue.remaining?,
        TimerQueue.peek?, hentries, List.head?_cons, Option.map_some, Config.sleepFor,
        Config.timedSleep, hremaining]

end State

namespace Host

variable {c : Config} {past : History κ} {s s' : Host κ} {m : Move κ}

/-- The armings in force are in the order in which they happened. -/
theorem agenda_sublist_armings (past : History κ) : (agenda past).Sublist (armings past) := by
  induction past using List.reverseRecOn with
  | nil => exact List.Sublist.refl _
  | append_singleton past step ih =>
    rw [agenda_concat, armings_concat, revise]
    exact ((Arming.without_sublist _ _).trans ih).append (List.Sublist.refl _)

/-! ### Timely runs -/

/-- What a step has to respect for the decisions to be the ideal ones. -/
structure Timely (past : History κ) (s : Host κ) (m : Move κ) (s' : Host κ) : Prop where
  /-- No critical section falls between a clock reading and the section that uses it. -/
  undisturbed : Undisturbed past s m s'
  /-- At a clock reading no countdown in force began more than half a turn of the clock ago. -/
  age_le : s.readsClock m = true → ∀ a ∈ agenda past, s.time ≤ a.since + Countdown.halfRange.toNat
  /-- No countdown takes longer than that. -/
  short : ∀ a ∈ s.arming? m, a.period ≤ Countdown.halfRange
  /-- No task is queued again once it was released in its own callback. -/
  unreleased : ∀ request ∈ s.performed? m, s.scheduler.revivesReleased request.1 = false

instance (past : History κ) (s : Host κ) (m : Move κ) (s' : Host κ) :
    Decidable (Timely past s m s') :=
  decidable_of_iff
    (Undisturbed past s m s' ∧
      (s.readsClock m = true → ∀ a ∈ agenda past, s.time ≤ a.since + Countdown.halfRange.toNat) ∧
      (∀ a ∈ s.arming? m, a.period ≤ Countdown.halfRange) ∧
      ∀ request ∈ s.performed? m, s.scheduler.revivesReleased request.1 = false)
    ⟨fun ⟨h₁, h₂, h₃, h₄⟩ => ⟨h₁, h₂, h₃, h₄⟩, fun ⟨h₁, h₂, h₃, h₄⟩ => ⟨h₁, h₂, h₃, h₄⟩⟩

/-- What holds all along a timely run. -/
structure OnTime (past : History κ) (s : Host κ) : Prop where
  /-- The queue is the agenda. -/
  tracks : s.scheduler.state.Tracks (agenda past)
  /-- The records are sound. -/
  sound : s.scheduler.state.Sound
  /-- Each countdown in force is the last one that was started for its task. -/
  latest : ∀ a ∈ agenda past, lastArming? past a.key = some a
  since_le : ∀ a ∈ agenda past, a.since ≤ s.time
  short : ∀ a ∈ agenda past, a.period ≤ Countdown.halfRange
  /-- No reading that waits to be used is out of reach of a countdown in force. -/
  window : ∀ r ∈ s.openReadings, Timeline.Window (agenda past) r

/-- A countdown that goes on is still the last one of its task. -/
private theorem OnTime.lastArming?_of_kept (hI : OnTime past s) {b : Arming}
    (hb : b ∈ Arming.without (agenda past) (s.disarmed? m)) :
    lastArming? (past ++ [(s, m)]) b.key = some b := by
  have hkept : b ∈ agenda past := (Arming.without_sublist _ _).subset hb
  -- The task whose countdown starts is not the one that goes on waiting.
  have hne : (s.arming? m).filter (fun a => a.key = b.key) = none := by
    refine Option.filter_eq_none_iff.mpr fun a ha hkey => ?_
    have heq : a.key = b.key := by simpa using hkey
    rcases (of_arming? ha).2 with hended | hqueued
    · rw [hended, heq] at hb
      simpa using (List.mem_filter.mp hb).2
    · rw [heq, (hI.tracks.isTimerQueued_iff b.key).mpr ⟨b, hkept, rfl⟩] at hqueued
      cases hqueued
  rw [lastArming?_concat, hne, Option.none_or]
  exact hI.latest b hkept

/-- The readings that wait after a timely step are within reach of the countdowns in force. -/
private theorem OnTime.window_step (hwf : s.WellFormed c) (hI : OnTime past s)
    (h : s.step m = some s') (hok : Timely past s m s') {r : Nat} (hr : r ∈ s'.openReadings) :
    Timeline.Window (agenda (past ++ [(s, m)])) r := by
  -- After a section no reading is open. Other steps leave the agenda alone and may take one.
  cases hsection : s.entersSection m with
  | true =>
    rw [hok.undisturbed hsection] at hr
    cases hr
  | false =>
    obtain ⟨harming, hdisarmed⟩ := of_not_entersSection hsection
    have hagenda : agenda (past ++ [(s, m)]) = agenda past := by
      rw [agenda_concat, revise, harming, hdisarmed]
      exact List.append_nil _
    rw [hagenda]
    rcases readings_step id hwf h hr with hr | ⟨rfl, hreads⟩
    · exact hI.window r hr
    · exact ⟨hI.since_le, hok.age_le hreads, hI.short⟩

/-- **A timely step stays on time.** -/
theorem OnTime.step (hwf : s.WellFormed c) (hI : OnTime past s) (h : s.step m = some s')
    (hok : Timely past s m s') : OnTime (past ++ [(s, m)]) s' := by
  have hrevised := step_revised hwf h
    (fun q hq => by
      rw [hI.tracks.entries_eq] at hq
      obtain ⟨a, ha, rfl⟩ := List.mem_map.mp hq
      exact (hI.tracks.isTimerQueued_iff a.key).mpr
        ⟨a, (Timeline.perm_ofArmings _).mem_iff.mp ha, rfl⟩)
    fun key task hget hreleased => hI.sound.not_queued hget hreleased
  have hmem {b : Arming} (hb : b ∈ agenda (past ++ [(s, m)])) :
      b ∈ Arming.without (agenda past) (s.disarmed? m) ∨ s.arming? m = some b := by
    rw [agenda_concat, revise, List.mem_append, Option.mem_toList] at hb
    exact hb
  have hkept {b : Arming} (hb : b ∈ Arming.without (agenda past) (s.disarmed? m)) :
      b ∈ agenda past :=
    (Arming.without_sublist _ _).subset hb
  have hopen {b : Arming} (hb : s.arming? m = some b) : b.since ∈ s.openReadings :=
    s.registeringReadings_subset (of_arming? hb).1
  have hle := step_time_le h
  constructor
  · rw [agenda_concat]
    refine hI.tracks.revise hrevised (fun a ha q hq => ?_) fun a ha => (of_arming? ha).2
    exact (hI.window a.since (hopen ha)).dueNoLaterThan_iff (hok.short a ha) hq
  · exact step_sound h hI.sound hok.unreleased
  · intro b hb
    rcases hmem hb with hb | hb
    · exact hI.lastArming?_of_kept hb
    · rw [lastArming?_concat, hb]
      simp [Option.filter]
  · intro b hb
    rcases hmem hb with hb | hb
    · exact Nat.le_trans (hI.since_le b (hkept hb)) hle
    · exact Nat.le_trans (hwf.openReadings_le (hopen hb)) hle
  · intro b hb
    rcases hmem hb with hb | hb
    · exact hI.short b (hkept hb)
    · exact hok.short b hb
  · exact fun r hr => hI.window_step hwf h hok hr

/-- A timely run stays on time. -/
theorem Run.onTime (h : Run c Timely past s) : OnTime past s := by
  refine h.induct (fun id time => ?_) fun hwf hI hstep hok => hI.step hwf hstep hok
  constructor
  · refine ⟨rfl, List.nodup_nil, fun key => ?_⟩
    simp [create, Scheduler.create, State.ofConfig, State.isTimerQueued, Arena.get?, agenda]
  · intro key task hget
    simp [create, Scheduler.create, State.ofConfig, Arena.get?] at hget
  · simp [agenda]
  · simp [agenda]
  · simp [agenda]
  · simp [openReadings, readings, create]

/-! ### The decisions -/

/-- **Every decision is the ideal one.** On a timely run, a pass that finds no event pending
acts on the verdict about the armings in force at the true time of its reading: the queued tasks
with the true deadlines of their last countdowns. -/
theorem decides_ideally (h : Run c Timely past s) {events readAt : Nat} {now : Tick}
    {rest : List (Frame κ)} (hpasses : s.passes = .ready (.evaluate events now) readAt :: rest)
    (hidle : s.scheduler.state.eventQueue.pending = []) :
    (∀ key, s.scheduler.state.isTimerQueued key = true ↔ ∃ a ∈ agenda past, a.key = key) ∧
      (agenda past).Sublist (armings past) ∧
      (∀ a ∈ agenda past, lastArming? past a.key = some a) ∧
      (s.scheduler.resume (.evaluate events now)).1
        = (Verdict.ofAgenda c (agenda past) readAt).effect s.scheduler.state events := by
  have hwf := h.wellFormed
  have hI := h.onTime
  obtain ⟨rfl, -⟩ := hwf.evaluate_now hpasses
  have hopen : readAt ∈ s.openReadings :=
    mem_readings.mpr (.inr ⟨_, hpasses ▸ List.mem_cons_self, rfl⟩)
  refine ⟨hI.tracks.isTimerQueued_iff, agenda_sublist_armings past, hI.latest, ?_⟩
  have hdecision := hI.tracks.evaluate_fst hidle (hI.window readAt hopen) c
  rw [Scheduler.resume, hwf.config_eq]
  revert hdecision
  generalize s.scheduler.state.evaluate c (.ofTime readAt) = decided
  obtain ⟨decision, state⟩ := decided
  intro hdecision
  cases hverdict : Verdict.ofAgenda c (agenda past) readAt with
  | run key =>
    rw [hverdict] at hdecision
    simp only at hdecision
    rw [hdecision]
    rfl
  | park wait =>
    rw [hverdict] at hdecision
    simp only at hdecision
    rw [hdecision]
    rfl

/-- The clock starts over while three tasks wait, two of them due at the same time; the one that
was armed first runs. -/
theorem decides_ideally_across_wrap :
    ∃ (past : History Nat) (s : Host Nat) (rest : List (Frame Nat)), Run {} Timely past s ∧
      s.passes = .ready (.evaluate 0 (.ofTime 4294967350)) 4294967350 :: rest ∧
      s.scheduler.state.eventQueue.pending = [] ∧
      (s.scheduler.resume (.evaluate 0 (.ofTime 4294967350))).1
        = .call 20 (.timerReturned 0 ⟨1, 0⟩ (some 20)) := by
  obtain ⟨past, s, hrun, hpasses, hidle, hverdict⟩ : ∃ (past : History Nat) (s : Host Nat),
      Run {} Timely past s ∧
      s.passes = [.ready (.evaluate 0 (.ofTime 4294967350)) 4294967350] ∧
      s.scheduler.state.eventQueue.pending = [] ∧
      (Verdict.ofAgenda {} (agenda past) 4294967350).effect s.scheduler.state 0
        = .call 20 (.timerReturned 0 ⟨1, 0⟩ (some 20)) :=
    ⟨_, _, Run.of_play ⟨0⟩ 4294967290
      [.ask (.addTimer 10 (.after 100) true), .perform 0,
       .ask (.addTimer 20 (.after 50) false), .perform 0,
       .ask (.addTimer 30 (.after 50) false), .perform 0,
       .elapse 60, .enter, .resume, .resume] rfl, rfl, rfl, rfl⟩
  obtain ⟨-, -, -, heffect⟩ := decides_ideally hrun hpasses hidle
  exact ⟨past, s, [], hrun, hpasses, hidle, heffect.trans hverdict⟩

end Host

end CoopScheduler
