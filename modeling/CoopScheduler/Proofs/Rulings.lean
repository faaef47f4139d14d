import CoopScheduler.Proofs.Countdowns
import CoopScheduler.Proofs.Executions
import CoopScheduler.Proofs.Reissue

/-!
# The last ruling on a running timer wins

While a timer runs, its callback and other contexts may reschedule it, take it off the queue and
rearm it, as often as they like. Such a request is a **ruling** if it is not refused
(`Host.ruling?`), and what the rulings so far leave of the task is its **fate** (`Fate.ofRulings`):
that is told by the last of them and the period that is stored then.

* `TimerTask.Meets`: what the record of the task looks like under its fate, one lemma for each
  ruling.
* `State.Ruled`: record and timer queue are as the rulings since the firing say. Each step keeps
  this up, whatever it does to other tasks (`Host.Path.ruled`).
* `Host.last_ruling_wins`: **the put-back after the run follows the last ruling**, and begins a new
  countdown of a repeating task only if there was none.
* `Host.putBack_unruled`: a task that had been released when it was fired, and one that has got the
  key of a countdown that was left behind, are put back otherwise.
-/

namespace CoopScheduler

variable {κ : Type}

/-! ### Rulings -/

/-- A request about a running task that succeeds. -/
inductive Ruling where
  /-- The countdown begins at this time with another period. -/
  | reschedule (period : Period) (since : Nat)
  /-- The countdown begins at this time with the period that is stored. -/
  | rearm (since : Nat)
  /-- The task waits for nothing. -/
  | remove
deriving DecidableEq

/-- What becomes of a running task. -/
inductive Fate where
  /-- It is put back as its record says. -/
  | undecided
  /-- It is queued with a countdown that began at `since`. -/
  | queued (since : Nat) (micros : UInt32)
  /-- It waits for nothing. -/
  | idle
deriving DecidableEq

namespace Ruling

/-- The period that is stored after a ruling. -/
def period (stored : Period) : Ruling → Period
  | .reschedule period _ => period
  | _ => stored

/-- What a ruling leaves of a task, if `stored` is the period afterwards. -/
def fate (stored : Period) : Ruling → Fate
  | .reschedule _ since | .rearm since =>
    match stored with
    | .after micros => .queued since micros
    | .never => .idle
  | .remove => .idle

/-- The period that is stored after some rulings. -/
def storedPeriod (stored : Period) (rulings : List Ruling) : Period :=
  rulings.foldl Ruling.period stored

theorem storedPeriod_concat (stored : Period) (rulings : List Ruling) (ruling : Ruling) :
    storedPeriod stored (rulings ++ [ruling]) = ruling.period (storedPeriod stored rulings) := by
  rw [storedPeriod, List.foldl_append]
  rfl

end Ruling

/-- What the rulings so far leave of a task that was fired with the period `stored`. -/
def Fate.ofRulings (stored : Period) (rulings : List Ruling) : Fate :=
  match rulings.getLast? with
  | none => .undecided
  | some ruling => ruling.fate (Ruling.storedPeriod stored rulings)

/-- Each ruling decides. -/
theorem Ruling.fate_ne (ruling : Ruling) (stored : Period) : ruling.fate stored ≠ .undecided := by
  cases ruling <;> cases stored <;> simp [fate]

theorem Fate.ofRulings_concat (stored : Period) (rulings : List Ruling) (ruling : Ruling) :
    Fate.ofRulings stored (rulings ++ [ruling])
      = ruling.fate (ruling.period (Ruling.storedPeriod stored rulings)) := by
  rw [ofRulings, List.getLast?_concat, Ruling.storedPeriod_concat]

theorem Fate.ofRulings_eq_undecided_iff {stored : Period} {rulings : List Ruling} :
    Fate.ofRulings stored rulings = .undecided ↔ rulings = [] := by
  rcases rulings.eq_nil_or_concat with rfl | ⟨rulings, last, rfl⟩
  · simp [ofRulings]
  · rw [List.concat_eq_append, ofRulings_concat]
    simp [last.fate_ne]

namespace TimerTask

/-! ### Records under a fate -/

/-- What the record of a running task looks like, by the fate of the task. -/
def Meets (t : TimerTask κ) : Fate → Prop
  | .undecided => t.phase = .running ∧ t.rearm = t.autoRepeat
  | .queued since micros =>
    t.phase = .queued ∧ t.origin = .ofTime since ∧ t.period = .after micros
  | .idle => t.phase ≠ .queued ∧ (t.phase = .running → t.rearm = false)

variable {t : TimerTask κ}

theorem meets_started (t : TimerTask κ) : t.started.Meets .undecided :=
  ⟨rfl, rfl⟩

theorem unqueued_released (t : TimerTask κ) : t.unqueued.released = t.released := by
  unfold unqueued
  split <;> rfl

theorem settled_period (t : TimerTask κ) (callback : Option κ) (after : Tick) :
    (t.settled callback after).period = t.period := by
  unfold settled
  split
  · split <;> rfl
  · rfl

theorem meets_unqueued (t : TimerTask κ) (stored : Period) :
    t.unqueued.Meets (Ruling.remove.fate stored) :=
  ⟨t.unqueued_phase_ne, rearm_of_unqueued⟩

/-- A task whose countdown was started anew is queued, or idle if its period is `never`. -/
theorem meets_restarted (t : TimerTask κ) (period : Period) (since : Nat) {ruling : Ruling}
    (hruling : ruling = .reschedule period since ∨ ruling = .rearm since) :
    (t.restarted period (.ofTime since)).Meets (ruling.fate period) := by
  cases period with
  | after micros => rcases hruling with rfl | rfl <;> exact ⟨rfl, rfl, rfl⟩
  | never =>
    have hidle : (t.restarted .never (.ofTime since)).Meets .idle :=
      ⟨t.unqueued_phase_ne, rearm_of_restarted⟩
    rcases hruling with rfl | rfl <;> exact hidle

theorem Meets.queued_iff {fate : Fate} (h : t.Meets fate) :
    t.phase = .queued ↔ ∃ since micros, fate = .queued since micros := by
  cases fate with
  | undecided => simp [h.1]
  | queued since micros => simp [h.1]
  | idle => simp [h.1]

/-- The fate of a task that is put back with the reading `readAt`, if it was fired with the record
`fired`: without a ruling, a task that repeats is rearmed. -/
def finalFate (fired : TimerTask κ) (rulings : List Ruling) (readAt : Nat) : Fate :=
  if rulings = [] then
    if fired.autoRepeat then (Ruling.rearm readAt).fate fired.period else .idle
  else
    .ofRulings fired.period rulings

/-- A task that was decided about is as its fate says once it is put back. -/
theorem Meets.settled {fate : Fate} (h : t.Meets fate) (hfate : fate ≠ .undecided)
    (callback : Option κ) (after : Tick) :
    (t.settled callback after).Meets fate ∧ (t.settled callback after).phase ≠ .running := by
  cases fate with
  | undecided => exact absurd rfl hfate
  | queued since micros =>
    obtain ⟨hphase, horigin, hperiod⟩ := h
    simp [TimerTask.settled, hphase, Meets, horigin, hperiod]
  | idle =>
    obtain ⟨hphase, hrearm⟩ := h
    cases hrunning : t.phase with
    | inert => simp [TimerTask.settled, hrunning, Meets]
    | queued => exact absurd hrunning hphase
    | running => simp [TimerTask.settled, hrunning, hrearm hrunning, Meets]

end TimerTask

namespace State

/-- The task `key` is queued once, with a countdown that began at `since`. -/
structure QueuedFrom (s : State κ) (key : Key) (since : Nat) (micros : UInt32) : Prop where
  entries_eq : s.timerQueue.entries.filter (·.key = key) = [⟨key, .ofTime since, micros⟩]
  record : ∃ task, s.timers.get? key = some task ∧ task.phase = .queued ∧
    task.origin = .ofTime since ∧ task.period = .after micros

/-- The task `key` waits for nothing. -/
structure Idle (s : State κ) (key : Key) : Prop where
  entries_eq : s.timerQueue.entries.filter (·.key = key) = []
  record : ∃ task, s.timers.get? key = some task ∧ task.phase = .inert

/-- The task `key`, which was fired with the record `fired`, is as the rulings since then say. -/
structure Ruled (s : State κ) (key : Key) (fired : TimerTask κ) (rulings : List Ruling) : Prop where
  single : s.Single key
  record : ∃ task, s.timers.get? key = some task ∧ task.released = false ∧
    task.autoRepeat = fired.autoRepeat ∧
    task.period = Ruling.storedPeriod fired.period rulings ∧
    task.Meets (.ofRulings fired.period rulings)
  entry : ∀ {since micros}, Fate.ofRulings fired.period rulings = .queued since micros →
    ⟨key, .ofTime since, micros⟩ ∈ s.timerQueue.entries

/-- What has become of the task `key` once it is put back with the reading `readAt`, if it was fired
with the record `fired` and these were the rulings while it ran. -/
structure Decided (s : State κ) (key : Key) (fired : TimerTask κ) (rulings : List Ruling)
    (readAt : Nat) : Prop where
  /-- It is in the queue at most once. -/
  single : s.countdowns key ≤ 1
  /-- If it was rescheduled last, it is queued with that period from the reading of the request. -/
  rescheduled : ∀ {micros since}, rulings.getLast? = some (.reschedule (.after micros) since) →
    s.QueuedFrom key since micros
  /-- If it was rearmed last, it is queued with the period that is stored. -/
  rearmed : ∀ {since micros}, rulings.getLast? = some (.rearm since) →
    Ruling.storedPeriod fired.period rulings = .after micros → s.QueuedFrom key since micros
  /-- If it was taken off the queue last, it waits for nothing. -/
  removed : rulings.getLast? = some .remove → s.Idle key
  /-- If the last ruling has left it the period `never`, it waits for nothing either. -/
  never : rulings ≠ [] → Ruling.storedPeriod fired.period rulings = .never → s.Idle key
  /-- If there was no ruling and it repeats, it is queued from the reading after its callback. -/
  repeated : rulings = [] → fired.autoRepeat = true →
    ∃ micros, fired.period = .after micros ∧ s.QueuedFrom key readAt micros
  /-- If there was no ruling and it does not repeat, it waits for nothing. -/
  unrepeated : rulings = [] → fired.autoRepeat = false → s.Idle key

/-- Whether the task `key` is as a fate says. -/
def Follows (s : State κ) (key : Key) : Fate → Prop
  | .undecided => False
  | .queued since micros => s.QueuedFrom key since micros
  | .idle => s.Idle key

variable {s : State κ} {key : Key} {task : TimerTask κ}

theorem Follows.decided {fired : TimerTask κ} {rulings : List Ruling} {readAt : Nat}
    (h : s.Follows key (fired.finalFate rulings readAt)) (hsingle : s.countdowns key ≤ 1)
    (hperiod : ∃ micros, fired.period = .after micros) :
    s.Decided key fired rulings readAt := by
  rcases rulings.eq_nil_or_concat with rfl | ⟨rulings, last, rfl⟩
  · obtain ⟨micros, hmicros⟩ := hperiod
    constructor
    · exact hsingle
    · simp
    · simp
    · simp
    · simp
    · intro _ hrepeats
      have hfinal : fired.finalFate [] readAt = .queued readAt micros := by
        simp [TimerTask.finalFate, hrepeats, Ruling.fate, hmicros]
      rw [hfinal] at h
      exact ⟨micros, hmicros, h⟩
    · intro _ hrepeats
      have hfinal : fired.finalFate [] readAt = .idle := by simp [TimerTask.finalFate, hrepeats]
      rwa [hfinal] at h
  · rw [List.concat_eq_append] at h ⊢
    rw [TimerTask.finalFate, if_neg (by simp), Fate.ofRulings_concat,
      ← Ruling.storedPeriod_concat] at h
    constructor
    · exact hsingle
    · intro micros since hlast
      obtain rfl : last = .reschedule (.after micros) since := by simpa using hlast
      rwa [Ruling.storedPeriod_concat] at h
    · intro since micros hlast hstored
      obtain rfl : last = .rearm since := by simpa using hlast
      rwa [hstored] at h
    · intro hlast
      obtain rfl : last = .remove := by simpa using hlast
      exact h
    · intro _ hstored
      rw [hstored] at h
      cases last <;> exact h
    · simp
    · simp

theorem Single.queuedFrom (h : s.Single key) (hget : s.timers.get? key = some task) {since : Nat}
    {micros : UInt32} (hmeets : task.Meets (.queued since micros))
    (hmem : ⟨key, .ofTime since, micros⟩ ∈ s.timerQueue.entries) :
    s.QueuedFrom key since micros := by
  refine ⟨?_, task, hget, hmeets⟩
  rw [Single, if_pos (isTimerQueued_iff.mpr ⟨task, hget, hmeets.1⟩), countdowns,
    List.countP_eq_length_filter] at h
  have hfilter : (⟨key, .ofTime since, micros⟩ : Countdown)
      ∈ s.timerQueue.entries.filter (·.key = key) := List.mem_filter.mpr ⟨hmem, by simp⟩
  obtain ⟨c, hc⟩ := List.length_eq_one_iff.mp (Nat.le_antisymm h (List.length_pos_of_mem hfilter))
  rw [hc, List.mem_singleton] at hfilter
  rw [hc, hfilter]

theorem Single.idle (h : s.Single key) (hget : s.timers.get? key = some task)
    (hphase : task.phase = .inert) : s.Idle key := by
  have hidle : s.isTimerQueued key = false := by simp [isTimerQueued, hget, hphase]
  have hnone := h.countdowns_eq_zero hidle
  rw [countdowns, List.countP_eq_length_filter, List.length_eq_zero_iff] at hnone
  exact ⟨hnone, task, hget, hphase⟩

end State

namespace Host

/-- The ruling on a task that a move carries out. A rearm that is refused is none. -/
def ruling? (key : Key) (s : Host κ) (m : Move κ) : Option Ruling :=
  match s.performed? m with
  | some (.reschedule handle period, since) =>
    if s.scheduler.owns handle.owner ∧ handle.key = key then some (.reschedule period since)
    else none
  | some (.removeTimer handle, _) =>
    if s.scheduler.owns handle.owner ∧ handle.key = key then some .remove else none
  | some (.rearm handle, since) =>
    if s.scheduler.owns handle.owner ∧ handle.key = key ∧
        (s.scheduler.rearm handle (.ofTime since)).1.reply = .done then
      some (.rearm since)
    else
      none
  | _ => none

/-- Whether a move requests that a task is released. -/
def asksRelease (s : Host κ) (m : Move κ) (key : Key) : Bool :=
  match s.performed? m with
  | some (.releaseTimer handle, _) => s.scheduler.owns handle.owner && handle.key = key
  | _ => false

/-- Whether a move puts a task back. -/
def putsBack (s : Host κ) (m : Move κ) (key : Key) : Bool :=
  match s.resumed? m with
  | some (.settle _ own _ _, _) => own = key
  | _ => false

/-- The task is neither fired nor put back nor released. -/
abbrev StillRunning (key : Key) : Condition κ :=
  fun _ s m _ => s.fires m key = false ∧ s.putsBack m key = false ∧ s.asksRelease m key = false

variable {c : Config} {ok : Condition κ} {past later : History κ} {s s' : Host κ} {m : Move κ}
  {key : Key}

/-- A rearm is refused exactly if the task is queued. -/
theorem rearm_reply {handle : TimerHandle} (howns : s.scheduler.owns handle.owner = true)
    (now : Tick) : (s.scheduler.rearm handle now).1.reply
      = if s.scheduler.state.isTimerQueued handle.key then
          .refused (.timerAlreadyQueued s.scheduler.name)
        else
          .done := by
  rw [Scheduler.rearm, if_pos howns]
  split
  · next hnone => rw [if_pos (State.rearmTimer_eq_none_iff.mp hnone)]
  · next hsome =>
    rw [if_neg fun hqueued => ?_]
    rw [State.rearmTimer_eq_none_iff.mpr hqueued] at hsome
    cases hsome

/-- A move that does not intervene is no ruling. -/
theorem ruling?_eq_none (hlive : (s.scheduler.state.timers.get? key).isSome = true)
    (h : s.intervened? m ≠ some key) : s.ruling? key m = none := by
  unfold ruling?
  split
  · next handle period since hperformed =>
    refine if_neg ?_
    rintro ⟨howns, rfl⟩
    exact h (by simp [intervened?, hperformed, Scheduler.intervened?, howns, hlive])
  · next handle since hperformed =>
    refine if_neg ?_
    rintro ⟨howns, rfl⟩
    exact h (by simp [intervened?, hperformed, Scheduler.intervened?, howns, hlive])
  · next handle since hperformed =>
    refine if_neg ?_
    rintro ⟨howns, rfl, hreply⟩
    rw [rearm_reply howns] at hreply
    obtain ⟨task, hget⟩ := Option.isSome_iff_exists.mp hlive
    have hphase : task.phase ≠ .queued := by
      rintro hphase
      simp [State.isTimerQueued, hget, hphase] at hreply
    exact h (by simp [intervened?, hperformed, Scheduler.intervened?, howns, hget, hphase])
  · rfl

/-- A countdown that is started is in the queue. -/
theorem mem_entries_of_arming? (hwf : s.WellFormed c) (h : s.step m = some s') {a : Arming}
    (harming : s.arming? m = some a) : a.countdown ∈ s'.scheduler.state.timerQueue.entries := by
  obtain ⟨kept, -, hqueue⟩ := step_entries hwf h
  rw [hqueue, harming]
  exact TimerQueue.mem_insert.mpr (.inl rfl)

/-- A countdown of a task that exists stays in the queue if the task is let alone. -/
theorem mem_entries_of_kept (h : s.step m = some s')
    (hlive : (s.scheduler.state.timers.get? key).isSome = true) (hfires : s.fires m key = false)
    (hintervened : s.intervened? m ≠ some key) {q : Countdown} (hkey : q.key = key)
    (hq : q ∈ s.scheduler.state.timerQueue.entries) :
    q ∈ s'.scheduler.state.timerQueue.entries := by
  subst hkey
  by_contra hleft
  rcases countdown_leaves h hq hleft with hnow | hfired | hgone
  · exact hintervened hnow
  · rw [fires_iff.mpr hfired] at hfires
    cases hfires
  · rw [hgone] at hlive
    cases hlive

/-- A task that exists is not added. -/
theorem added?_ne (hlive : (s.scheduler.state.timers.get? key).isSome = true) (t : TimerTask κ) :
    s.added? m ≠ some (key, t) := by
  intro hadded
  obtain ⟨value, timers, hinsert⟩ := insert_of_added? hadded
  rw [Arena.get?_eq_none_of_insert hinsert] at hlive
  cases hlive

/-- A step that carries out a ruling. -/
private theorem ruled_of_ruling {fired task : TimerTask κ} {rulings : List Ruling} {ruling : Ruling}
    (hwf : s.WellFormed c) (hstep : s.step m = some s') (hruling : s.ruling? key m = some ruling)
    (hsingle : s'.scheduler.state.Single key)
    (hget : s'.scheduler.state.timers.get? key = some task) (hreleased : task.released = false)
    (hrepeats : task.autoRepeat = fired.autoRepeat)
    (hperiod : task.period = ruling.period (Ruling.storedPeriod fired.period rulings))
    (hmeets : task.Meets (ruling.fate task.period))
    (harming : ∀ {since micros}, ruling.fate task.period = .queued since micros →
      s.arming? m = some ⟨key, since, micros⟩) :
    s'.scheduler.state.Ruled key fired (rulings ++ (s.ruling? key m).toList) := by
  rw [hruling, Option.toList_some]
  refine ⟨hsingle, ⟨task, hget, hreleased, hrepeats, ?_, ?_⟩, fun hqueued => ?_⟩
  · rw [hperiod, Ruling.storedPeriod_concat]
  · rwa [Fate.ofRulings_concat, ← hperiod]
  · rw [Fate.ofRulings_concat, ← hperiod] at hqueued
    exact mem_entries_of_arming? hwf hstep (harming hqueued)

/-- **One step**: a ruling is followed, and nothing else makes a difference. -/
theorem step_ruled {fired : TimerTask κ} {rulings : List Ruling} (hwf : s.WellFormed c)
    (h : s.scheduler.state.Ruled key fired rulings) (hstep : s.step m = some s')
    (hok : StillRunning key past s m s') :
    s'.scheduler.state.Ruled key fired (rulings ++ (s.ruling? key m).toList) := by
  obtain ⟨hsingle, ⟨task, hget, hreleased, hrepeats, hperiod, hmeets⟩, hentry⟩ := h
  obtain ⟨hfires, hback, hrelease⟩ := hok
  have hlive : (s.scheduler.state.timers.get? key).isSome = true := by simp [hget]
  have hsingle' := step_single hwf hstep (fun _ => hsingle)
    fun t ht => absurd ht (added?_ne hlive t)
  have hrecord := step_timer hwf hstep key
  rw [hget] at hrecord
  generalize hafter : s'.scheduler.state.timers.get? key = task'? at hrecord
  cases hrecord with
  | kept _ _ hintervened _ _ =>
    rw [ruling?_eq_none hlive hintervened, Option.toList_none, List.append_nil]
    refine ⟨hsingle' (by simp [hafter]), ⟨task, hafter, hreleased, hrepeats, hperiod, hmeets⟩, ?_⟩
    exact fun hqueued => mem_entries_of_kept hstep hlive hfires hintervened rfl (hentry hqueued)
  | @rescheduled _ handle period since hperformed howns hkey =>
    have hruling : s.ruling? key m = some (.reschedule period since) := by
      simp [ruling?, hperformed, howns, hkey]
    refine ruled_of_ruling hwf hstep hruling (hsingle' (by simp [hafter])) hafter
      (task.unqueued_released.trans hreleased) (task.unqueued_autoRepeat.trans hrepeats) rfl
      (task.meets_restarted period since (.inl rfl)) fun hqueued => ?_
    cases period with
    | never => cases hqueued
    | after micros =>
      cases hqueued
      simp [arming?, hperformed, Scheduler.arming?, howns, hkey, hget]
  | @removed _ handle since hperformed howns hkey =>
    have hruling : s.ruling? key m = some .remove := by simp [ruling?, hperformed, howns, hkey]
    refine ruled_of_ruling hwf hstep hruling (hsingle' (by simp [hafter])) hafter
      (task.unqueued_released.trans hreleased) (task.unqueued_autoRepeat.trans hrepeats)
      (task.unqueued_period.trans hperiod) (task.meets_unqueued _) fun hqueued => ?_
    cases hqueued
  | @rearmed _ handle since hperformed howns hkey hphase =>
    have hidle : s.scheduler.state.isTimerQueued key = false := by
      simp [State.isTimerQueued, hget, hphase]
    have hruling : s.ruling? key m = some (.rearm since) := by
      simp [ruling?, hperformed, howns, hkey, rearm_reply howns, hidle]
    refine ruled_of_ruling hwf hstep hruling (hsingle' (by simp [hafter])) hafter
      (task.unqueued_released.trans hreleased) (task.unqueued_autoRepeat.trans hrepeats) hperiod
      (task.meets_restarted task.period since (.inr rfl)) fun {since' micros} hqueued => ?_
    change Ruling.fate task.period (.rearm since) = _ at hqueued
    cases htask : task.period with
    | never =>
      rw [htask] at hqueued
      cases hqueued
    | after micros' =>
      rw [htask] at hqueued
      cases hqueued
      simp [arming?, hperformed, Scheduler.arming?, howns, hkey, hget, hidle, htask, Period.micros?]
  | released _ hperformed howns hkey => simp [asksRelease, hperformed, howns, hkey] at hrelease
  | fired _ hfired =>
    rw [hfires] at hfired
    cases hfired
  | settled _ hresumed => simp [putsBack, hresumed] at hback

/-- A path leads to each host that it has come by. -/
theorem Path.of_append_cons {t : Host κ} {n : Move κ} {before rest : History κ}
    (h : Path ok past s (before ++ (t, n) :: rest) s') : Path ok past s before t := by
  generalize hlater : before ++ (t, n) :: rest = later at h
  induction h generalizing rest with
  | nil => simp at hlater
  | snoc path hstep hok ih =>
    rcases rest.eq_nil_or_concat with rfl | ⟨rest, last, rfl⟩
    · obtain ⟨rfl, hlast⟩ := List.append_inj' hlater rfl
      cases hlast
      exact path
    · rw [List.concat_eq_append, ← List.cons_append, ← List.append_assoc] at hlater
      exact ih (List.append_inj' hlater rfl).1

/-- **While the task runs**, it is as the rulings say. -/
theorem Path.ruled {fired : TimerTask κ} (hwf : s.WellFormed c)
    (h : s.scheduler.state.Ruled key fired []) (hpath : Path (StillRunning key) past s later s') :
    s'.WellFormed c ∧ s'.scheduler.state.Ruled key fired (log (ruling? key) later) := by
  induction hpath with
  | nil => exact ⟨hwf, h⟩
  | snoc _ hstep hok ih =>
    rw [log_concat]
    exact ⟨ih.1.step hstep, step_ruled ih.1 ih.2 hstep hok⟩

/-! ### The firing and the put-back -/

/-- A task that is added and queued at once has a period. -/
private theorem exists_micros_of_added? {t : TimerTask κ} (h : s.added? m = some (key, t))
    (hphase : t.phase = .queued) : ∃ micros, t.period = .after micros := by
  unfold added? at h
  split at h
  · next op since hperformed =>
    unfold Scheduler.added? at h
    split at h
    · next callback period autoRepeat =>
      split at h
      · cases h
        cases period with
        | never => cases hphase
        | after micros => exact ⟨micros, rfl⟩
      · cases h
    · cases h
  · cases h

/-- A task that is queued has a period. -/
theorem Run.exists_micros (h : Run c ok past s) {task : TimerTask κ}
    (hget : s.scheduler.state.timers.get? key = some task) (hphase : task.phase = .queued) :
    ∃ micros, task.period = .after micros := by
  revert hget hphase
  refine h.inductAlong (I := fun _ s => ∀ {task : TimerTask κ},
    s.scheduler.state.timers.get? key = some task → task.phase = .queued →
      ∃ micros, task.period = .after micros) (fun id time task hget _ => ?_) ?_
  · simp [create, Scheduler.create, State.ofConfig, Arena.get?] at hget
  intro past s m s' hrun hI hstep _ task' hafter hphase
  have hrecord := step_timer hrun.wellFormed hstep key
  generalize hbefore : s.scheduler.state.timers.get? key = t? at hrecord
  rw [hafter] at hrecord
  generalize hsome : some task' = t'? at hrecord
  cases hrecord with
  | kept _ _ _ _ _ =>
    subst hsome
    exact hI hbefore hphase
  | added t hadded =>
    cases hsome
    exact exists_micros_of_added? hadded hphase
  | rescheduled t _ _ _ =>
    cases hsome
    exact TimerTask.exists_micros_of_restarted hphase
  | removed t _ _ _ =>
    cases hsome
    exact absurd hphase t.unqueued_phase_ne
  | rearmed t _ _ _ _ =>
    cases hsome
    exact TimerTask.exists_micros_of_restarted hphase
  | released t _ _ _ =>
    split at hsome
    · next hrunning =>
      cases hsome
      simp [hrunning] at hphase
    · cases hsome
  | fired t _ =>
    cases hsome
    cases hphase
  | settled t _ =>
    split at hsome
    · cases hsome
    · cases hsome
      rw [TimerTask.settled_period]
      rcases TimerTask.queued_of_settled hphase with hqueued | ⟨micros, -, -, hperiod⟩
      · exact hI hbefore hqueued
      · exact ⟨micros, hperiod⟩

/-- A task that fires was queued, and its countdown is off the queue afterwards. -/
theorem ruled_of_fires (h : Run c ok past s) (htraceable : TraceableKey ok past key)
    (hfires : s.fires m key = true) (hstep : s.step m = some s') {task : TimerTask κ}
    (hget : s.scheduler.state.timers.get? key = some task) (hreleased : task.released = false) :
    s'.scheduler.state.Ruled key task [] ∧ ∃ micros, task.period = .after micros := by
  have hqueued := isTimerQueued_of_fires h htraceable hfires
  obtain ⟨task', hget', hphase⟩ := State.isTimerQueued_iff.mp hqueued
  obtain rfl : task = task' := Option.some.inj (hget.symm.trans hget')
  have hlive : (s.scheduler.state.timers.get? key).isSome = true := by simp [hget]
  have hsingle := h.single_of_traceable htraceable hlive
  have hafter : s'.scheduler.state.timers.get? key = some task.started := by
    obtain ⟨⟨fired, readAt⟩, hfired, hkey⟩ := (Option.any_eq_true _ _).mp hfires
    obtain rfl : fired = key := by simpa using hkey
    obtain ⟨events, now, callback, rest, rfl, hpasses, hfire⟩ := fired?_eq_some hfired
    have hstate : s'.scheduler.state
        = (s.scheduler.state.evaluate s.scheduler.config now).2 := by
      simp only [step, hpasses, resumeFrame, Option.some.injEq] at hstep
      rw [← hstep]
      exact s.scheduler.resume_evaluate_state events now
    rw [hstate, State.evaluate_get?, if_pos (by rw [hfire]; rfl), hget]
    rfl
  have hsingle' := step_single h.wellFormed hstep (fun _ => hsingle)
    (fun t ht => absurd ht (added?_ne hlive t)) (by simp [hafter])
  refine ⟨⟨hsingle', ⟨task.started, hafter, hreleased, rfl, rfl, task.meets_started⟩, ?_⟩,
    h.exists_micros hget hphase⟩
  exact fun hqueued => by cases hqueued

/-- A task about which nothing was decided is put back as its record says. -/
private theorem follows_of_unruled {fired task : TimerTask κ} (hwf : s.WellFormed c)
    (hstep : s.step m = some s') (hsingle : s'.scheduler.state.Single key) {events : Nat}
    {callback : Option κ} {after : Tick} {readAt : Nat}
    (hresumed : s.resumed? m = some (.settle events key callback after, readAt))
    (hget : s.scheduler.state.timers.get? key = some task) (hreleased : task.released = false)
    (hafter : s'.scheduler.state.timers.get? key = some (task.settled callback (.ofTime readAt)))
    (hperiod : task.period = fired.period) (hrepeats : task.autoRepeat = fired.autoRepeat)
    (hmeets : task.Meets .undecided) :
    s'.scheduler.state.Follows key (fired.finalFate [] readAt) := by
  obtain ⟨hphase, hrearm⟩ := hmeets
  rw [hrepeats] at hrearm
  rw [TimerTask.finalFate, if_pos rfl, ← hperiod]
  cases hagain : fired.autoRepeat with
  | false =>
    refine hsingle.idle hafter ?_
    simp [TimerTask.settled, hphase, hrearm, hagain]
  | true =>
    cases htask : task.period with
    | never =>
      refine hsingle.idle hafter ?_
      simp [TimerTask.settled, hphase, htask]
    | after micros =>
      obtain ⟨rfl, -⟩ := resumed?_eq_some hresumed
      have harming : s.arming? .resume = some ⟨key, readAt, micros⟩ := by
        simp [arming?, performed?, hresumed, State.putBack?, hget, hreleased, hphase, hrearm,
          hagain, htask, Period.micros?]
      refine hsingle.queuedFrom hafter ?_ (mem_entries_of_arming? hwf hstep harming)
      simp [TimerTask.Meets, TimerTask.settled, hphase, hrearm, hagain, htask]

/-- **The put-back** follows the last ruling. -/
theorem follows_of_putBack {fired : TimerTask κ} {rulings : List Ruling} (hwf : s.WellFormed c)
    (h : s.scheduler.state.Ruled key fired rulings) (hstep : s.step m = some s') {events : Nat}
    {callback : Option κ} {after : Tick} {readAt : Nat}
    (hresumed : s.resumed? m = some (.settle events key callback after, readAt)) :
    s'.scheduler.state.Single key ∧
      s'.scheduler.state.Follows key (fired.finalFate rulings readAt) := by
  obtain ⟨hsingle, ⟨task, hget, hreleased, hrepeats, hperiod, hmeets⟩, hentry⟩ := h
  have hlive : (s.scheduler.state.timers.get? key).isSome = true := by simp [hget]
  have hperformed : s.performed? m = none := by
    obtain ⟨rfl, -⟩ := resumed?_eq_some hresumed
    rfl
  obtain ⟨rfl, hstate⟩ : after = .ofTime readAt ∧ s'.scheduler.state
      = (s.scheduler.state.finishTimer key callback after).2 := by
    obtain ⟨rfl, rest, hpasses⟩ := resumed?_eq_some hresumed
    cases hwf.passes _ (hpasses ▸ List.mem_cons_self) with
    | settle =>
      simp only [step, hpasses, resumeFrame, Option.some.injEq] at hstep
      exact ⟨rfl, by rw [← hstep]; rfl⟩
  have hafter : s'.scheduler.state.timers.get? key
      = some (task.settled callback (.ofTime readAt)) := by
    rw [hstate, State.finishTimer_get? hget, if_pos rfl, hreleased]
    rfl
  have hsingle' := step_single hwf hstep (fun _ => hsingle)
    (fun t ht => absurd ht (added?_ne hlive t)) (by simp [hafter])
  have hkept {q : Countdown} (hkey : q.key = key) (hq : q ∈ s.scheduler.state.timerQueue.entries) :
      q ∈ s'.scheduler.state.timerQueue.entries :=
    mem_entries_of_kept hstep hlive (by simp [fires, fired?, hresumed])
      (by simp [intervened?, hperformed]) hkey hq
  refine ⟨hsingle', ?_⟩
  cases hfate : Fate.ofRulings fired.period rulings with
  | undecided =>
    obtain rfl := Fate.ofRulings_eq_undecided_iff.mp hfate
    rw [hfate] at hmeets
    exact follows_of_unruled hwf hstep hsingle' hresumed hget hreleased hafter
      (by rw [hperiod]; rfl) hrepeats hmeets
  | queued since micros =>
    have hruled : rulings ≠ [] := fun hnone => by
      rw [Fate.ofRulings_eq_undecided_iff.mpr hnone] at hfate
      cases hfate
    rw [TimerTask.finalFate, if_neg hruled, hfate]
    rw [hfate] at hmeets
    exact hsingle'.queuedFrom hafter (hmeets.settled (by simp) _ _).1 (hkept rfl (hentry hfate))
  | idle =>
    have hruled : rulings ≠ [] := fun hnone => by
      rw [Fate.ofRulings_eq_undecided_iff.mpr hnone] at hfate
      cases hfate
    rw [TimerTask.finalFate, if_neg hruled, hfate]
    rw [hfate] at hmeets
    obtain ⟨⟨hphase, -⟩, hended⟩ := hmeets.settled (by simp) callback (.ofTime readAt)
    refine hsingle'.idle hafter ?_
    cases hsettled : (task.settled callback (.ofTime readAt)).phase with
    | inert => rfl
    | queued => exact absurd hsettled hphase
    | running => exact absurd hsettled hended

/-- **The last ruling on a running timer wins**, whatever happens to other tasks between its firing
and its put-back, as long as the task is neither released nor fired again.

On the way, a rearm is refused exactly if the rulings before it have left the task queued. Two
things are asked of the firing. The task has not been released by then, and its key has not come
round again while a countdown in the queue has it, for which the slot of the task must have been
freed `2 ^ 32` times. -/
theorem last_ruling_wins {before : Host κ} {n : Move κ} {fired : TimerTask κ}
    (h : Run c ok past before) (htraceable : TraceableKey ok past key)
    (hfires : before.fires n key = true) (hfire : before.step n = some s)
    (hget : before.scheduler.state.timers.get? key = some fired)
    (hreleased : fired.released = false)
    (hpath : Path (StillRunning key) (past ++ [(before, n)]) s later s') :
    (∀ earlier t move rest handle since, later = earlier ++ (t, move) :: rest →
      t.performed? move = some (.rearm handle, since) → t.scheduler.owns handle.owner = true →
        handle.key = key →
          ((t.scheduler.rearm handle (.ofTime since)).1.reply
              = .refused (.timerAlreadyQueued t.scheduler.name) ↔
            ∃ start micros,
              Fate.ofRulings fired.period (log (ruling? key) earlier) = .queued start micros)) ∧
    ∀ {events callback after readAt s''},
      s'.resumed? m = some (.settle events key callback after, readAt) → s'.step m = some s'' →
        s''.scheduler.state.Decided key fired (log (ruling? key) later) readAt := by
  obtain ⟨hruled, hperiod⟩ := ruled_of_fires h htraceable hfires hfire hget hreleased
  have hwf := h.wellFormed.step hfire
  constructor
  · intro earlier t move rest handle since hsplit hperformed howns hkey
    subst hsplit
    obtain ⟨-, -, ⟨task, hgetNow, -, -, -, hmeets⟩, -⟩ := hpath.of_append_cons.ruled hwf hruled
    rw [rearm_reply howns, hkey, ← hmeets.queued_iff]
    by_cases hphase : task.phase = .queued <;> simp [State.isTimerQueued, hgetNow, hphase]
  · intro events callback after readAt s'' hresumed hstep
    obtain ⟨hwf', hruled'⟩ := hpath.ruled hwf hruled
    obtain ⟨hsingle, hfollows⟩ := follows_of_putBack hwf' hruled' hstep hresumed
    refine hfollows.decided (Nat.le_trans hsingle ?_) hperiod
    split <;> omega

/-- The callback of a repeating timer reschedules it, has a rearm refused, takes it off the queue
and rearms it. It is queued from the reading of the rearm, with the period that the rescheduling has
stored, and not put back. -/
theorem last_ruling_wins_rearmed :
    ∃ (past later : History Nat) (before s s' s'' : Host Nat) (fired : TimerTask Nat),
      Run {} (fun _ _ _ _ => True) past before ∧ before.fires .resume ⟨0, 0⟩ = true ∧
      before.step .resume = some s ∧
      before.scheduler.state.timers.get? ⟨0, 0⟩ = some fired ∧ fired.released = false ∧
      Path (StillRunning ⟨0, 0⟩) (past ++ [(before, .resume)]) s later s' ∧
      s'.step .resume = some s'' ∧
      log (ruling? ⟨0, 0⟩) later = [.reschedule (.after 50) 1000, .remove, .rearm 1007] ∧
      s''.scheduler.state.QueuedFrom ⟨0, 0⟩ 1007 50 := by
  obtain ⟨past, later, before, s, s', s'', fired, hrun, hlength, hfires, hfire, hget, hreleased,
      hpath, hrulings, hresumed, hstep⟩ :
      ∃ (past later : History Nat) (before s s' s'' : Host Nat) (fired : TimerTask Nat),
        Run {} (fun _ _ _ _ => True) past before ∧ past.length = 6 ∧
        before.fires .resume ⟨0, 0⟩ = true ∧ before.step .resume = some s ∧
        before.scheduler.state.timers.get? ⟨0, 0⟩ = some fired ∧ fired.released = false ∧
        Path (StillRunning ⟨0, 0⟩) (past ++ [(before, .resume)]) s later s' ∧
        log (ruling? ⟨0, 0⟩) later = [.reschedule (.after 50) 1000, .remove, .rearm 1007] ∧
        s'.resumed? .resume = some (.settle 0 ⟨0, 0⟩ (some 10) (.ofTime 1007), 1007) ∧
        s'.step .resume = some s'' :=
    ⟨_, _, _, _, _, _, _, Run.of_play ⟨0⟩ 0
      [.ask (.addTimer 10 (.after 100) true), .perform 0, .elapse 1000, .enter, .resume, .resume]
        rfl, rfl, rfl, rfl, rfl, rfl,
      Path.of_play [.ask (.reschedule ⟨⟨0⟩, ⟨0, 0⟩⟩ (.after 50)), .perform 0,
        .ask (.rearm ⟨⟨0⟩, ⟨0, 0⟩⟩), .perform 0, .ask (.removeTimer ⟨⟨0⟩, ⟨0, 0⟩⟩), .perform 0,
        .elapse 7, .ask (.rearm ⟨⟨0⟩, ⟨0, 0⟩⟩), .perform 0, .resume, .resume] rfl, rfl, rfl, rfl⟩
  have hfew : TraceableKey (fun _ _ _ _ => True) past ⟨0, 0⟩ :=
    .inl (Nat.lt_of_le_of_lt (releases_le_length past _) (by rw [hlength]; decide))
  obtain ⟨-, hdecided⟩ := last_ruling_wins hrun hfew hfires hfire hget hreleased hpath
  have hback := hdecided hresumed hstep
  rw [hrulings] at hback
  exact ⟨past, later, before, s, s', s'', fired, hrun, hfires, hfire, hget, hreleased, hpath, hstep,
    hrulings, hback.rearmed rfl rfl⟩

/-- **Where a put-back follows no ruling.**

* A repeating task is in the queue twice. Its slot was freed `2 ^ 32` times, and it was fired by a
  countdown that was left behind and whose key it has got.
* A repeating task is gone. It had been released already when it was fired. -/
theorem putBack_unruled :
    (∃ (past later : History Nat) (before s s' s'' : Host Nat) (fired : TimerTask Nat),
      Run {} (fun _ _ _ _ => True) past before ∧ releases past 0 = UInt32.size ∧
      before.fires .resume ⟨0, 0⟩ = true ∧ before.step .resume = some s ∧
      before.scheduler.state.timers.get? ⟨0, 0⟩ = some fired ∧ fired.released = false ∧
      Path (StillRunning ⟨0, 0⟩) (past ++ [(before, .resume)]) s later s' ∧
      log (ruling? ⟨0, 0⟩) later = [] ∧
      s'.resumed? .resume = some (.settle 0 ⟨0, 0⟩ (some 20) (.ofTime 1000), 1000) ∧
      s'.step .resume = some s'' ∧
      s''.scheduler.state.timerQueue.entries
        = [⟨⟨0, 0⟩, .ofTime 0, 5000⟩, ⟨⟨0, 0⟩, .ofTime 1000, 5000⟩]) ∧
    ∃ (past later : History Nat) (before s s' s'' : Host Nat) (fired : TimerTask Nat),
      Run {} (fun _ _ _ _ => True) past before ∧ before.fires .resume ⟨0, 0⟩ = true ∧
      before.step .resume = some s ∧
      before.scheduler.state.timers.get? ⟨0, 0⟩ = some fired ∧ fired.autoRepeat = true ∧
      Path (StillRunning ⟨0, 0⟩) (past ++ [(before, .resume)]) s later s' ∧
      log (ruling? ⟨0, 0⟩) later = [] ∧
      s'.resumed? .resume = some (.settle 0 ⟨0, 0⟩ none (.ofTime 100), 100) ∧
      s'.step .resume = some s'' ∧ s''.scheduler.state.timers.get? ⟨0, 0⟩ = none := by
  constructor
  · obtain ⟨past, hbegin, hreleases⟩ := exists_run_leftBehind
    obtain ⟨start, later, before, s, s', s'', fired, hstart, hnone, hfires, hfire, hget, hreleased,
        hpath, hrulings, hresumed, hstep, hentries⟩ :
        ∃ (start later : History Nat) (before s s' s'' : Host Nat) (fired : TimerTask Nat),
          Path (fun _ _ _ _ => True) past (emptied [⟨⟨0, 0⟩, .ofTime 0, 1000⟩] [] 0) start before ∧
          releases start 0 = 0 ∧ before.fires .resume ⟨0, 0⟩ = true ∧
          before.step .resume = some s ∧
          before.scheduler.state.timers.get? ⟨0, 0⟩ = some fired ∧ fired.released = false ∧
          Path (StillRunning ⟨0, 0⟩) (past ++ start ++ [(before, .resume)]) s later s' ∧
          log (ruling? ⟨0, 0⟩) later = [] ∧
          s'.resumed? .resume = some (.settle 0 ⟨0, 0⟩ (some 20) (.ofTime 1000), 1000) ∧
          s'.step .resume = some s'' ∧
          s''.scheduler.state.timerQueue.entries
            = [⟨⟨0, 0⟩, .ofTime 0, 5000⟩, ⟨⟨0, 0⟩, .ofTime 1000, 5000⟩] :=
      ⟨_, _, _, _, _, _, _, Path.of_play
        [.ask (.addTimer 20 (.after 5000) true), .perform 0, .elapse 1000, .enter, .resume,
         .resume] rfl, rfl, rfl, rfl, rfl, rfl, Path.of_play [.resume, .resume] rfl, rfl, rfl, rfl,
        rfl⟩
    exact ⟨past ++ start, later, before, s, s', s'', fired, hbegin.append hstart,
      by rw [releases_append, hreleases, hnone], hfires, hfire, hget, hreleased, hpath, hrulings,
      hresumed, hstep, hentries⟩
  · exact ⟨_, _, _, _, _, _, _, Run.of_play ⟨0⟩ 0
      [.ask (.addTimer 10 (.after 100) true), .perform 0, .elapse 100, .enter, .resume, .resume,
       .resume, .ask (.releaseTimer ⟨⟨0⟩, ⟨0, 0⟩⟩), .perform 0,
       .ask (.reschedule ⟨⟨0⟩, ⟨0, 0⟩⟩ (.after 0)), .perform 0, .enter, .resume, .resume] rfl,
      rfl, rfl, rfl, rfl, Path.of_play [.resume, .resume] rfl, rfl, rfl, rfl, rfl⟩

end Host

end CoopScheduler
