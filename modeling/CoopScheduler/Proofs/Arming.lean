import CoopScheduler.Proofs.Host

/-!
# Armings in the history of a host

A countdown is **armed** when a timer task is created with a period, rescheduled to one, rearmed
while it is not queued, or put back after its callback because it repeats. It is **disarmed**
when the task is rescheduled, removed or freed, or when it fires. Both are read off a host and
its next move (`Host.arming?`, `Host.disarmed?`), so they are known for every step of a history.

* `Host.armings` lists the armings of a history; `Host.lastArming?` finds the last one of a task
  and `Host.armingOf?` the one that a countdown in the timer queue stems from.
* `Host.agenda` is what an ideal scheduler knows: the armings that were not disarmed, in the
  order in which they happened.
-/

namespace CoopScheduler

variable {κ : Type}

/-- What is left of some armings when the countdown of a task has ended. -/
def Arming.without (l : List Arming) : Option Key → List Arming
  | none => l
  | some key => l.filter (·.key ≠ key)

theorem Arming.without_sublist (l : List Arming) (ended? : Option Key) :
    (without l ended?).Sublist l := by
  cases ended? with
  | none => exact List.Sublist.refl l
  | some key => exact List.filter_sublist

/-- The task that a pass decides to run. -/
def Decision.fired? : Decision κ → Option Key
  | .fire key _ => some key
  | _ => none

/-- The countdown with which a repeating task is put back, if its reading is taken at `since`. -/
def State.putBack? (s : State κ) (key : Key) (since : Nat) : Option Arming :=
  match s.timers.get? key with
  | none => none
  | some task =>
    if task.released = false ∧ task.phase = .running ∧ task.rearm = true then
      task.period.micros?.map fun micros => ⟨key, since, micros⟩
    else
      none

namespace Scheduler

/-- The countdown that a request starts, if its reading is taken at `since`. -/
def arming? (s : Scheduler κ) (op : Operation κ) (since : Nat) : Option Arming :=
  match op with
  | .addTimer callback (.after micros) autoRepeat =>
    match (s.addTimer callback (.after micros) autoRepeat (.ofTime since)).1.reply with
    | .timer handle => some ⟨handle.key, since, micros⟩
    | _ => none
  | .reschedule handle (.after micros) =>
    if s.owns handle.owner ∧ (s.state.timers.get? handle.key).isSome then
      some ⟨handle.key, since, micros⟩
    else
      none
  | .rearm handle =>
    if s.owns handle.owner ∧ s.state.isTimerQueued handle.key = false then
      (s.state.timers.get? handle.key).bind fun task =>
        task.period.micros?.map fun micros => ⟨handle.key, since, micros⟩
    else
      none
  | _ => none

/-- The task whose countdown a request ends. -/
def disarmed? (s : Scheduler κ) : Operation κ → Option Key
  | .reschedule handle _ => if s.owns handle.owner then some handle.key else none
  | .removeTimer handle => if s.owns handle.owner then some handle.key else none
  | .releaseTimer handle => if s.owns handle.owner then some handle.key else none
  | _ => none

end Scheduler

namespace Host

/-- The countdown that a move starts. -/
def arming? (s : Host κ) (m : Move κ) : Option Arming :=
  match s.performed? m, s.resumed? m with
  | some (op, readAt), _ => s.scheduler.arming? op readAt
  | none, some (.settle _ key _ _, readAt) => s.scheduler.state.putBack? key readAt
  | none, _ => none

/-- The task whose countdown a move ends. -/
def disarmed? (s : Host κ) (m : Move κ) : Option Key :=
  match s.performed? m, s.resumed? m with
  | some (op, _), _ => s.scheduler.disarmed? op
  | none, some (.evaluate _ now, _) =>
    (s.scheduler.state.evaluate s.scheduler.config now).1.fired?
  | none, _ => none

/-- The countdowns started so far, in order. -/
def armings (past : History κ) : List Arming :=
  log arming? past

/-- The arming that a countdown in the timer queue stems from: the last one that started just
this countdown. -/
def armingOf? (past : History κ) (c : Countdown) : Option Arming :=
  (armings past).reverse.find? (·.countdown = c)

/-- The last countdown of a task that was started. -/
def lastArming? (past : History κ) (key : Key) : Option Arming :=
  (armings past).reverse.find? (·.key = key)

/-- What a move does to the armings in force. -/
def revise (s : Host κ) (m : Move κ) (agenda : List Arming) : List Arming :=
  Arming.without agenda (s.disarmed? m) ++ (s.arming? m).toList

/-- The armings in force, in order. -/
def agenda (past : History κ) : List Arming :=
  past.foldl (fun agenda (s, m) => s.revise m agenda) []

@[simp]
theorem armings_concat (past : History κ) (s : Host κ) (m : Move κ) :
    armings (past ++ [(s, m)]) = armings past ++ (s.arming? m).toList :=
  log_concat arming? past s m

@[simp]
theorem agenda_concat (past : History κ) (s : Host κ) (m : Move κ) :
    agenda (past ++ [(s, m)]) = s.revise m (agenda past) := by
  rw [agenda, List.foldl_append]
  rfl

theorem armingOf?_concat (past : History κ) (s : Host κ) (m : Move κ) (c : Countdown) :
    armingOf? (past ++ [(s, m)]) c
      = ((s.arming? m).filter fun a => a.countdown = c).or (armingOf? past c) := by
  rw [armingOf?, armings_concat]
  cases h : s.arming? m with
  | none => simp [armingOf?]
  | some a => by_cases hc : a.countdown = c <;> simp [armingOf?, hc, Option.filter]

theorem lastArming?_concat (past : History κ) (s : Host κ) (m : Move κ) (key : Key) :
    lastArming? (past ++ [(s, m)]) key
      = ((s.arming? m).filter fun a => a.key = key).or (lastArming? past key) := by
  rw [lastArming?, armings_concat]
  cases h : s.arming? m with
  | none => simp [lastArming?]
  | some a => by_cases hc : a.key = key <;> simp [lastArming?, hc, Option.filter]

theorem armingOf?_eq_some {past : History κ} {c : Countdown} {a : Arming}
    (h : armingOf? past c = some a) : a.countdown = c := by
  simpa using List.find?_some h

/-- The last countdown of its task stems from the last arming of the task. -/
theorem armingOf?_of_lastArming? {past : History κ} {a : Arming}
    (h : lastArming? past a.key = some a) : armingOf? past a.countdown = some a := by
  obtain ⟨-, before, after, hsplit, hbefore⟩ := List.find?_eq_some_iff_append.mp h
  refine List.find?_eq_some_iff_append.mpr ⟨by simp, before, after, hsplit, fun b hb => ?_⟩
  have hne : b.key ≠ a.key := by simpa using hbefore b hb
  have hother : b.countdown ≠ a.countdown := fun heq => hne (congrArg Countdown.key heq)
  simpa using hother

end Host

end CoopScheduler
