import CoopScheduler.Simulation.World

/-!
# Running a simulation

`World.step` carries the innermost activity of a world one step further, and `World.run` makes
as many steps as are needed, up to a bound; a bound that was enough does not show in the result
(`World.run_eq_of_le`). Whatever a request or a pass of a scheduler does
goes through `Scheduler.perform` and `Scheduler.resume`; a step adds what their surroundings do:
the clock shows a tick and lets hooks run, callbacks follow their scripts, and the parker keeps
its token and lets its clock run out the time.
-/

namespace CoopScheduler

namespace Simulation

namespace World

/-! ### Requests -/

/-- What is left to do after the critical section of a request. -/
def conclude (w : World) (i : Nat) (c : Context) (outcome : Outcome CallbackId) (name : String)
    (attempt : Bool) : World :=
  let w := (w.drop? outcome.dropped?).log? outcome.record?
  let w := match outcome.wake? with
    | none => w
    | some source => (w.log? (c.scheduler.wakeRecord? source)).unpark i c source
  match outcome.reply with
  | .done => w.answerWith .nothing
  | .timer handle =>
    { w with timers := (name, handle) :: w.timers, answer := .text handle.text }
  | .event handle =>
    { w with events := (name, handle) :: w.events, answer := .text handle.text }
  | .refused error => w.refuse error attempt
  | .corrupt => w.fail "free list points at occupied slot"

/-- Reads the clock if the request needs that, and goes on to its critical section. -/
def request (w : World) (i : Nat) (c : Context) (op : Operation CallbackId) (name : String)
    (attempt : Bool) : World :=
  if c.scheduler.readsClock op then
    let (reading, script, w) := w.readClock i c
    w.push [.script script, .perform i op name attempt reading]
  else
    w.push [.perform i op name attempt c.clock]

/-- Creates the callback of a new task. -/
def addCallback (w : World) (callback : Callback) : CallbackId × World :=
  (w.callbacks.size, { w with callbacks := w.callbacks.push callback })

/-- Goes on with the timer task of a name. -/
def withTimer (w : World) (name : String) (use : TimerHandle → World) : World :=
  match w.timers.lookup name with
  | none => w.answerWith .unbound
  | some handle => use handle

/-- Goes on with the event task of a name. -/
def withEvent (w : World) (name : String) (use : EventHandle → World) : World :=
  match w.events.lookup name with
  | none => w.answerWith .unbound
  | some handle => use handle

/-! ### The dispatch loop -/

/-- The largest stack that the platform of the simulation can create a context with. -/
def largestStack : Nat :=
  0x800000000000

/-- Why the platform cannot create a context, if it cannot. -/
def spawnFailure? (stack : Nat) : Option String :=
  if stack ≤ largestStack then none else some "Resource temporarily unavailable (os error 11)"

/-- Enters the dispatch loop, unless it cannot be started. -/
def enterLoop (w : World) (i : Nat) (c : Context) (thread? : Option String) (maxParks : Nat)
    (attempt : Bool) (started : LoopStart × Scheduler CallbackId) : World :=
  match started with
  | (.refused error, s) => (w.setScheduler i c s).refuse error attempt
  | (.broken message, s) => (w.setScheduler i c s).fail message
  | (.running record, s) =>
    ((((w.setContext i { c with
      scheduler := s, parkLimit? := some maxParks, parkCount := 0 }).log record).mark
        (.bind i thread?)).push [.loop i])

/-- One turn of the dispatch loop. -/
def turnLoop (w : World) (i : Nat) (c : Context) : World :=
  if c.scheduler.keepsRunning then
    w.push [.pass i .start .loop]
  else
    ((w.log c.scheduler.stopRecord).setContext i { c with parkLimit? := none }).answerWith .nothing

/-! ### Passes -/

/-- Begins the run of a callback. -/
def call (w : World) (c : Context) (id : CallbackId) : World :=
  match w.callbacks[id]? with
  | none => w
  | some callback =>
    let rest := { callback with turns := callback.turns.tail }
    ({ w with callbacks := w.callbacks.setIfInBounds id rest }.mark
      (.ran callback.name c.clock)).push [.script (callback.always ++ callback.turns.headD [])]

/-- Begins a park. A context that was woken before runs no park script. -/
def beginPark (w : World) (i : Nat) (c : Context) (wait : Duration) : World :=
  let w := (w.log (c.scheduler.parkRecord wait)).mark (.park i wait)
  if c.parker.token then
    w.push [.park i wait]
  else
    (w.setContext i { c with parkScripts := c.parkScripts.tail }).push
      [.script (c.parkScripts.headD []), .park i wait]

/-- Ends a park: the parker counts it and stops the scheduler at the limit; then it takes the
token, or else the clock runs out the time. -/
def endPark (w : World) (i : Nat) (c : Context) (wait : Duration) : World :=
  let counted := { c with parkCount := c.parkCount + 1 }
  let full := c.parkLimit?.any (· ≤ counted.parkCount)
  let w := if full then w.stop i counted else w.setContext i counted
  match w.contexts[i]? with
  | none => w
  | some c =>
    match c.parker.park with
    | (true, parker) => (w.setContext i { c with parker := parker }).mark (.woken i)
    | (false, parker) =>
      w.setContext i { c with
        parker := parker, clock := c.clock.advance (UInt32.ofNat wait.micros) }

/-- Goes on after a pass. -/
def afterPass (w : World) (i : Nat) (pass : Pass) : AfterPass → World
  | .answer => w.answerWith (.pass pass)
  | .more 0 results => w.answerWith (.passes (pass :: results).reverse)
  | .more (left + 1) results => w.push [.pass i .start (.more left (pass :: results))]
  | .loop => w.push [.loop i]

/-- One step of a pass. -/
def stepPass (w : World) (i : Nat) (c : Context) (activation : Activation CallbackId)
    (after : AfterPass) : World :=
  let (effect, s) := c.scheduler.resume activation
  let c := { c with scheduler := s }
  let w := w.setContext i c
  match effect with
  | .call callback next => (w.push [.pass i next after]).call c callback
  | .read next =>
    let (reading, script, w) := w.readClock i c
    w.push [.script script, .pass i (next reading) after]
  | .discard callback next => (w.drop? callback).push [.pass i next after]
  | .park wait next => (w.push [.pass i next after]).beginPark i c wait
  | .finish pass => w.afterPass i pass after

/-! ### Commands -/

/-- Carries out a command to the scheduler of context `i`. -/
def command (w : World) (i : Nat) (c : Context) : Verb → World
  | .addTimer name period autoRepeat attempt always turns =>
    let (id, w) := w.addCallback ⟨name, always, turns⟩
    w.request i c (.addTimer id period autoRepeat) name attempt
  | .createEvent name attempt always turns =>
    let (id, w) := w.addCallback ⟨name, always, turns⟩
    w.request i c (.createEvent id) name attempt
  | .reschedule name period =>
    w.withTimer name fun h => w.request i c (.reschedule h period) name false
  | .removeTimer name => w.withTimer name fun h => w.request i c (.removeTimer h) name false
  | .rearm name attempt => w.withTimer name fun h => w.request i c (.rearm h) name attempt
  | .releaseTimer name => w.withTimer name fun h => w.request i c (.releaseTimer h) name false
  | .isTimerQueued name =>
    w.withTimer name fun h => w.answerWith (.flag (c.scheduler.isTimerQueued h))
  | .timerDeadline name =>
    w.withTimer name fun h => w.answerWith (.tick? (c.scheduler.timerDeadline h))
  | .timerHandle name => w.withTimer name fun h =>
    w.answerWith (.handle h.text h.owner (c.scheduler.owns h.owner))
  | .send name source => w.withEvent name fun h => w.request i c (.send h source) name false
  | .releaseEvent name => w.withEvent name fun h => w.request i c (.releaseEvent h) name false
  | .isEventPending name =>
    w.withEvent name fun h => w.answerWith (.flag (c.scheduler.isEventPending h))
  | .eventHandle name => w.withEvent name fun h =>
    w.answerWith (.handle h.text h.owner (c.scheduler.owns h.owner))
  | .pass => w.push [.pass i .start .answer]
  | .passes 0 => w.answerWith (.passes [])
  | .passes (count + 1) => w.push [.pass i .start (.more count [])]
  | .setClock micros => (w.setContext i { c with clock := ⟨micros⟩ }).answerWith .nothing
  | .advanceClock micros =>
    (w.setContext i { c with clock := c.clock.advance micros }).answerWith .nothing
  | .now =>
    let (reading, script, w) := w.readClock i c
    w.push [.script script, .told (.text reading.text)]
  | .stats => w.answerWith (.stats c.scheduler.stats)
  | .queuedTimers => w.answerWith (.timers c.scheduler.queuedTimers)
  | .timersInOrder => w.answerWith (.flag c.scheduler.timersInOrder)
  | .isSleeping => w.answerWith (.flag c.scheduler.isSleeping)
  | .info => w.answerWith
      (.info c.scheduler.id c.scheduler.name c.scheduler.config.priority c.scheduler.summary)
  | .onRead skip script =>
    (w.setContext i { c with hooks := c.hooks ++ [⟨skip, script⟩] }).answerWith .nothing
  | .onPark script =>
    (w.setContext i { c with parkScripts := c.parkScripts ++ [script] }).answerWith .nothing
  | .run maxParks => w.enterLoop i c none maxParks false c.scheduler.startOnCaller
  | .start maxParks stack attempt =>
    w.enterLoop i c (some c.scheduler.name) maxParks attempt
      (c.scheduler.start stack (spawnFailure? stack))
  | .stop => (w.stop i c).answerWith .nothing

/-! ### Steps -/

/-- Goes on with an activity that belongs to context `i`, if there is such a context. -/
def withContext (w : World) (i : Nat) (use : Context → World) : World :=
  match w.contexts[i]? with
  | none => w.answerWith .unbound
  | some c => use c

/-- Carries one activity a step further. -/
def stepFrame (w : World) : Frame → World
  | .script [] => w
  | .script ((i, verb) :: rest) => w.push [.command (i, verb), .did verb, .script rest]
  | .command (i, verb) => w.withContext i fun c => w.command i c verb
  | .did verb => w.mark (.did verb w.answer)
  | .told answer => w.answerWith answer
  | .perform i op name attempt reading => w.withContext i fun c =>
    let (outcome, s) := c.scheduler.perform op reading
    let c := { c with scheduler := s }
    (w.setContext i c).conclude i c outcome name attempt
  | .pass i activation after => w.withContext i fun c => w.stepPass i c activation after
  | .loop i => w.withContext i fun c => w.turnLoop i c
  | .park i wait => w.withContext i fun c => w.endPark i c wait

/-- Carries the innermost activity a step further. -/
def step (w : World) : World :=
  match w.frames with
  | [] => w
  | frame :: rest => { w with frames := rest }.stepFrame frame

/-- Makes steps until nothing is in progress, but no more than `bound`. -/
def run : Nat → World → World
  | 0, w => w
  | bound + 1, w => if w.isIdle then w else run bound w.step

/-- A world at rest stays as it is. -/
theorem run_of_isIdle {w : World} (h : w.isIdle = true) (bound : Nat) : run bound w = w := by
  cases bound <;> simp [run, h]

/-- Once the bound was enough, a higher one changes nothing. -/
theorem run_eq_of_le {bound : Nat} {w : World} (h : (run bound w).isIdle = true) {more : Nat}
    (hle : bound ≤ more) : run more w = run bound w := by
  induction bound generalizing w more with
  | zero => exact run_of_isIdle h more
  | succ bound ih =>
    obtain ⟨more, rfl⟩ := Nat.exists_eq_add_of_le' (Nat.lt_of_lt_of_le (Nat.succ_pos bound) hle)
    by_cases hw : w.isIdle = true
    · rw [run_of_isIdle hw, run_of_isIdle hw]
    · simp only [run, hw] at h ⊢
      exact ih h (Nat.le_of_succ_le_succ hle)

/-- Carries out one command from outside, with a trace of its own. -/
def execute (bound : Nat) (w : World) (command : Command) : World :=
  run bound { w with frames := [.command command], answer := .nothing, trace := [] }

end World

end Simulation

end CoopScheduler
