import CoopScheduler.Parker
import CoopScheduler.Room
import CoopScheduler.Simulation.Command

/-!
# Simulated worlds

A **world** holds some schedulers, each on a context of its own with a clock that is set by
hand and a parker that follows scripts, and a trace of all that has happened. There is one
thread of control: a stack of **frames**, the innermost activity in front. Callbacks, hooks of
the clock and scripts of the parker run on top of the pass that called for them, so passes nest
to any depth.
-/

namespace CoopScheduler

namespace Simulation

/-- A callback of the simulation, by its number. -/
abbrev CallbackId := Nat

/-- What a callback does. -/
structure Callback where
  /-- The name of its task. -/
  name : String
  /-- Runs first, each time. -/
  always : Script
  /-- One script for each run to come. -/
  turns : List Script

/-- A script that waits for a clock reading. -/
structure Hook where
  /-- How many readings to let pass. -/
  skip : Nat
  /-- What to run then. -/
  script : Script

/-- A scheduler with its clock and its parker. -/
structure Context where
  /-- The scheduler. -/
  scheduler : Scheduler CallbackId
  /-- What its clock shows. -/
  clock : Tick
  /-- The token of its parker. -/
  parker : Parker := {}
  /-- The scripts that wait for clock readings. -/
  hooks : List Hook := []
  /-- The scripts that wait for parks. -/
  parkScripts : List Script := []
  /-- At which park of the dispatch loop the parker stops the scheduler. -/
  parkLimit? : Option Nat := none
  /-- How many parks the dispatch loop has taken. -/
  parkCount : Nat := 0

/-- What can be seen to happen; contexts are given by their numbers. -/
inductive Mark where
  /-- A dispatch loop begins, on a thread of this name. -/
  | bind (context : Nat) (thread? : Option String)
  | park (context : Nat) (wait : Duration)
  /-- A park ended before its time. -/
  | woken (context : Nat)
  | unpark (context : Nat) (source : WakeSource)
  /-- A callback began when the clock showed `clock`. -/
  | ran (name : String) (clock : Tick)
  /-- A callback was dropped. -/
  | dropped (name : String)
  /-- A command of a callback, hook or park script was carried out. -/
  | did (verb : Verb) (answer : Answer)
  | log (record : LogRecord)

/-- What follows when a pass is over. -/
inductive AfterPass where
  /-- Its result is the answer. -/
  | answer
  /-- So many more passes run, and the results of all are the answer; the ones so far are kept
  with the latest first. -/
  | more (left : Nat) (results : List Pass)
  /-- The dispatch loop goes on. -/
  | loop

/-- An activity in progress. -/
inductive Frame where
  /-- Carry out the commands of a script. -/
  | script (commands : Script)
  /-- Carry out one command. -/
  | command (command : Command)
  /-- Note that a command of a script was carried out. -/
  | did (verb : Verb)
  /-- Give the answer of a command. -/
  | told (answer : Answer)
  /-- Enter the critical section of a request. A task it creates gets the name `name`. -/
  | perform (context : Nat) (op : Operation CallbackId) (name : String) (attempt : Bool)
      (reading : Tick)
  /-- Go on with a pass. -/
  | pass (context : Nat) (activation : Activation CallbackId) (after : AfterPass)
  /-- Decide whether the dispatch loop runs another pass. -/
  | loop (context : Nat)
  /-- End a park. -/
  | park (context : Nat) (wait : Duration)

/-- Schedulers with their surroundings, in the middle of their work. -/
structure World where
  /-- The schedulers. -/
  contexts : Array Context
  /-- The callbacks of all tasks that were created. -/
  callbacks : Array Callback := #[]
  /-- The timer tasks by name, the newest first. -/
  timers : List (String × TimerHandle) := []
  /-- The event tasks by name, the newest first. -/
  events : List (String × EventHandle) := []
  /-- Whether the trace shows log records. -/
  logging : Bool := false
  /-- The activities in progress, the innermost first. -/
  frames : List Frame := []
  /-- The answer of the last command. -/
  answer : Answer := .nothing
  /-- What has happened, the latest first. -/
  trace : List Mark := []
  /-- The message of the error that ended everything. -/
  fatal? : Option String := none

namespace World

/-- A world in which nothing has happened; each scheduler has its configuration and the tick
its clock starts at. There is none if the limits of a scheduler leave it without room, and then
what is wrong with them is all there is to tell. -/
def create (schedulers : List (Config × Tick)) (logging : Bool) : Except String World :=
  match schedulers.findSome? fun (config, _) => config.roomFault? with
  | some message => .error message
  | none => .ok
    { contexts := (schedulers.mapIdx fun i (config, clock) =>
        ({ scheduler := .create ⟨i + 1⟩ config, clock := clock } : Context)).toArray
      logging := logging }

/-- Whether nothing is in progress. -/
def isIdle (w : World) : Bool :=
  w.frames.isEmpty

/-! ### Parts -/

/-- Replaces a context. -/
def setContext (w : World) (i : Nat) (c : Context) : World :=
  { w with contexts := w.contexts.setIfInBounds i c }

/-- Replaces the scheduler of a context. -/
def setScheduler (w : World) (i : Nat) (c : Context) (s : Scheduler CallbackId) : World :=
  w.setContext i { c with scheduler := s }

/-- Puts activities in front of those in progress. -/
def push (w : World) (frames : List Frame) : World :=
  { w with frames := frames ++ w.frames }

/-- Sets the answer of the command in progress. -/
def answerWith (w : World) (answer : Answer) : World :=
  { w with answer := answer }

/-! ### The trace -/

/-- Notes that something happened. -/
def mark (w : World) (m : Mark) : World :=
  { w with trace := m :: w.trace }

/-- Shows a log record, if the trace shows any. -/
def log (w : World) (record : LogRecord) : World :=
  if w.logging then w.mark (.log record) else w

/-- Shows a log record, if there is one. -/
def log? (w : World) (record? : Option LogRecord) : World :=
  match record? with
  | none => w
  | some record => w.log record

/-- Notes that a callback was dropped. -/
def drop? (w : World) (callback? : Option CallbackId) : World :=
  match callback?.bind (w.callbacks[·]?) with
  | none => w
  | some callback => w.mark (.dropped callback.name)

/-- Ends everything. -/
def fail (w : World) (message : String) : World :=
  { w with frames := [], fatal? := some message }

/-- An error is told to a caller who asked for it, and is fatal otherwise. -/
def refuse (w : World) (error : SchedulerError) (attempt : Bool) : World :=
  if attempt then w.answerWith (.refused error)
  else (w.log ⟨.error, "PANIC: " ++ error.message⟩).fail error.message

/-! ### Wakes and readings -/

/-- Wakes a context. -/
def unpark (w : World) (i : Nat) (c : Context) (source : WakeSource) : World :=
  (w.mark (.unpark i source)).setContext i { c with parker := c.parker.unpark }

/-- Tells the dispatch loop of a context to stop. -/
def stop (w : World) (i : Nat) (c : Context) : World :=
  w.unpark i { c with scheduler := c.scheduler.stop } .thread

/-- Reads a clock: the tick it shows, and the script that runs before the reading returns. -/
def readClock (w : World) (i : Nat) (c : Context) : Tick × Script × World :=
  match c.hooks with
  | [] => (c.clock, [], w)
  | hook :: hooks =>
    match hook.skip with
    | 0 => (c.clock, hook.script, w.setContext i { c with hooks := hooks })
    | skip + 1 =>
      (c.clock, [], w.setContext i { c with hooks := ⟨skip, hook.script⟩ :: hooks })

end World

end Simulation

end CoopScheduler
