import CoopScheduler.Simulation.Step

/-!
# Errands

An **errand** is one piece of work given to a scheduler that runs on a thread of its own: an
event to send or a one-shot timer to wait for. Whoever gives the errands waits for the callback
of each before giving the next, so nothing depends on how fast the thread is: a pass in which
the callback runs, or one that sleeps until it is due and one in which it runs, is all there is
to see.
-/

namespace CoopScheduler

namespace Simulation

/-- A piece of work whose callback is waited for. -/
inductive Errand where
  /-- Send the event of this number. -/
  | send (event : Nat) (source : WakeSource)
  /-- Create a timer that is due once, after this long. -/
  | timer (micros : UInt32)

/-- What can be told after the scheduler was stopped. -/
structure ErrandReport where
  /-- The callbacks in the order of their runs, each with the name of its thread. -/
  ran : List (String × String)
  /-- The error of one more start, if it fails. -/
  restart? : Option SchedulerError
  /-- The counters and the numbers of tasks left. -/
  stats : Stats
  /-- Whether the context still sleeps. -/
  sleeping : Bool

namespace Errand

/-- The name of an event. -/
def eventName (i : Nat) : String :=
  "e" ++ toString i

/-- The commands that give an errand and let its callback run. A timer is named for the place
of its errand among all. -/
def script (place : Nat) : Errand → Script
  | .send event source => [(0, .send (eventName event) source), (0, .passes 2)]
  | .timer micros =>
    [(0, .addTimer ("t" ++ toString place) (.after micros) false false [] []), (0, .passes 2)]

/-- What can be told of a scheduler that was stopped, in a world where it is alone. -/
def report (w : World) (s : Scheduler CallbackId) : ErrandReport where
  ran := w.trace.reverse.filterMap fun
    | .ran name _ => some (name, s.name)
    | _ => none
  restart? := match (s.start s.config.stackSize none).1 with
    | .refused error => some error
    | _ => none
  stats := s.stats
  sleeping := s.isSleeping

/-- Lets a scheduler whose loop was started create so many events, gives it the errands one by
one, and stops it. Nobody asks to be told errors, so each is fatal, and then its message is all
there is to tell. -/
def serveOn (running : Scheduler CallbackId) (events : Nat) (errands : List Errand) :
    Except String ErrandReport :=
  let creation : Script :=
    (List.range events).map fun i => (0, .createEvent (eventName i) false [] [])
  let work : Script := (errands.mapIdx fun place errand => errand.script place).flatten
  let start : World :=
    { contexts := #[{ scheduler := running, clock := .zero }]
      frames := [.script (creation ++ work ++ [(0, .stop)])] }
  let w := World.run (64 * (events + errands.length + 1)) start
  match w.fatal?, w.contexts[0]? with
  | none, some c => .ok (report w c.scheduler)
  | some message, _ => .error message
  | none, none => .ok (report w running)

/-- Makes a scheduler, starts it and lets it serve the errands. It cannot be made if its limits
leave it without room. -/
def serve (config : Config) (events : Nat) (errands : List Errand) :
    Except String ErrandReport :=
  match config.roomFault? with
  | some message => .error message
  | none =>
    let made : Scheduler CallbackId := .create ⟨1⟩ config
    match made.start config.stackSize (World.spawnFailure? config.stackSize) with
    | (.broken message, _) => .error message
    | (.refused error, _) => .error error.message
    | (.running _, running) => serveOn running events errands

end Errand

end Simulation

end CoopScheduler
