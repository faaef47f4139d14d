import CoopScheduler.Proofs.Releases

/-!
# Keys that are given again

A generation has 32 bits. A slot that has been freed `2 ^ 32` times is in its first generation
again, and the next task that is stored in it gets a key that another task had before.

* `Arena.NextSlot` names the slot that is used next and its generation, and `Arena.reopened` is the
  arena with such a slot in another generation.
* `Host.path_round`: a task that is added without a countdown and released at once takes that slot
  on by one generation and leaves everything else as it is. Hence **the slot can be brought into
  any generation** (`Host.exists_path_reopened`).
* `Host.exists_run_leftBehind`: a run after which the next task gets the key of a countdown that was
  left behind. It has freed the slot `2 ^ 32` times, as often as it takes.
-/

namespace CoopScheduler

namespace Arena

variable {α : Type} {a : Arena α} {index : Nat} {generation : UInt32}

/-- The next value is stored in this slot, which is vacant and in this generation. -/
structure NextSlot (a : Arena α) (index : Nat) (generation : UInt32) : Prop where
  free : ∃ rest, a.free = index :: rest
  vacant : a.slots[index]? = some ⟨generation, none⟩

/-- The arena with a vacant slot in this generation. -/
def reopened (a : Arena α) (index : Nat) (generation : UInt32) : Arena α :=
  { a with slots := a.slots.setIfInBounds index ⟨generation, none⟩ }

@[simp]
theorem reopened_reopened (a : Arena α) (index : Nat) (generation generation' : UInt32) :
    (a.reopened index generation).reopened index generation' = a.reopened index generation' := by
  simp [reopened]

theorem NextSlot.reopened_self (h : a.NextSlot index generation) :
    a.reopened index generation = a := by
  obtain ⟨hlt, hslot⟩ := Array.getElem?_eq_some_iff.mp h.vacant
  have hset : a.slots.setIfInBounds index ⟨generation, none⟩ = a.slots := by
    rw [← hslot, Array.setIfInBounds, dif_pos hlt, Array.set_getElem_self]
  rw [reopened, hset]

theorem NextSlot.reopened (h : a.NextSlot index generation) (generation' : UInt32) :
    (a.reopened index generation').NextSlot index generation' where
  free := h.free
  vacant := by
    obtain ⟨hlt, -⟩ := Array.getElem?_eq_some_iff.mp h.vacant
    simp [Arena.reopened, hlt]

/-- **Storing a value and removing it** takes the slot on by one generation. -/
theorem NextSlot.insert_remove (h : a.NextSlot index generation) (value : α) :
    ∃ b, a.insert value = .ok (⟨index, generation⟩, b) ∧
      b.remove ⟨index, generation⟩ = (some value, a.reopened index (generation + 1)) := by
  obtain ⟨rest, hfree⟩ := h.free
  obtain ⟨hlt, -⟩ := Array.getElem?_eq_some_iff.mp h.vacant
  refine ⟨_, by rw [insert, hfree]; simp only [h.vacant]; rfl, ?_⟩
  simp [remove, get?, Slot.read, Arena.reopened, hlt, hfree]

end Arena

namespace Host

variable {κ : Type} {past : History κ} {s : Host κ} {index : Nat} {generation : UInt32}

/-! ### Rounds -/

/-- The moves of a request that is made and carried out at once. -/
def atOnce (s : Host κ) (op : Operation κ) : History κ :=
  [(s, .ask op),
   ({ s with inFlight := s.inFlight ++ [.asked op s.time] }, .perform s.inFlight.length)]

theorem path_atOnce {op : Operation κ} {outcome : Outcome κ} {scheduler : Scheduler κ}
    (hperform : s.scheduler.perform op (.ofTime s.time) = (outcome, scheduler))
    (hwake : outcome.wake? = none) :
    Path (fun _ _ _ _ => True) past s (s.atOnce op) { s with scheduler := scheduler } := by
  refine .cons rfl trivial (.cons ?_ trivial .nil)
  simp [step, performAt, hperform, hwake, List.eraseIdx_append_of_length_le]

theorem releases_atOnce (s : Host κ) (op : Operation κ) (index : Nat) :
    releases (s.atOnce op) index
      = if (s.scheduler.freed? op).any (·.index = index) then 1 else 0 := by
  cases h : s.scheduler.freed? op <;>
    simp [releases, atOnce, log, freed?, performed?, resumed?, h, List.countP_singleton]

/-- The host with a vacant slot of the timer tasks in this generation. -/
def reopened (s : Host κ) (index : Nat) (generation : UInt32) : Host κ :=
  { s with scheduler.state.timers := s.scheduler.state.timers.reopened index generation }

/-- **A round**: a task that waits for nothing is added and released. Its slot is taken on by one
generation, and everything else is as before. -/
theorem path_round (hnext : s.scheduler.state.timers.NextSlot index generation) (callback : κ)
    (past : History κ) :
    ∃ round, Path (fun _ _ _ _ => True) past s round (s.reopened index (generation + 1)) ∧
      releases round index = 1 := by
  obtain ⟨timers, hinsert, hremove⟩ := hnext.insert_remove
    ⟨some callback, .never, false, .ofTime s.time, .inert, false, false⟩
  have hget := Arena.get?_insert_of_ok hinsert ⟨index, generation⟩
  rw [if_pos rfl] at hget
  let added : Scheduler κ := { s.scheduler with state.timers := timers }
  let add : Operation κ := .addTimer callback .never false
  let release : Operation κ := .releaseTimer ⟨s.scheduler.id, ⟨index, generation⟩⟩
  obtain ⟨outcome, hadd, hwake⟩ : ∃ outcome,
      s.scheduler.perform add (.ofTime s.time) = (outcome, added) ∧ outcome.wake? = none := by
    simp [added, add, Scheduler.perform, Scheduler.addTimer, State.addTimer, hinsert,
      Scheduler.threadWake]
  have hrelease : added.perform release (.ofTime s.time)
      = ({ dropped? := some callback }, (s.reopened index (generation + 1)).scheduler) := by
    simp [added, release, reopened, Scheduler.perform, Scheduler.releaseTimer, Scheduler.owns,
      State.releaseTimer, State.removeTimer, hget, hremove]
  refine ⟨_, (path_atOnce hadd hwake).append (path_atOnce hrelease rfl), ?_⟩
  rw [releases_append, releases_atOnce, releases_atOnce]
  simp [added, add, release, Scheduler.freed?, Scheduler.owns, State.freedNow?, hget]

/-- So many rounds take the slot on by as many generations. -/
theorem exists_path_rounds (hnext : s.scheduler.state.timers.NextSlot index generation)
    (callback : κ) (past : History κ) (n : Nat) :
    ∃ rounds, Path (fun _ _ _ _ => True) past s rounds
        (s.reopened index (generation + .ofNat n)) ∧ releases rounds index = n := by
  induction n with
  | zero =>
    refine ⟨[], ?_, rfl⟩
    have hnone : generation + .ofNat 0 = generation := UInt32.add_zero generation
    rw [hnone, reopened, hnext.reopened_self]
    exact .nil
  | succ n ih =>
    obtain ⟨rounds, hpath, hcount⟩ := ih
    obtain ⟨round, hround, hone⟩ := path_round (s := s.reopened index (generation + .ofNat n))
      (hnext.reopened _) callback (past ++ rounds)
    refine ⟨rounds ++ round, ?_, by rw [releases_append, hcount, hone]⟩
    have hafter : (s.reopened index (generation + .ofNat n)).reopened index
        (generation + .ofNat n + 1) = s.reopened index (generation + .ofNat (n + 1)) := by
      simp [reopened, UInt32.ofNat_add, UInt32.add_assoc]
    rw [← hafter]
    exact hpath.append hround

/-- **The slot that is used next can be brought into any generation**, and everything else stays as
it is. It takes one release for each generation on the way. -/
theorem exists_path_reopened (hnext : s.scheduler.state.timers.NextSlot index generation)
    (callback : κ) (past : History κ) (target : UInt32) :
    ∃ rounds, Path (fun _ _ _ _ => True) past s rounds (s.reopened index target) ∧
      releases rounds index = (target - generation).toNat := by
  have htarget : generation + .ofNat (target - generation).toNat = target := by
    rw [UInt32.ofNat_toNat, UInt32.add_comm, UInt32.sub_add_cancel]
  have hrounds := exists_path_rounds hnext callback past (target - generation).toNat
  rwa [htarget] at hrounds

/-! ### The first key is given again -/

/-- A host without tasks: its only slot was used before and is in this generation. These countdowns
are in its queue, and these passes in progress. -/
def emptied (countdowns : List Countdown) (passes : List (Frame Nat)) (generation : UInt32) :
    Host Nat where
  scheduler :=
    { Scheduler.create (κ := Nat) ⟨0⟩ {} with
      state :=
        { State.ofConfig {} with
          timers := ⟨64, #[⟨generation, none⟩], [0], 0⟩
          timerQueue := ⟨countdowns⟩
          counters.timersFired := 1 } }
  time := 0
  passes := passes

/-- **The generation starts over**: from there a run goes on so that the next task gets the key of
the first one. The slot has been freed `2 ^ 32` times then. -/
theorem Run.exists_emptied {past : History Nat} {countdowns : List Countdown}
    {passes : List (Frame Nat)}
    (h : Run {} (fun _ _ _ _ => True) past (emptied countdowns passes 1))
    (hone : releases past 0 = 1) :
    ∃ past', Run {} (fun _ _ _ _ => True) past' (emptied countdowns passes 0) ∧
      releases past' 0 = UInt32.size := by
  have hnext : (emptied countdowns passes 1).scheduler.state.timers.NextSlot 0 1 :=
    ⟨⟨[], rfl⟩, rfl⟩
  obtain ⟨rounds, hpath, hcount⟩ := exists_path_reopened hnext 0 past 0
  refine ⟨past ++ rounds, h.append hpath, ?_⟩
  rw [releases_append, hone, hcount]
  rfl

/-- **A countdown that was left behind is there when its key is given again**: a callback releases
its own task and reschedules it, and then the generation of the slot starts over. -/
theorem exists_run_leftBehind :
    ∃ past, Run {} (fun _ _ _ _ => True) past (emptied [⟨⟨0, 0⟩, .ofTime 0, 1000⟩] [] 0) ∧
      releases past 0 = UInt32.size := by
  obtain ⟨past, hrun, hone⟩ : ∃ past,
      Run {} (fun _ _ _ _ => True) past (emptied [⟨⟨0, 0⟩, .ofTime 0, 1000⟩] [] 1) ∧
        releases past 0 = 1 :=
    ⟨_, Run.of_play ⟨0⟩ 0
      [.ask (.addTimer 10 (.after 0) false), .perform 0, .enter, .resume, .resume, .resume,
       .ask (.releaseTimer ⟨⟨0⟩, ⟨0, 0⟩⟩), .perform 0,
       .ask (.reschedule ⟨⟨0⟩, ⟨0, 0⟩⟩ (.after 1000)), .perform 0, .resume, .resume, .resume,
       .resume] rfl, rfl⟩
  exact hrun.exists_emptied hone

end Host

end CoopScheduler
