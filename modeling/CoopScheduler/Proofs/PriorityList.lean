import CoopScheduler.Proofs.Timeline

/-!
# The timer queue as a stable priority list

Whatever else happens around it, the timer queue answers requests (`QueueRequest`), and three
things that do so are compared.

* `TimerQueue.serve` is the queue itself, which sees ticks.
* `Timeline.serve` sees true times. It keeps a list in the order of the deadlines by stable
  insertion and takes the first entry of a task out of it.
* `Arrivals.serve` sees true times, too, and keeps its entries in the order in which they were
  inserted. It searches for the first one of the least deadline.

The two lists always give the same replies (`Timeline.serveAll_ofArmings`), and so does the queue as
long as each new entry is less than a turn of the clock away from those in the queue (`Spaced`):
`TimerQueue.stable_priority_list`.
-/

namespace CoopScheduler

/-- What a timer queue is asked to do. A new entry is given with the true time at which it
begins. -/
inductive QueueRequest where
  | insert (a : Arming)
  | remove (key : Key)
  | peek
  | pop
deriving DecidableEq

/-- What a timer queue answers. -/
inductive QueueReply where
  /-- Whether the new entry is the head. -/
  | leads (flag : Bool)
  /-- The entry that was found, if there was one. -/
  | entry (c : Option Countdown)
deriving DecidableEq

/-- The replies to requests that come one after another, and what is left in the end. -/
def serveAll {σ : Type} (serve : σ → QueueRequest → QueueReply × σ) :
    σ → List QueueRequest → List QueueReply × σ
  | s, [] => ([], s)
  | s, request :: later =>
    let (reply, s') := serve s request
    let (replies, last) := serveAll serve s' later
    (reply :: replies, last)

namespace TimerQueue

/-- What the queue does. -/
def serve (q : TimerQueue) : QueueRequest → QueueReply × TimerQueue
  | .insert a => (.leads (q.wouldLead a.countdown), q.insert a.countdown)
  | .remove key => (.entry (q.find? key), q.erase key)
  | .peek => (.entry q.peek?, q)
  | .pop => (.entry q.pop.1, q.pop.2)

end TimerQueue

namespace Timeline

/-- What a list does that is kept in the order of the true deadlines. -/
def serve (l : List Arming) : QueueRequest → QueueReply × List Arming
  | .insert a => (.leads (∀ q ∈ l, a.due < q.due), insert l a)
  | .remove key =>
    (.entry ((l.find? (·.key = key)).map Arming.countdown), l.eraseP (·.key = key))
  | .peek => (.entry (l.head?.map Arming.countdown), l)
  | .pop => (.entry (l.head?.map Arming.countdown), l.tail)

end Timeline

namespace Arrivals

/-- The list without an entry that was found in it. -/
def without (l : List Arming) : Option Arming → List Arming
  | none => l
  | some a => l.erase a

/-- What a list does that is kept in the order of insertion. -/
def serve (l : List Arming) : QueueRequest → QueueReply × List Arming
  | .insert a => (.leads (∀ q ∈ l, a.due < q.due), l ++ [a])
  | .remove key =>
    let found := (l.filter (·.key = key)).argmin Arming.due
    (.entry (found.map Arming.countdown), without l found)
  | .peek => (.entry ((l.argmin Arming.due).map Arming.countdown), l)
  | .pop =>
    let found := l.argmin Arming.due
    (.entry (found.map Arming.countdown), without l found)

end Arrivals

/-! ### Sorted and unsorted lists -/

namespace Timeline

private theorem erase_insert_of_mem {l : List Arming} (h : Sorted l) {a : Arming} (hmem : a ∈ l)
    (b : Arming) : (insert l b).erase a = insert (l.erase a) b := by
  rw [insert_eq_filter h, insert_eq_filter (h.sublist List.erase_sublist), ← List.erase_filter,
    ← List.erase_filter]
  by_cases hle : a.due ≤ b.due
  · have hfront : a ∈ l.filter fun q => q.due ≤ b.due := by simp [hmem, hle]
    have hback : a ∉ l.filter fun q => ¬q.due ≤ b.due := by simp [hle]
    rw [List.erase_append_left _ hfront, List.erase_of_not_mem hback]
  · have hfront : a ∉ l.filter fun q => q.due ≤ b.due := by simp [hle]
    have hne : b ≠ a := fun heq => hle (heq ▸ Nat.le_refl _)
    rw [List.erase_append_right _ hfront, List.erase_cons_tail (by simpa using hne),
      List.erase_of_not_mem hfront]

private theorem erase_insert_self {l : List Arming} {a : Arming} (hmem : a ∉ l) :
    (insert l a).erase a = l := by
  have hfront : a ∉ l.takeWhile fun q => q.due ≤ a.due :=
    fun h => hmem ((List.takeWhile_sublist _).subset h)
  rw [insert, List.erase_append_right _ hfront, List.erase_cons_head,
    List.takeWhile_append_dropWhile]

/-- Taking one entry out before sorting or behind it is the same. -/
theorem erase_ofArmings (l : List Arming) (a : Arming) :
    (ofArmings l).erase a = ofArmings (l.erase a) := by
  induction l using List.reverseRecOn with
  | nil => rfl
  | append_singleton l b ih =>
    have hsorted := sorted_ofArmings l
    have hiff := (perm_ofArmings l).mem_iff (a := a)
    rw [ofArmings_concat]
    by_cases hmem : a ∈ l
    · rw [erase_insert_of_mem hsorted (hiff.mpr hmem), ih, List.erase_append_left _ hmem,
        ofArmings_concat]
    · have hnot : a ∉ ofArmings l := fun h => hmem (hiff.mp h)
      rw [List.erase_append_right _ hmem]
      by_cases heq : a = b
      · subst heq
        rw [erase_insert_self hnot, List.erase_cons_head, List.append_nil]
      · have hother : a ∉ insert (ofArmings l) b :=
          fun h => (mem_insert.mp h).elim heq hnot
        rw [List.erase_of_not_mem hother, List.erase_of_not_mem (by simpa using heq),
          ofArmings_concat]

/-- To erase the first entry with a property is to erase the entry that a search for it finds. -/
private theorem eraseP_eq_without (l : List Arming) (p : Arming → Bool) :
    l.eraseP p = Arrivals.without l (l.find? p) := by
  cases hfind : l.find? p with
  | none => exact List.eraseP_of_forall_not (by simpa using List.find?_eq_none.mp hfind)
  | some a =>
    obtain ⟨ha, before, behind, rfl, hbefore⟩ := List.find?_eq_some_iff_append.mp hfind
    have hnot : ∀ b ∈ before, ¬p b = true := fun b hb => by simpa using hbefore b hb
    have hmem : a ∉ before := fun hmem => hnot a hmem ha
    rw [Arrivals.without, List.eraseP_append_right _ hnot, List.eraseP_cons_of_pos ha,
      List.erase_append_right _ hmem, List.erase_cons_head]

private theorem tail_eq_without (l : List Arming) : l.tail = Arrivals.without l l.head? := by
  cases l with
  | nil => rfl
  | cons a l => exact (List.erase_cons_head a l).symm

private theorem without_ofArmings (l : List Arming) (a? : Option Arming) :
    Arrivals.without (ofArmings l) a? = ofArmings (Arrivals.without l a?) := by
  cases a? with
  | none => rfl
  | some a => exact erase_ofArmings l a

/-- The first entry with a property in the sorted list is the first of the least deadline among
those that have it. -/
theorem find?_ofArmings (l : List Arming) (p : Arming → Bool) :
    (ofArmings l).find? p = (l.filter p).argmin Arming.due := by
  rw [← List.head?_filter, filter_ofArmings, head?_ofArmings]

/-- **Sorting is a simulation**: a sorted list serves a request as an unsorted one does. -/
theorem serve_ofArmings (l : List Arming) (request : QueueRequest) :
    serve (ofArmings l) request
      = ((Arrivals.serve l request).1, ofArmings (Arrivals.serve l request).2) := by
  cases request with
  | insert a => simp [serve, Arrivals.serve, (perm_ofArmings l).mem_iff]
  | remove key =>
    simp only [serve, Arrivals.serve]
    rw [eraseP_eq_without, find?_ofArmings, without_ofArmings]
  | peek => simp only [serve, Arrivals.serve, head?_ofArmings]
  | pop =>
    simp only [serve, Arrivals.serve]
    rw [tail_eq_without, head?_ofArmings, without_ofArmings]

/-- Sorted and unsorted lists give the same replies throughout. -/
theorem serveAll_ofArmings (requests : List QueueRequest) (l : List Arming) :
    serveAll serve (ofArmings l) requests
      = ((serveAll Arrivals.serve l requests).1,
        ofArmings (serveAll Arrivals.serve l requests).2) := by
  induction requests generalizing l with
  | nil => rfl
  | cons request later ih => simp only [serveAll, serve_ofArmings, ih]

end Timeline

/-! ### The queue that sees ticks -/

/-- The deadline of a new entry falls into the turn of the clock that begins with each entry in the
queue, and none of these is due a turn after the new one begins. -/
def QueueRequest.Fits (l : List Arming) : QueueRequest → Prop
  | .insert a => ∀ q ∈ l,
      q.since ≤ a.due ∧ a.due < q.since + UInt32.size ∧ q.due < a.since + UInt32.size
  | _ => True

/-- Each new entry fits to those that are in the queue when it is inserted. -/
def Spaced (l : List Arming) : List QueueRequest → Prop
  | [] => True
  | request :: later => request.Fits l ∧ Spaced (Timeline.serve l request).2 later

instance (l : List Arming) (request : QueueRequest) : Decidable (request.Fits l) :=
  match request with
  | .insert a => inferInstanceAs (Decidable (∀ q ∈ l,
      q.since ≤ a.due ∧ a.due < q.since + UInt32.size ∧ q.due < a.since + UInt32.size))
  | .remove _ | .peek | .pop => isTrue trivial

instance Spaced.decidable : (l : List Arming) → (requests : List QueueRequest) →
    Decidable (Spaced l requests)
  | _, [] => isTrue trivial
  | l, request :: later =>
    have := Spaced.decidable (Timeline.serve l request).2 later
    inferInstanceAs (Decidable (request.Fits l ∧ Spaced (Timeline.serve l request).2 later))

theorem Spaced.of_append {l : List Arming} {requests later : List QueueRequest}
    (h : Spaced l (requests ++ later)) : Spaced l requests := by
  induction requests generalizing l with
  | nil => trivial
  | cons request requests ih => exact ⟨h.1, ih h.2⟩

namespace Timeline

variable {l : List Arming} {request : QueueRequest}

/-- The order test is exact for an entry that fits. -/
private theorem dueNoLaterThan_iff_of_fits {a : Arming} (hfits : (QueueRequest.insert a).Fits l) :
    ∀ q ∈ l, q.countdown.dueNoLaterThan a.countdown.deadline = true ↔ q.due ≤ a.due := by
  intro q hq
  obtain ⟨hsince, hturn, -⟩ := hfits q hq
  exact Arming.dueNoLaterThan_iff hsince hturn

/-- **A request keeps the queue legible**, if a new entry fits. -/
theorem Legible.serve (h : Legible l) (hfits : request.Fits l) :
    Legible (serve l request).2 := by
  cases request with
  | insert a =>
    refine h.insert (dueNoLaterThan_iff_of_fits hfits) fun q hq hlater => ?_
    obtain ⟨-, -, hturn⟩ := hfits q hq
    refine (Arming.dueNoLaterThan_iff ?_ hturn).mpr (Nat.le_of_lt hlater)
    exact Nat.le_trans a.since_le_due (Nat.le_of_lt hlater)
  | remove key => exact List.Pairwise.sublist List.eraseP_sublist h
  | peek => exact h
  | pop => exact List.Pairwise.tail h

/-- An entry would lead the queue if all others are due later. -/
private theorem wouldLead_eq (h : Sorted l) {a : Arming}
    (hfits : (QueueRequest.insert a).Fits l) :
    (⟨l.map Arming.countdown⟩ : TimerQueue).wouldLead a.countdown
      = decide (∀ q ∈ l, a.due < q.due) := by
  cases l with
  | nil => simp [TimerQueue.wouldLead]
  | cons head l =>
    have hexact := dueNoLaterThan_iff_of_fits hfits head List.mem_cons_self
    have hleast := (List.pairwise_cons.mp h).1
    have hall : (∀ q ∈ head :: l, a.due < q.due) ↔ ¬head.due ≤ a.due := by
      rw [List.forall_mem_cons]
      refine ⟨fun hlater => Nat.not_le.mpr hlater.1, fun hlater => ?_⟩
      have hhead := Nat.not_le.mp hlater
      exact ⟨hhead, fun q hq => Nat.lt_of_lt_of_le hhead (hleast q hq)⟩
    simp only [TimerQueue.wouldLead, List.map_cons, hall, ← hexact]
    simp

/-- **Showing only ticks is a simulation**: the queue serves a request as the sorted list does. -/
theorem serve_map (h : Sorted l) (hfits : request.Fits l) :
    (⟨l.map Arming.countdown⟩ : TimerQueue).serve request
      = ((serve l request).1, ⟨(serve l request).2.map Arming.countdown⟩) := by
  cases request with
  | insert a =>
    have hentries := entries_insert (dueNoLaterThan_iff_of_fits hfits)
    simp only [TimerQueue.serve, serve, wouldLead_eq h hfits, ← hentries]
  | remove key =>
    simp only [TimerQueue.serve, serve, TimerQueue.find?, TimerQueue.erase, List.find?_map,
      List.eraseP_map]
    rfl
  | peek => simp [TimerQueue.serve, serve, TimerQueue.peek?]
  | pop => cases l <;> rfl

/-- The queue gives the same replies as the sorted list throughout, and stays legible. -/
theorem serveAll_map {requests : List QueueRequest} (h : Legible l) (hspaced : Spaced l requests) :
    serveAll TimerQueue.serve ⟨l.map Arming.countdown⟩ requests
        = ((serveAll serve l requests).1, ⟨(serveAll serve l requests).2.map Arming.countdown⟩) ∧
      Legible (serveAll serve l requests).2 := by
  induction requests generalizing l with
  | nil => exact ⟨rfl, h⟩
  | cons request later ih =>
    obtain ⟨hfits, hlater⟩ := hspaced
    obtain ⟨hserve, hlegible⟩ := ih (h.serve hfits) hlater
    refine ⟨?_, hlegible⟩
    simp only [serveAll, serve_map h.sorted hfits, hserve]

end Timeline

namespace TimerQueue

/-- **The timer queue is a stable priority list** as long as each new entry fits to those in the
queue. At any time it has answered as the list does that is kept in the order of the true deadlines
by stable insertion, and as the one does that keeps the order of insertion and looks for the
first entry of the least deadline; it holds the entries of the former, which are those of the
latter in order; and it says of itself that it is in order. -/
theorem stable_priority_list {requests before : List QueueRequest} (h : Spaced [] requests)
    (hbefore : before <+: requests) :
    ∃ replies queue sorted arrivals,
      serveAll serve {} before = (replies, queue) ∧
      serveAll Timeline.serve [] before = (replies, sorted) ∧
      serveAll Arrivals.serve [] before = (replies, arrivals) ∧
      queue.entries = sorted.map Arming.countdown ∧ sorted = Timeline.ofArmings arrivals ∧
      Timeline.Sorted sorted ∧ queue.isSorted = true := by
  obtain ⟨later, rfl⟩ := hbefore
  obtain ⟨hqueue, hlegible⟩ := Timeline.serveAll_map List.Pairwise.nil h.of_append
  have hsorted : serveAll Timeline.serve [] before
      = ((serveAll Arrivals.serve [] before).1,
        Timeline.ofArmings (serveAll Arrivals.serve [] before).2) :=
    Timeline.serveAll_ofArmings before []
  rw [hsorted] at hqueue hlegible
  exact ⟨_, _, _, _, hqueue, hsorted, rfl, rfl, rfl, hlegible.sorted, hlegible.isSorted⟩

/-- Three tasks are queued for one deadline behind a wrap of the clock, from different beginnings.
One of them is queued a second time for an earlier deadline, and removing it takes this entry
first and then the one between the other two. A fourth task is taken while it is overdue. -/
theorem stable_priority_list_across_wrap :
    ∃ requests replies queue sorted arrivals,
      requests = [.insert ⟨⟨0, 0⟩, 4294967000, 1000⟩, .insert ⟨⟨1, 0⟩, 4294967200, 800⟩,
        .insert ⟨⟨2, 0⟩, 4294967200, 50⟩, .insert ⟨⟨1, 0⟩, 4294967300, 500⟩, .pop,
        .insert ⟨⟨3, 0⟩, 4294967300, 700⟩, .remove ⟨1, 0⟩, .remove ⟨1, 0⟩, .remove ⟨2, 0⟩,
        .peek] ∧
      Spaced [] requests ∧
      replies = [.leads true, .leads false, .leads true, .leads false,
        .entry (some ⟨⟨2, 0⟩, .ofTime 4294967200, 50⟩), .leads false,
        .entry (some ⟨⟨1, 0⟩, .ofTime 4294967300, 500⟩),
        .entry (some ⟨⟨1, 0⟩, .ofTime 4294967200, 800⟩), .entry none,
        .entry (some ⟨⟨0, 0⟩, .ofTime 4294967000, 1000⟩)] ∧
      serveAll serve {} requests = (replies, queue) ∧
      serveAll Timeline.serve [] requests = (replies, sorted) ∧
      serveAll Arrivals.serve [] requests = (replies, arrivals) ∧
      queue.entries = sorted.map Arming.countdown ∧ sorted = Timeline.ofArmings arrivals ∧
      Timeline.Sorted sorted ∧ queue.isSorted = true := by
  have hspaced : Spaced []
      [.insert ⟨⟨0, 0⟩, 4294967000, 1000⟩, .insert ⟨⟨1, 0⟩, 4294967200, 800⟩,
        .insert ⟨⟨2, 0⟩, 4294967200, 50⟩, .insert ⟨⟨1, 0⟩, 4294967300, 500⟩, .pop,
        .insert ⟨⟨3, 0⟩, 4294967300, 700⟩, .remove ⟨1, 0⟩, .remove ⟨1, 0⟩, .remove ⟨2, 0⟩,
        .peek] := by
    decide
  obtain ⟨replies, queue, sorted, arrivals, hqueue, hrest⟩ :=
    stable_priority_list hspaced List.prefix_rfl
  exact ⟨_, replies, queue, sorted, arrivals, rfl, hspaced, (congrArg Prod.fst hqueue).symm,
    hqueue, hrest⟩

end TimerQueue

end CoopScheduler
