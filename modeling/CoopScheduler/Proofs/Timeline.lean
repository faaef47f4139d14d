import CoopScheduler.Proofs.TrueTime
import Mathlib.Data.List.MinMax

/-!
# Timelines

A **timeline** is a list of armings in the order of their true deadlines. `Timeline.insert`
puts an arming behind all that are due no later, so armings with equal deadlines keep the
order in which they were inserted, and `Timeline.ofArmings` sorts a list that way.

* Sorting commutes with taking armings out (`Timeline.filter_ofArmings`).
* The head is the first of the armings with the least deadline
  (`Timeline.head?_ofArmings`).
* The timer queue, which sees nothing but ticks, inserts at the same place as long as its order
  test is exact (`Timeline.entries_insert`), and it is exact in a window of half a turn of the
  clock (`Timeline.Window`).
* The queue can tell from its ticks that it is in order if each deadline is within reach of the
  countdowns in front (`Timeline.Legible`).
-/

namespace CoopScheduler

namespace Timeline

/-- In the order of the true deadlines. -/
abbrev Sorted (l : List Arming) : Prop :=
  l.Pairwise fun a b => a.due ≤ b.due

/-- Puts an arming behind all that are due no later. -/
def insert (l : List Arming) (a : Arming) : List Arming :=
  l.takeWhile (fun q => q.due ≤ a.due) ++ a :: l.dropWhile (fun q => q.due ≤ a.due)

/-- Sorts armings by their deadlines; equal ones keep their order. -/
def ofArmings (l : List Arming) : List Arming :=
  l.foldl insert []

/-! ### Insertion -/

theorem perm_insert (l : List Arming) (a : Arming) : (insert l a).Perm (a :: l) := by
  rw [insert]
  refine List.perm_middle.trans ?_
  rw [List.takeWhile_append_dropWhile]

theorem mem_insert {l : List Arming} {a b : Arming} : b ∈ insert l a ↔ b = a ∨ b ∈ l := by
  rw [(perm_insert l a).mem_iff, List.mem_cons]

private theorem takeWhile_eq_filter {l : List Arming} (h : Sorted l) (n : ℕ) :
    l.takeWhile (fun q => q.due ≤ n) = l.filter fun q => q.due ≤ n := by
  induction l with
  | nil => rfl
  | cons q l ih =>
    obtain ⟨hq, hl⟩ := List.pairwise_cons.mp h
    by_cases hle : q.due ≤ n
    · simp [hle, ih hl]
    · have hnone : l.filter (fun b => b.due ≤ n) = [] :=
        List.filter_eq_nil_iff.mpr fun b hb => by
          have := hq b hb
          simp only [decide_eq_true_eq]
          omega
      simp [hle, hnone]

private theorem dropWhile_eq_filter {l : List Arming} (h : Sorted l) (n : ℕ) :
    l.dropWhile (fun q => q.due ≤ n) = l.filter fun q => ¬q.due ≤ n := by
  induction l with
  | nil => rfl
  | cons q l ih =>
    obtain ⟨hq, hl⟩ := List.pairwise_cons.mp h
    by_cases hle : q.due ≤ n
    · simp [hle, ih hl]
    · have hall : l.filter (fun b => ¬b.due ≤ n) = l :=
        List.filter_eq_self.mpr fun b hb => by
          have := hq b hb
          simp only [decide_eq_true_eq]
          omega
      simp only [List.dropWhile_cons, List.filter_cons, hle, hall]
      simp

/-- In a sorted list the armings that are due no later are the ones in front. -/
theorem insert_eq_filter {l : List Arming} (h : Sorted l) (a : Arming) :
    insert l a = l.filter (fun q => q.due ≤ a.due) ++ a :: l.filter fun q => ¬q.due ≤ a.due := by
  rw [insert, takeWhile_eq_filter h, dropWhile_eq_filter h]

theorem sorted_insert {l : List Arming} (h : Sorted l) (a : Arming) : Sorted (insert l a) := by
  rw [insert_eq_filter h, Sorted, List.pairwise_append]
  refine ⟨h.filter _, List.pairwise_cons.mpr ⟨fun b hb => ?_, h.filter _⟩, fun b hb b' hb' => ?_⟩
  · have := (List.mem_filter.mp hb).2
    simp only [decide_eq_true_eq] at this
    omega
  · have hle : b.due ≤ a.due := by simpa using (List.mem_filter.mp hb).2
    rcases List.mem_cons.mp hb' with rfl | hb'
    · exact hle
    · have := (List.mem_filter.mp hb').2
      simp only [decide_eq_true_eq] at this
      omega

/-- The place of an arming: behind all that are due no later, ahead of all others. -/
theorem exists_insert_eq {l : List Arming} (h : Sorted l) (a : Arming) :
    ∃ front back, l = front ++ back ∧ insert l a = front ++ a :: back ∧
      (∀ q ∈ front, q.due ≤ a.due) ∧ ∀ q ∈ back, a.due < q.due := by
  refine ⟨_, _, (List.takeWhile_append_dropWhile (p := fun q => q.due ≤ a.due)).symm, rfl, ?_, ?_⟩
  · rw [takeWhile_eq_filter h]
    intro q hq
    simpa using (List.mem_filter.mp hq).2
  · rw [dropWhile_eq_filter h]
    intro q hq
    simpa using (List.mem_filter.mp hq).2

/-- Taking armings out before an insertion or behind it is the same. -/
theorem filter_insert {l : List Arming} (h : Sorted l) (a : Arming) (p : Arming → Bool) :
    (insert l a).filter p = if p a then insert (l.filter p) a else l.filter p := by
  by_cases hp : p a
  · rw [if_pos hp, insert_eq_filter h, insert_eq_filter (h.filter p), List.filter_append,
      List.filter_cons_of_pos hp, List.filter_comm, List.filter_comm (p := p)]
  · rw [if_neg hp, insert, List.filter_append, List.filter_cons_of_neg hp, ← List.filter_append,
      List.takeWhile_append_dropWhile]

/-! ### Sorting -/

@[simp]
theorem ofArmings_concat (l : List Arming) (a : Arming) :
    ofArmings (l ++ [a]) = insert (ofArmings l) a := by
  rw [ofArmings, List.foldl_append]
  rfl

theorem sorted_ofArmings (l : List Arming) : Sorted (ofArmings l) := by
  induction l using List.reverseRecOn with
  | nil => exact List.Pairwise.nil
  | append_singleton l a ih =>
    rw [ofArmings_concat]
    exact sorted_insert ih a

theorem perm_ofArmings (l : List Arming) : (ofArmings l).Perm l := by
  induction l using List.reverseRecOn with
  | nil => exact List.Perm.nil
  | append_singleton l a ih =>
    rw [ofArmings_concat]
    exact ((perm_insert _ a).trans (ih.cons a)).trans (List.perm_append_singleton a l).symm

theorem filter_ofArmings (l : List Arming) (p : Arming → Bool) :
    (ofArmings l).filter p = ofArmings (l.filter p) := by
  induction l using List.reverseRecOn with
  | nil => rfl
  | append_singleton l a ih =>
    rw [ofArmings_concat, filter_insert (sorted_ofArmings l), ih, List.filter_append]
    by_cases hp : p a <;> simp [hp]

theorem head?_insert (l : List Arming) (a : Arming) :
    (insert l a).head? = match l.head? with
      | none => some a
      | some q => if a.due < q.due then some a else some q := by
  cases l with
  | nil => rfl
  | cons q l =>
    by_cases hle : q.due ≤ a.due
    · simp [insert, hle, Nat.not_lt.mpr hle]
    · simp [insert, hle, Nat.not_le.mp hle]

/-- The head is the first of the armings with the least deadline. -/
theorem head?_ofArmings (l : List Arming) : (ofArmings l).head? = l.argmin Arming.due := by
  induction l using List.reverseRecOn with
  | nil => rfl
  | append_singleton l a ih =>
    rw [ofArmings_concat, head?_insert, ih, List.argmin_concat]
    cases l.argmin Arming.due <;> rfl

/-! ### The queue that sees ticks -/

/-- The timer queue inserts where the timeline does if its order test is exact. -/
theorem entries_insert {l : List Arming} {a : Arming}
    (hexact : ∀ q ∈ l,
      q.countdown.dueNoLaterThan a.countdown.deadline = true ↔ q.due ≤ a.due) :
    ((⟨l.map Arming.countdown⟩ : TimerQueue).insert a.countdown).entries
      = (insert l a).map Arming.countdown := by
  simp only [TimerQueue.insert, insert, List.map_append, List.map_cons]
  induction l with
  | nil => rfl
  | cons q l ih =>
    have hq := hexact q List.mem_cons_self
    have hl := ih fun b hb => hexact b (List.mem_cons_of_mem q hb)
    -- Both insertions walk past the same armings, as the test agrees on each.
    by_cases hle : q.due ≤ a.due
    · simpa [hle, hq.mpr hle] using hl
    · have hlater := Bool.eq_false_iff.mpr fun h => hle (hq.mp h)
      simp [hle, hlater]

/-- In the order of the true deadlines, and so that ticks can tell: each deadline passes the order
test of every countdown in front of it. -/
abbrev Legible (l : List Arming) : Prop :=
  l.Pairwise fun a b => a.due ≤ b.due ∧ a.countdown.dueNoLaterThan b.countdown.deadline = true

theorem Legible.sorted {l : List Arming} (h : Legible l) : Sorted l :=
  h.imp And.left

/-- A countdown is inserted into a legible queue at its place, if the order test tells where that
is; and the queue stays legible if the countdown tells the deadlines behind it. -/
theorem Legible.insert {l : List Arming} {a : Arming} (h : Legible l)
    (hexact : ∀ q ∈ l,
      q.countdown.dueNoLaterThan a.countdown.deadline = true ↔ q.due ≤ a.due)
    (hbehind : ∀ q ∈ l, a.due < q.due →
      a.countdown.dueNoLaterThan q.countdown.deadline = true) : Legible (insert l a) := by
  obtain ⟨front, back, rfl, heq, hfront, hback⟩ := exists_insert_eq h.sorted a
  obtain ⟨hinFront, hinBack, hacross⟩ := List.pairwise_append.mp h
  rw [heq, Legible, List.pairwise_append, List.pairwise_cons]
  refine ⟨hinFront, ⟨fun q hq => ?_, hinBack⟩, fun q hq b hb => ?_⟩
  · have hlater := hback q hq
    exact ⟨Nat.le_of_lt hlater, hbehind q (List.mem_append_right _ hq) hlater⟩
  · rcases List.mem_cons.mp hb with rfl | hb
    · exact ⟨hfront q hq, (hexact q (List.mem_append_left _ hq)).mpr (hfront q hq)⟩
    · exact hacross q hq b hb

/-- A queue that is legible passes for one in order. -/
theorem Legible.isSorted {l : List Arming} (h : Legible l) :
    (⟨l.map Arming.countdown⟩ : TimerQueue).isSorted = true := by
  rw [TimerQueue.isSorted, List.all_eq_true]
  induction h with
  | nil => simp
  | @cons a l hahead hl ih =>
    cases l with
    | nil => simp
    | cons b l =>
      rintro ⟨x, y⟩ hxy
      rcases List.mem_cons.mp hxy with heq | hxy
      · cases heq
        exact (hahead b List.mem_cons_self).2
      · exact ih ⟨x, y⟩ hxy

/-- At a reading taken at the true time `now`, every countdown began before it and no more than
half a turn of the clock ago, and none is longer than that. -/
structure Window (l : List Arming) (now : Nat) : Prop where
  since_le : ∀ a ∈ l, a.since ≤ now
  age_le : ∀ a ∈ l, now ≤ a.since + Countdown.halfRange.toNat
  short : ∀ a ∈ l, a.period ≤ Countdown.halfRange

theorem Window.of_subset {l l' : List Arming} {now : Nat} (h : Window l now) (hsub : l' ⊆ l) :
    Window l' now :=
  ⟨fun a ha => h.since_le a (hsub ha), fun a ha => h.age_le a (hsub ha),
    fun a ha => h.short a (hsub ha)⟩

/-- **The order test is exact in a window**, for a countdown that begins now. -/
theorem Window.dueNoLaterThan_iff {l : List Arming} {a q : Arming} (h : Window l a.since)
    (hshort : a.period ≤ Countdown.halfRange) (hq : q ∈ l) :
    q.countdown.dueNoLaterThan a.countdown.deadline = true ↔ q.due ≤ a.due := by
  have hsince := h.since_le q hq
  have hage := h.age_le q hq
  rw [UInt32.le_iff_toNat_le, Countdown.toNat_halfRange] at hshort
  rw [Countdown.toNat_halfRange] at hage
  refine Arming.dueNoLaterThan_iff (Nat.le_trans hsince a.since_le_due) ?_
  change a.since + a.period.toNat < q.since + 4294967296
  omega

end Timeline

end CoopScheduler
