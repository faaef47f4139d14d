import CoopScheduler.Proofs.Occupancy

/-!
# The arena as a bounded finite map

An arena is asked to store, to look up, to change and to remove values (`Arena.Request`), under keys
that it has given, has given long ago or never gave. What was asked and answered so far
(`Arena.Dialogue`) tells all that there is to know about it:

* `Arena.bound`: the value that was stored last under a key, with the changes since then, unless
  it was removed.
* `Arena.vacancies`: the slots that were freed and not given again, the last freed first.
* `Arena.finite_map`: **the arena is the map that its dialogue tells**, from keys to values, with
  room for as many as its capacity says; and it gives the slot that was freed last, or else a new
  one.
-/

namespace CoopScheduler

namespace Arena

variable {α : Type}

/-- What an arena is asked to do. -/
inductive Request (α : Type) where
  | insert (value : α)
  | get (key : Key)
  | modify (key : Key) (f : α → α)
  | remove (key : Key)

/-- What an arena answers. -/
inductive Reply (α : Type) where
  /-- The value is stored under this key. -/
  | stored (key : Key)
  /-- The value is not stored. -/
  | refused (refusal : Refusal α)
  /-- What the key has found. -/
  | found (value? : Option α)

/-- What an arena does with a request. -/
def serve (a : Arena α) : Request α → Reply α × Arena α
  | .insert value =>
    match a.insert value with
    | .ok (key, b) => (.stored key, b)
    | .error refusal => (.refused refusal, a)
  | .get key => (.found (a.get? key), a)
  | .modify key f => (.found (a.get? key), a.modify key f)
  | .remove key => (.found (a.remove key).1, (a.remove key).2)

/-- Requests with their replies, from an empty arena to what has become of it. -/
inductive Dialogue (capacity : Nat) : List (Request α × Reply α) → Arena α → Prop where
  | nil : Dialogue capacity [] { capacity := capacity }
  | snoc {past : List (Request α × Reply α)} {a : Arena α} (h : Dialogue capacity past a)
      (request : Request α) :
      Dialogue capacity (past ++ [(request, (a.serve request).1)]) (a.serve request).2

/-! ### What a dialogue tells -/

/-- What a request with its reply makes of the value of a key. -/
def rebind (key : Key) (value? : Option α) : Request α × Reply α → Option α
  | (.insert value, .stored other) => if key = other then some value else value?
  | (.modify other f, _) => if key = other then value?.map f else value?
  | (.remove other, _) => if key = other then none else value?
  | _ => value?

/-- The value that was stored last under a key, unless it was removed. -/
def bound (past : List (Request α × Reply α)) (key : Key) : Option α :=
  past.foldl (rebind key) none

/-- What a request with its reply makes of the vacant slots. -/
def vacate (vacant : List Nat) : Request α × Reply α → List Nat
  | (.insert _, .stored key) => vacant.erase key.index
  | (.remove key, .found (some _)) => key.index :: vacant
  | _ => vacant

/-- The slots that were freed and not given again, the last freed first. -/
def vacancies (past : List (Request α × Reply α)) : List Nat :=
  past.foldl vacate []

@[simp]
theorem bound_concat (past : List (Request α × Reply α)) (entry : Request α × Reply α) (key : Key) :
    bound (past ++ [entry]) key = rebind key (bound past key) entry := by
  rw [bound, List.foldl_append]
  rfl

@[simp]
theorem vacancies_concat (past : List (Request α × Reply α)) (entry : Request α × Reply α) :
    vacancies (past ++ [entry]) = vacate (vacancies past) entry := by
  rw [vacancies, List.foldl_append]
  rfl

/-! ### What becomes of an arena -/

variable {a : Arena α} {capacity : Nat} {past : List (Request α × Reply α)}

/-- An arena that is in order and is what a dialogue tells. -/
structure Tells (capacity : Nat) (past : List (Request α × Reply α)) (a : Arena α) : Prop where
  valid : a.Valid
  capacity_eq : a.capacity = capacity
  get?_eq : ∀ key, a.get? key = bound past key
  free_eq : a.free = vacancies past

/-- **A request keeps the arena what the dialogue tells.** -/
theorem Tells.serve (h : Tells capacity past a) (request : Request α) :
    Tells capacity (past ++ [(request, (a.serve request).1)]) (a.serve request).2 := by
  obtain ⟨hvalid, hcapacity, hget, hfree⟩ := h
  cases request with
  | insert value =>
    rcases hvalid.insert_cases value with ⟨-, hinsert⟩ | ⟨-, key, b, hinsert, hindex, htail⟩
    · simp only [Arena.serve, hinsert]
      exact ⟨hvalid, hcapacity, fun other => by simpa [rebind] using hget other,
        by simpa [vacate] using hfree⟩
    · simp only [Arena.serve, hinsert]
      refine ⟨hvalid.insert hinsert, (capacity_of_insert hinsert).trans hcapacity,
        fun other => ?_, ?_⟩
      · rw [bound_concat, get?_insert_of_ok hinsert, hget, rebind]
      · rw [vacancies_concat, htail, ← hfree, vacate, hindex]
        cases a.free <;> simp
  | get key =>
    simp only [Arena.serve]
    exact ⟨hvalid, hcapacity, fun other => by simpa [rebind] using hget other,
      by simpa [vacate] using hfree⟩
  | modify key f =>
    obtain ⟨hcapacity', hfree', -⟩ := a.modify_frame key f
    refine ⟨hvalid.modify key f, hcapacity'.trans hcapacity, fun other => ?_, ?_⟩
    · rw [bound_concat, rebind]
      simp only [Arena.serve, get?_modify]
      by_cases hother : other = key <;> simp [hother, hget]
    · simpa [vacate, Arena.serve, hfree'] using hfree
  | remove key =>
    refine ⟨hvalid.remove key, (a.capacity_remove key).trans hcapacity, fun other => ?_, ?_⟩
    · rw [bound_concat, rebind, ← hget]
      exact a.get?_remove key other
    · rw [vacancies_concat, ← hfree]
      simp only [Arena.serve, Arena.remove]
      cases a.get? key <;> rfl

theorem Dialogue.tells (h : Dialogue capacity past a) : Tells capacity past a := by
  induction h with
  | nil => exact ⟨valid_empty capacity, rfl, fun key => by simp [get?, bound], rfl⟩
  | snoc _ request ih => exact ih.serve request

/-- **An arena is a bounded finite map**: to a key is bound what was stored under it last, as long
as it was not removed, and the arena counts the keys to which something is bound.

* A value is stored if fewer values than the capacity are there, under a key to which nothing is
  bound, in the slot that was freed last or else in a new one. Otherwise it is handed back and
  nothing changes.
* To look up, to change and to remove is to find what is bound to the key, and changes nothing for
  the other keys.
* The vacant slots are listed once each, in the order in which they are given again. All slots are
  within the capacity, and so their indices fit in 32 bits. -/
theorem finite_map (hcapacity : capacity ≤ UInt32.size) (h : Dialogue capacity past a) :
    (∀ key, a.get? key = bound past key) ∧
    (∀ request key, (a.serve request).2.get? key
      = rebind key (bound past key) (request, (a.serve request).1)) ∧
    (∃ keys : List Key, keys.Nodup ∧ (∀ key, key ∈ keys ↔ (bound past key).isSome = true) ∧
      a.size = keys.length) ∧
    (∀ value, a.size = capacity ∧ a.serve (.insert value) = (.refused (.full value), a) ∨
      a.size < capacity ∧ ∃ key, (a.serve (.insert value)).1 = .stored key ∧
        bound past key = none ∧ key.index = (vacancies past).headD a.size ∧
        key.index < capacity ∧ key.index < UInt32.size) ∧
    (∀ key, a.serve (.get key) = (.found (bound past key), a)) ∧
    (∀ key f, (a.serve (.modify key f)).1 = .found (bound past key)) ∧
    (∀ key, (a.serve (.remove key)).1 = .found (bound past key)) ∧
    a.free = vacancies past ∧ (vacancies past).Nodup ∧
    (∀ index, index ∈ vacancies past ↔
      ∃ generation, a.slots[index]? = some ⟨generation, none⟩) ∧
    (∀ index ∈ vacancies past, index < capacity) ∧
    ∀ key, (bound past key).isSome = true → key.index < capacity := by
  have hserve (request : Request α) := (h.snoc request).tells.get?_eq
  obtain ⟨hvalid, rfl, hget, hfree⟩ := h.tells
  have hbelow {index : Nat} (hlt : index < a.slots.size) : index < a.capacity :=
    Nat.lt_of_lt_of_le hlt hvalid.slots_le
  refine ⟨hget, fun request key => by rw [hserve, bound_concat],
    ⟨a.keys, a.nodup_keys, fun key => ?_, hvalid.length_keys.symm⟩, fun value => ?_,
    fun key => by rw [← hget]; rfl, fun key f => by rw [← hget]; rfl, fun key => ?_, hfree,
    hfree ▸ hvalid.nodup_free, hfree ▸ hvalid.mem_free_iff, fun index hindex => ?_,
    fun key hbound => ?_⟩
  · rw [mem_keys_iff, hget]
  · rcases hvalid.insert_cases value with ⟨hfull, hinsert⟩ |
      ⟨hroom, key, b, hinsert, hindex, -⟩
    · exact .inl ⟨hfull, by simp only [serve, hinsert]⟩
    · have hlt : key.index < a.capacity := by
        rw [hindex]
        cases hvacant : a.free with
        | nil => exact hroom
        | cons index free => exact hbelow (hvalid.lt_of_mem_free (by simp [hvacant]))
      refine .inr ⟨hroom, key, by simp only [serve, hinsert], ?_, hfree ▸ hindex, hlt,
        Nat.lt_of_lt_of_le hlt hcapacity⟩
      rw [← hget]
      exact get?_eq_none_of_insert hinsert
  · rw [← hget, serve, remove_fst]
  · exact hbelow (hvalid.lt_of_mem_free (hfree ▸ hindex))
  · rw [← hget] at hbound
    obtain ⟨value, hvalue⟩ := Option.isSome_iff_exists.mp hbound
    exact hbelow (index_lt_of_get? hvalue)

/-- An arena of two slots hands a third value back. When both slots have been freed, a key that has
gone stale finds nothing, and the slot that was freed last is given next. -/
theorem finite_map_of_two :
    ∃ (past : List (Request Nat × Reply Nat)) (a : Arena Nat), Dialogue 2 past a ∧
      past.map Prod.snd = [.stored ⟨0, 0⟩, .stored ⟨1, 0⟩, .refused (.full 30), .found (some 20),
        .found (some 10), .found none] ∧
      a.size = 0 ∧ a.free = [0, 1] ∧ (∀ key, a.get? key = bound past key) ∧
      ∃ key, (a.serve (.insert 50)).1 = .stored key ∧ bound past key = none ∧ key.index = 0 := by
  obtain ⟨past, a, h, hreplies, hvacancies, hsize⟩ :
      ∃ (past : List (Request Nat × Reply Nat)) (a : Arena Nat), Dialogue 2 past a ∧
        past.map Prod.snd = [.stored ⟨0, 0⟩, .stored ⟨1, 0⟩, .refused (.full 30),
          .found (some 20), .found (some 10), .found none] ∧
        vacancies past = [0, 1] ∧ a.size = 0 :=
    ⟨_, _, (((((Dialogue.nil.snoc (.insert 10)).snoc (.insert 20)).snoc (.insert 30)).snoc
      (.remove ⟨1, 0⟩)).snoc (.remove ⟨0, 0⟩)).snoc (.get ⟨1, 0⟩), rfl, rfl, rfl⟩
  obtain ⟨hget, -, -, hinsert, -, -, -, hfree, -⟩ := finite_map (by decide) h
  refine ⟨past, a, h, hreplies, hsize, hfree.trans hvacancies, hget, ?_⟩
  rcases hinsert 50 with ⟨hfull, -⟩ | ⟨-, key, hstored, hbound, hindex, -⟩
  · rw [hsize] at hfull
    cases hfull
  · rw [hvacancies] at hindex
    exact ⟨key, hstored, hbound, hindex⟩

end Arena

end CoopScheduler
