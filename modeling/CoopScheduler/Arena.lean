/-!
# Generational arenas

An **arena** stores values in numbered slots of which there are at most `capacity`. Storing a
value gives a **key**: the slot's index and its **generation**, a 32-bit count of how often
the slot was freed before. A key reaches the value that was stored under it and no other:
freeing a slot moves its generation on, so that the key goes stale, and whatever is stored
there next has a different key.

* Slots that were freed are used again before new ones, the last freed first.
* `Arena.get?`, `Arena.modify` and `Arena.remove` do nothing with a stale key.
* Each operation is described by what `get?` finds afterwards: `get?_modify`, `get?_remove`,
  `get?_insert_of_ok`. A new key has found nothing before (`get?_eq_none_of_insert`).
-/

namespace CoopScheduler

/-- Where a value is stored. -/
structure Key where
  /-- The number of the slot. -/
  index : Nat
  /-- The slot's generation when the value was stored. -/
  generation : UInt32
deriving DecidableEq

/-- One place of an arena, vacant or holding a value. -/
structure Slot (α : Type) where
  /-- How often the slot was freed, modulo `2 ^ 32`. -/
  generation : UInt32
  /-- The value, unless the slot is vacant. -/
  value? : Option α

namespace Slot

variable {α : Type}

/-- The value that was stored in this generation, if it is still there. -/
def read (s : Slot α) (generation : UInt32) : Option α :=
  if s.generation = generation then s.value? else none

end Slot

/-- A bounded store whose keys go stale. -/
structure Arena (α : Type) where
  /-- How many slots there may be. -/
  capacity : Nat
  /-- The slots that were ever used. -/
  slots : Array (Slot α) := #[]
  /-- Indices of the vacant slots, the last freed first. -/
  free : List Nat := []
  /-- How many slots hold a value. -/
  size : Nat := 0

namespace Arena

variable {α : Type}

/-- Why a value could not be stored; it is handed back. -/
inductive Refusal (α : Type) where
  /-- Every slot holds a value. -/
  | full (value : α)
  /-- The list of vacant slots names one that is not vacant. No arena made by the operations
  below gets there. -/
  | corrupt (value : α)

/-- The value stored under a key. -/
def get? (a : Arena α) (key : Key) : Option α :=
  a.slots[key.index]?.bind fun slot => slot.read key.generation

/-- Stores a value, in the slot freed last or else in a new one. -/
def insert (a : Arena α) (value : α) : Except (Refusal α) (Key × Arena α) :=
  match a.free with
  | index :: free =>
    match a.slots[index]? with
    | some ⟨generation, none⟩ =>
      .ok (⟨index, generation⟩,
        { a with
          slots := a.slots.setIfInBounds index ⟨generation, some value⟩
          free := free
          size := a.size + 1 })
    | _ => .error (.corrupt value)
  | [] =>
    if a.slots.size < a.capacity then
      .ok (⟨a.slots.size, 0⟩,
        { a with slots := a.slots.push ⟨0, some value⟩, size := a.size + 1 })
    else
      .error (.full value)

/-- Changes the value stored under a key. -/
def modify (a : Arena α) (key : Key) (f : α → α) : Arena α :=
  match a.get? key with
  | none => a
  | some value =>
    { a with slots := a.slots.setIfInBounds key.index ⟨key.generation, some (f value)⟩ }

/-- Frees the slot of a key and returns the value that was stored there. -/
def remove (a : Arena α) (key : Key) : Option α × Arena α :=
  match a.get? key with
  | none => (none, a)
  | some value =>
    (some value,
      { a with
        slots := a.slots.setIfInBounds key.index ⟨key.generation + 1, none⟩
        free := key.index :: a.free
        size := a.size - 1 })

/-! ### What a key finds -/

theorem get?_eq_some_iff {a : Arena α} {key : Key} {value : α} :
    a.get? key = some value ↔ a.slots[key.index]? = some ⟨key.generation, some value⟩ := by
  rw [get?, Option.bind_eq_some_iff]
  constructor
  · rintro ⟨⟨generation, value?⟩, hslot, hread⟩
    simp only [Slot.read] at hread
    split at hread
    · next h => rw [hslot, ← h, hread]
    · exact absurd hread (by simp)
  · intro h
    exact ⟨_, h, by simp [Slot.read]⟩

/-- A key in use belongs to one of the slots. -/
theorem index_lt_of_get? {a : Arena α} {key : Key} {value : α} (h : a.get? key = some value) :
    key.index < a.slots.size := by
  rw [get?_eq_some_iff, Array.getElem?_eq_some_iff] at h
  exact h.1

theorem get?_eq_read {a : Arena α} {index : Nat} {slot : Slot α} (h : a.slots[index]? = some slot)
    (generation : UInt32) : a.get? ⟨index, generation⟩ = slot.read generation := by
  rw [get?, h]
  rfl

/-- Writing one slot is seen by the keys of that slot alone. -/
theorem get?_of_slots_eq_set {a b : Arena α} {index : Nat} {slot : Slot α}
    (hindex : index < a.slots.size) (hb : b.slots = a.slots.setIfInBounds index slot)
    (other : Key) :
    b.get? other = if other.index = index then slot.read other.generation else a.get? other := by
  by_cases h : other.index = index
  · rw [if_pos h]
    exact get?_eq_read (by rw [hb, h]; simp [hindex]) other.generation
  · rw [if_neg h, get?, get?, hb, Array.getElem?_setIfInBounds_ne (fun e => h e.symm)]

/-- Changing a value is seen by its own key alone. -/
theorem get?_modify (a : Arena α) (key other : Key) (f : α → α) :
    (a.modify key f).get? other
      = if other = key then (a.get? key).map f else a.get? other := by
  unfold modify
  cases hkey : a.get? key with
  | none => by_cases h : other = key <;> simp [h, hkey]
  | some value =>
    have hslot := get?_eq_some_iff.1 hkey
    rw [get?_of_slots_eq_set (index_lt_of_get? hkey) rfl]
    obtain ⟨index, generation⟩ := other
    obtain ⟨index', generation'⟩ := key
    by_cases hi : index = index'
    · subst hi
      rw [get?_eq_read hslot generation]
      by_cases hg : generation = generation' <;> simp [Slot.read, hg, eq_comm]
    · simp [hi]

/-- Changing a value leaves the vacancies, the count and the bound as they are. -/
theorem modify_frame (a : Arena α) (key : Key) (f : α → α) :
    (a.modify key f).capacity = a.capacity ∧ (a.modify key f).free = a.free ∧
      (a.modify key f).size = a.size := by
  unfold modify
  split <;> exact ⟨rfl, rfl, rfl⟩

/-- Removing returns what the key found. -/
@[simp]
theorem remove_fst (a : Arena α) (key : Key) : (a.remove key).1 = a.get? key := by
  unfold remove
  split <;> simp_all

/-- A removed key goes stale and every other key finds what it found before. -/
theorem get?_remove (a : Arena α) (key other : Key) :
    (a.remove key).2.get? other = if other = key then none else a.get? other := by
  unfold remove
  cases hkey : a.get? key with
  | none => by_cases h : other = key <;> simp [h, hkey]
  | some value =>
    have hslot := get?_eq_some_iff.1 hkey
    rw [get?_of_slots_eq_set (index_lt_of_get? hkey) rfl]
    obtain ⟨index, generation⟩ := other
    obtain ⟨index', generation'⟩ := key
    by_cases hi : index = index'
    · subst hi
      rw [get?_eq_read hslot generation]
      by_cases hg : generation = generation' <;> simp [Slot.read, hg, eq_comm]
    · simp [hi]

/-- A key that was just given finds its value, and every other key finds what it found
before. -/
theorem get?_insert_of_ok {a b : Arena α} {key : Key} {value : α}
    (h : a.insert value = .ok (key, b)) (other : Key) :
    b.get? other = if other = key then some value else a.get? other := by
  obtain ⟨index', generation'⟩ := other
  unfold insert at h
  split at h
  · split at h
    · next index free _ _ generation hslot =>
      simp only [Except.ok.injEq, Prod.mk.injEq] at h
      obtain ⟨rfl, rfl⟩ := h
      rw [get?_of_slots_eq_set (Array.getElem?_eq_some_iff.1 hslot).1 rfl]
      by_cases hi : index' = index
      · subst hi
        rw [get?_eq_read hslot generation']
        by_cases hg : generation' = generation <;> simp [Slot.read, hg, eq_comm]
      · simp [hi]
    · exact absurd h (by simp)
  · split at h
    · simp only [Except.ok.injEq, Prod.mk.injEq] at h
      obtain ⟨rfl, rfl⟩ := h
      by_cases hi : index' = a.slots.size
      · by_cases hg : generation' = 0 <;> simp [get?, Slot.read, hi, hg, eq_comm]
      · simp [get?, Array.getElem?_push, hi]
    · exact absurd h (by simp)

/-- A key that was just given had found nothing before. -/
theorem get?_eq_none_of_insert {a b : Arena α} {key : Key} {value : α}
    (h : a.insert value = .ok (key, b)) : a.get? key = none := by
  -- A slot that is used again is vacant, and a new one has not been used before.
  unfold insert at h
  split at h
  · split at h
    · next index free _ _ generation hslot =>
      simp only [Except.ok.injEq, Prod.mk.injEq] at h
      obtain ⟨rfl, -⟩ := h
      rw [get?_eq_read hslot]
      simp [Slot.read]
    · cases h
  · split at h
    · simp only [Except.ok.injEq, Prod.mk.injEq] at h
      obtain ⟨rfl, -⟩ := h
      simp [get?]
    · cases h

end Arena

end CoopScheduler
