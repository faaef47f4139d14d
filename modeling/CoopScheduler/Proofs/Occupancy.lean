import CoopScheduler.Arena
import Mathlib.Data.List.Nodup
import Mathlib.Data.List.Perm.Subperm

/-!
# The slots of an arena

What an arena does with its slots does not depend on the values in them. The **shape** of an
arena is what is left when the values are forgotten (`Arena.shape`): changing a value leaves the
shape alone (`Arena.shape_modify`), and storing and removing are operations on shapes
(`Arena.shape_insert`, `Arena.shape_remove`).

* `Arena.Valid`: the list of vacant slots names each of them once, and the slots in use make up
  the rest. So no more keys are in use than the arena counts, and no more than it has room for
  (`Arena.Valid.length_le_size`, `Arena.Valid.size_le`); and a value is refused for want of room
  alone (`Arena.Valid.insert_cases`).
* `Arena.keys`: the keys in use, and `Arena.Valid.length_keys`: there are just as many of them as
  the arena counts.
* `Arena.generationAt`: each slot counts how often it was freed, modulo `2 ^ 32`. A key in use
  has the generation of its slot, and so has a key that is just being given.
* `Arena.Reshaped`: what may happen to a shape at a time.
-/

namespace CoopScheduler

namespace Arena

variable {α : Type} {a b : Arena α} {key : Key} {value : α}

/-! ### Shapes -/

/-- An arena without its values. -/
def shape (a : Arena α) : Arena Unit where
  capacity := a.capacity
  slots := a.slots.map fun slot => ⟨slot.generation, slot.value?.map fun _ => ()⟩
  free := a.free
  size := a.size

theorem shape_empty (capacity : Nat) :
    ({ capacity := capacity } : Arena α).shape = { capacity := capacity } := by
  simp [shape]

/-- A key finds something in the shape if it finds a value. -/
theorem get?_shape (a : Arena α) (key : Key) : a.shape.get? key = (a.get? key).map fun _ => () := by
  rw [get?, get?, shape, Array.getElem?_map]
  rcases a.slots[key.index]? with _ | slot
  · rfl
  · simp only [Option.map_some, Option.bind_some, Slot.read]
    split <;> rfl

@[simp]
theorem isSome_get?_shape (a : Arena α) (key : Key) :
    (a.shape.get? key).isSome = (a.get? key).isSome := by
  rw [get?_shape, Option.isSome_map]

/-- Changing a value leaves the shape alone. -/
@[simp]
theorem shape_modify (a : Arena α) (key : Key) (f : α → α) : (a.modify key f).shape = a.shape := by
  unfold modify
  split
  · rfl
  · next value hget =>
    have hslot := get?_eq_some_iff.mp hget
    have hslots : (a.slots.setIfInBounds key.index ⟨key.generation, some (f value)⟩).map
        (fun slot => (⟨slot.generation, slot.value?.map fun _ => ()⟩ : Slot Unit))
          = a.slots.map fun slot => ⟨slot.generation, slot.value?.map fun _ => ()⟩ := by
      refine Array.ext_getElem? fun i => ?_
      rw [Array.getElem?_map, Array.getElem?_map, Array.getElem?_setIfInBounds]
      by_cases hi : key.index = i
      · subst hi
        rw [if_pos rfl, if_pos (index_lt_of_get? hget), hslot]
        rfl
      · rw [if_neg hi]
    simp only [shape, hslots]

theorem shape_remove (a : Arena α) (key : Key) :
    (a.remove key).2.shape = (a.shape.remove key).2 := by
  have hshape := get?_shape a key
  unfold remove
  cases hget : a.get? key with
  | none => rw [hshape, hget, Option.map_none]
  | some value =>
    rw [hshape, hget, Option.map_some]
    simp only [shape, Array.map_setIfInBounds, Option.map_none]

/-- A value is stored in the same slot whatever the other slots hold. -/
theorem shape_insert (h : a.insert value = .ok (key, b)) :
    a.shape.insert () = .ok (key, b.shape) := by
  unfold insert at h ⊢
  split at h
  · next index free hfree =>
    split at h
    · next generation hslot =>
      simp only [Except.ok.injEq, Prod.mk.injEq] at h
      obtain ⟨rfl, rfl⟩ := h
      have hshape : a.shape.slots[index]? = some ⟨generation, none⟩ := by
        simp [shape, hslot]
      simp only [shape, hfree] at hshape ⊢
      rw [hshape]
      simp [Array.map_setIfInBounds]
    · cases h
  · next hfree =>
    split at h
    · next hroom =>
      simp only [Except.ok.injEq, Prod.mk.injEq] at h
      obtain ⟨rfl, rfl⟩ := h
      simp [shape, hfree, hroom]
    · cases h

/-! ### The slots in use -/

/-- The list of vacant slots names each of them once, and the slots in use make up the rest. -/
structure Valid (a : Arena α) : Prop where
  mem_free_iff : ∀ index, index ∈ a.free ↔
    ∃ generation, a.slots[index]? = some ⟨generation, none⟩
  nodup_free : a.free.Nodup
  size_add : a.size + a.free.length = a.slots.size
  slots_le : a.slots.size ≤ a.capacity

theorem valid_empty (capacity : Nat) : ({ capacity := capacity } : Arena α).Valid := by
  constructor <;> simp

/-- There is room for all that is stored. -/
theorem Valid.size_le (h : a.Valid) : a.size ≤ a.capacity := by
  have hadd := h.size_add
  have hle := h.slots_le
  omega

/-- The slot of a key in use is not vacant. -/
theorem Valid.index_notMem_free (h : a.Valid) (hget : a.get? key = some value) :
    key.index ∉ a.free := by
  intro hmem
  obtain ⟨generation, hvacant⟩ := (h.mem_free_iff _).mp hmem
  rw [get?_eq_some_iff.mp hget] at hvacant
  cases hvacant

/-- Whether an arena is in order does not depend on its values. -/
theorem valid_shape_iff : a.shape.Valid ↔ a.Valid := by
  have hvacant (index : Nat) : (∃ generation, a.shape.slots[index]? = some ⟨generation, none⟩) ↔
      ∃ generation, a.slots[index]? = some ⟨generation, none⟩ := by
    refine exists_congr fun generation => ?_
    rw [shape, Array.getElem?_map]
    rcases a.slots[index]? with _ | ⟨generation', _ | value⟩ <;> simp
  have hslots : a.shape.slots.size = a.slots.size := by simp [shape]
  constructor
  · rintro ⟨hmem, hnodup, hadd, hle⟩
    exact ⟨fun index => (hmem index).trans (hvacant index), hnodup, hslots ▸ hadd, hslots ▸ hle⟩
  · rintro ⟨hmem, hnodup, hadd, hle⟩
    exact ⟨fun index => (hmem index).trans (hvacant index).symm, hnodup, hslots.symm ▸ hadd,
      hslots.symm ▸ hle⟩

/-- **What becomes of a value** that an arena in order is given. If it has no room, it hands the
value back; otherwise it takes the vacant slot in front, or else a new one. -/
theorem Valid.insert_cases (h : a.Valid) (value : α) :
    a.size = a.capacity ∧ a.insert value = .error (.full value) ∨
      a.size < a.capacity ∧ ∃ key b, a.insert value = .ok (key, b) ∧
        key.index = a.free.headD a.size ∧ b.free = a.free.tail := by
  have hadd := h.size_add
  have hle := h.slots_le
  unfold Arena.insert
  cases hfree : a.free with
  | nil =>
    rw [hfree, List.length_nil, Nat.add_zero] at hadd
    rw [hadd]
    by_cases hroom : a.slots.size < a.capacity
    · exact .inr ⟨hroom, _, _, if_pos hroom, rfl, rfl⟩
    · exact .inl ⟨Nat.le_antisymm hle (Nat.not_lt.mp hroom), if_neg hroom⟩
  | cons index free =>
    obtain ⟨generation, hslot⟩ := (h.mem_free_iff index).mp (by simp [hfree])
    rw [hfree, List.length_cons] at hadd
    simp only [hslot]
    exact .inr ⟨by omega, _, _, rfl, rfl, rfl⟩

/-- An arena in order refuses a value only for want of room. -/
theorem Valid.refusal_eq (h : a.shape.Valid) {refusal : Refusal α}
    (hinsert : a.insert value = .error refusal) : refusal = .full value := by
  rcases (valid_shape_iff.mp h).insert_cases value with ⟨-, hfull⟩ | ⟨-, key, b, hstored, -⟩
  · cases hinsert.symm.trans hfull
    rfl
  · cases hinsert.symm.trans hstored

theorem Valid.lt_of_mem_free (h : a.Valid) {index : Nat} (hmem : index ∈ a.free) :
    index < a.slots.size := by
  obtain ⟨generation, hvacant⟩ := (h.mem_free_iff index).mp hmem
  exact (Array.getElem?_eq_some_iff.mp hvacant).1

/-- **Keys in use are counted**: there are no more of them than the size says. -/
theorem Valid.length_le_size (h : a.Valid) {keys : List Key} (hnodup : keys.Nodup)
    (hlive : ∀ key ∈ keys, (a.get? key).isSome = true) : keys.length ≤ a.size := by
  -- Each slot has one key in use at most, so their slots are distinct; and none of them is vacant.
  have hinj : ∀ key ∈ keys, ∀ key' ∈ keys, key.index = key'.index → key = key' := by
    intro key hkey key' hkey' hindex
    obtain ⟨value, hget⟩ := Option.isSome_iff_exists.mp (hlive key hkey)
    obtain ⟨value', hget'⟩ := Option.isSome_iff_exists.mp (hlive key' hkey')
    have hslot := get?_eq_some_iff.mp hget
    rw [hindex, get?_eq_some_iff.mp hget'] at hslot
    obtain ⟨index, generation⟩ := key
    obtain ⟨index', generation'⟩ := key'
    simp_all
  have hindices : (keys.map Key.index).Nodup :=
    List.Nodup.map_on (fun key hkey key' hkey' heq => hinj key hkey key' hkey' heq) hnodup
  have happart : (keys.map Key.index ++ a.free).Nodup := by
    refine List.nodup_append.mpr ⟨hindices, h.nodup_free, fun i hi j hj heq => ?_⟩
    obtain ⟨key, hkey, rfl⟩ := List.mem_map.mp hi
    obtain ⟨value, hget⟩ := Option.isSome_iff_exists.mp (hlive key hkey)
    exact h.index_notMem_free hget (heq ▸ hj)
  have hwithin : keys.map Key.index ++ a.free ⊆ List.range a.slots.size := by
    intro i hi
    rw [List.mem_range]
    rcases List.mem_append.mp hi with hi | hi
    · obtain ⟨key, hkey, rfl⟩ := List.mem_map.mp hi
      obtain ⟨value, hget⟩ := Option.isSome_iff_exists.mp (hlive key hkey)
      exact index_lt_of_get? hget
    · exact h.lt_of_mem_free hi
  have hlength := (happart.subperm hwithin).length_le
  have hadd := h.size_add
  simp only [List.length_append, List.length_map, List.length_range] at hlength
  omega

theorem Valid.insert (h : a.Valid) (hinsert : a.insert value = .ok (key, b)) : b.Valid := by
  obtain ⟨hmem, hnodup, hadd, hle⟩ := h
  unfold Arena.insert at hinsert
  split at hinsert
  · next index free hfree =>
    split at hinsert
    · next generation hslot =>
      simp only [Except.ok.injEq, Prod.mk.injEq] at hinsert
      obtain ⟨-, rfl⟩ := hinsert
      rw [hfree] at hmem hnodup hadd
      obtain ⟨hout, hnodup⟩ := List.nodup_cons.mp hnodup
      have hlt := (Array.getElem?_eq_some_iff.mp hslot).1
      refine ⟨fun i => ?_, hnodup, ?_, by simpa using hle⟩
      · rw [Array.getElem?_setIfInBounds]
        by_cases hi : index = i
        · subst hi
          simp [hlt, hout]
        · have hi' : i ≠ index := fun heq => hi heq.symm
          simpa [hi, hi'] using hmem i
      · simp only [List.length_cons, Array.size_setIfInBounds] at hadd ⊢
        omega
    · cases hinsert
  · next hfree =>
    split at hinsert
    · next hroom =>
      simp only [Except.ok.injEq, Prod.mk.injEq] at hinsert
      obtain ⟨-, rfl⟩ := hinsert
      refine ⟨fun i => ?_, hnodup, ?_, ?_⟩
      · rw [Array.getElem?_push, hmem i]
        by_cases hi : i = a.slots.size
        · simp [hi]
        · rw [if_neg hi]
      · simp only [Array.size_push]
        omega
      · simp only [Array.size_push]
        omega
    · cases hinsert

theorem Valid.remove (h : a.Valid) (key : Key) : (a.remove key).2.Valid := by
  unfold Arena.remove
  split
  · exact h
  · next value hget =>
    have hout := h.index_notMem_free hget
    have hlt := index_lt_of_get? hget
    -- The slot that is freed was in use, so the count of those in use was not zero.
    have hpos : 0 < a.size := h.length_le_size (List.nodup_singleton key) (by simp [hget])
    obtain ⟨hmem, hnodup, hadd, hle⟩ := h
    refine ⟨fun i => ?_, List.nodup_cons.mpr ⟨hout, hnodup⟩, ?_, by simpa using hle⟩
    · rw [Array.getElem?_setIfInBounds]
      by_cases hi : key.index = i
      · subst hi
        simp [hlt]
      · have hi' : i ≠ key.index := fun heq => hi heq.symm
        simpa [hi, hi'] using hmem i
    · simp only [List.length_cons, Array.size_setIfInBounds]
      omega

theorem Valid.modify (h : a.Valid) (key : Key) (f : α → α) : (a.modify key f).Valid := by
  rw [← valid_shape_iff, shape_modify, valid_shape_iff]
  exact h

theorem capacity_of_insert (h : a.insert value = .ok (key, b)) :
    b.capacity = a.capacity := by
  unfold Arena.insert at h
  split at h
  · split at h <;> cases h
    rfl
  · split at h <;> cases h
    rfl

theorem capacity_remove (a : Arena α) (key : Key) : (a.remove key).2.capacity = a.capacity := by
  unfold Arena.remove
  split <;> rfl

/-- A value that is refused is handed back. -/
theorem refusal_of_insert {refusal : Refusal α} (h : a.insert value = .error refusal) :
    refusal = .full value ∨ refusal = .corrupt value := by
  unfold Arena.insert at h
  split at h
  · split at h <;> cases h
    exact .inr rfl
  · split at h <;> cases h
    exact .inl rfl

/-! ### The keys in use -/

/-- The key of a slot, if that is in use. -/
def keyAt? (a : Arena α) (index : Nat) : Option Key :=
  a.slots[index]?.bind fun slot => slot.value?.map fun _ => ⟨index, slot.generation⟩

theorem keyAt?_eq_some_iff {index : Nat} :
    a.keyAt? index = some key ↔ key.index = index ∧ (a.get? key).isSome = true := by
  obtain ⟨index', generation⟩ := key
  rw [Option.isSome_iff_exists]
  simp only [get?_eq_some_iff, keyAt?, Option.bind_eq_some_iff, Option.map_eq_some_iff,
    Key.mk.injEq]
  constructor
  · rintro ⟨⟨generation', value?⟩, hslot, value, rfl, rfl, rfl⟩
    exact ⟨rfl, value, hslot⟩
  · rintro ⟨rfl, value, hslot⟩
    exact ⟨_, hslot, value, rfl, rfl, rfl⟩

/-- The keys in use. -/
def keys (a : Arena α) : List Key :=
  (List.range a.slots.size).filterMap a.keyAt?

theorem keys_shape (a : Arena α) : a.shape.keys = a.keys := by
  have hkeyAt : a.shape.keyAt? = a.keyAt? := by
    funext index
    simp [keyAt?, shape, Option.bind_map, Function.comp_def]
  rw [keys, hkeyAt, keys, shape, Array.size_map]

theorem mem_keys_iff : key ∈ a.keys ↔ (a.get? key).isSome = true := by
  simp only [keys, List.mem_filterMap, List.mem_range, keyAt?_eq_some_iff]
  constructor
  · rintro ⟨index, -, -, hlive⟩
    exact hlive
  · intro hlive
    obtain ⟨value, hget⟩ := Option.isSome_iff_exists.mp hlive
    exact ⟨key.index, index_lt_of_get? hget, rfl, hlive⟩

theorem nodup_keys (a : Arena α) : a.keys.Nodup := by
  refine List.Nodup.filterMap (fun i j key hi hj => ?_) List.nodup_range
  exact (keyAt?_eq_some_iff.mp hi).1.symm.trans (keyAt?_eq_some_iff.mp hj).1

/-- **The size counts the keys in use.** -/
theorem Valid.length_keys (h : a.Valid) : a.keys.length = a.size := by
  -- A slot is vacant or has a key, and the vacant ones are listed.
  have hfree : ((List.range a.slots.size).filter fun i => ¬(a.keyAt? i).isSome).Perm a.free := by
    refine (List.perm_ext_iff_of_nodup (List.nodup_range.filter _) h.nodup_free).mpr fun i => ?_
    rw [List.mem_filter, List.mem_range, h.mem_free_iff, keyAt?]
    constructor
    · rintro ⟨hlt, hnone⟩
      rw [Array.getElem?_eq_getElem hlt] at hnone ⊢
      generalize a.slots[i] = slot at hnone ⊢
      obtain ⟨generation, _ | value⟩ := slot
      · exact ⟨generation, rfl⟩
      · simp at hnone
    · rintro ⟨generation, hvacant⟩
      refine ⟨(Array.getElem?_eq_some_iff.mp hvacant).1, ?_⟩
      simp [hvacant]
  have hcount := (List.range a.slots.size).length_eq_countP_add_countP fun i => (a.keyAt? i).isSome
  have hkeys : a.keys.length = (List.range a.slots.size).countP fun i => (a.keyAt? i).isSome :=
    List.length_filterMap_eq_countP
  have hadd := h.size_add
  rw [List.countP_eq_length_filter (p := fun i => decide ¬_), hfree.length_eq, ← hkeys,
    List.length_range] at hcount
  omega

/-! ### Generations -/

/-- The generation of the key that a slot has in use, or else of the next one it will give. -/
def generationAt (a : Arena α) (index : Nat) : UInt32 :=
  match a.slots[index]? with
  | none => 0
  | some slot => slot.generation

theorem generation_of_get? (hget : (a.get? key).isSome = true) :
    key.generation = a.generationAt key.index := by
  obtain ⟨value, hget⟩ := Option.isSome_iff_exists.mp hget
  rw [generationAt, get?_eq_some_iff.mp hget]

/-- The generation of a key that is being given is that of its slot. -/
theorem generation_of_insert (h : a.insert value = .ok (key, b)) :
    key.generation = a.generationAt key.index := by
  unfold insert at h
  split at h
  · split at h
    · next generation hslot =>
      simp only [Except.ok.injEq, Prod.mk.injEq] at h
      obtain ⟨rfl, -⟩ := h
      rw [generationAt, hslot]
    · cases h
  · split at h
    · simp only [Except.ok.injEq, Prod.mk.injEq] at h
      obtain ⟨rfl, -⟩ := h
      simp [generationAt]
    · cases h

/-- Storing a value leaves the generations alone. -/
theorem generationAt_insert (h : a.insert value = .ok (key, b)) (index : Nat) :
    b.generationAt index = a.generationAt index := by
  unfold insert at h
  split at h
  · next vacant _ _ =>
    split at h
    · next generation hslot =>
      simp only [Except.ok.injEq, Prod.mk.injEq] at h
      obtain ⟨-, rfl⟩ := h
      have hlt := (Array.getElem?_eq_some_iff.mp hslot).1
      rw [generationAt, generationAt, Array.getElem?_setIfInBounds]
      by_cases hi : vacant = index
      · subst hi
        rw [hslot]
        simp [hlt]
      · rw [if_neg hi]
    · cases h
  · split at h
    · simp only [Except.ok.injEq, Prod.mk.injEq] at h
      obtain ⟨-, rfl⟩ := h
      rw [generationAt, generationAt, Array.getElem?_push]
      by_cases hi : index = a.slots.size
      · simp [hi]
      · rw [if_neg hi]
    · cases h

/-- Freeing a slot moves its generation on. -/
theorem generationAt_remove (hget : (a.get? key).isSome = true) (index : Nat) :
    (a.remove key).2.generationAt index
      = if index = key.index then a.generationAt index + 1 else a.generationAt index := by
  obtain ⟨value, hget⟩ := Option.isSome_iff_exists.mp hget
  have hslot := get?_eq_some_iff.mp hget
  have hlt := index_lt_of_get? hget
  rw [remove, hget, generationAt, generationAt, Array.getElem?_setIfInBounds]
  by_cases hi : key.index = index
  · subst hi
    rw [hslot]
    simp [hlt]
  · have hi' : index ≠ key.index := fun heq => hi heq.symm
    rw [if_neg hi, if_neg hi']

/-! ### Changes of shape -/

/-- From one shape to another, the slot of the key `freed?` was freed; or else a value was stored,
or nothing has happened. -/
inductive Reshaped (a b : Arena Unit) : Option Key → Prop where
  | kept (heq : b = a) : Reshaped a b none
  | stored {key : Key} (hinsert : a.insert () = .ok (key, b)) : Reshaped a b none
  | freed {key : Key} (hget : (a.get? key).isSome = true) (heq : b = (a.remove key).2) :
      Reshaped a b (some key)

section Reshaped

variable {a b : Arena Unit} {freed? : Option Key}

theorem Reshaped.valid (h : Reshaped a b freed?) (hvalid : a.Valid) : b.Valid := by
  rcases h with rfl | hinsert | ⟨-, rfl⟩
  · exact hvalid
  · exact hvalid.insert hinsert
  · exact hvalid.remove _

theorem Reshaped.capacity_eq (h : Reshaped a b freed?) : b.capacity = a.capacity := by
  rcases h with rfl | hinsert | ⟨-, rfl⟩
  · rfl
  · exact capacity_of_insert hinsert
  · exact capacity_remove ..

/-- Only the slot that was freed has moved on. -/
theorem Reshaped.generationAt_eq (h : Reshaped a b freed?) (index : Nat) :
    b.generationAt index = if freed?.any (·.index = index) then a.generationAt index + 1
      else a.generationAt index := by
  rcases h with rfl | hinsert | @⟨key, hget, rfl⟩
  · rfl
  · exact generationAt_insert hinsert index
  · rw [generationAt_remove hget]
    simp [eq_comm]

/-- A key in use stays in use unless it is freed. -/
theorem Reshaped.isSome_get? (h : Reshaped a b freed?) (hget : (a.get? key).isSome = true) :
    freed? = some key ∨ (b.get? key).isSome = true := by
  rcases h with rfl | hinsert | @⟨freed, -, rfl⟩
  · exact .inr hget
  · right
    rw [get?_insert_of_ok hinsert]
    split
    · rfl
    · exact hget
  · by_cases heq : key = freed
    · exact .inl (by rw [heq])
    · right
      rw [get?_remove, if_neg heq]
      exact hget

end Reshaped

end Arena

end CoopScheduler
