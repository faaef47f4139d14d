/-!
# Saturating 32-bit arithmetic

Lengths of time are 32-bit counts of microseconds. Where a length may outgrow its word it
stays at the largest one instead of starting over at zero. Each operation is the exact one
on natural numbers, cut off at `Saturating.top`:

* `Saturating.ofNat` takes the nearest length that fits;
* `Saturating.add` and `Saturating.sub` are the sum and the difference under that cut, with
  zero as the floor of the difference.
-/

namespace CoopScheduler

namespace Saturating

/-- The largest length: `2 ^ 32 - 1` microseconds. -/
def top : Nat := 4294967295

/-- The length nearest to `n`. -/
def ofNat (n : Nat) : UInt32 :=
  UInt32.ofNat (min n top)

/-- The sum of two lengths, at most `top`. -/
def add (a b : UInt32) : UInt32 :=
  ofNat (a.toNat + b.toNat)

/-- The difference of two lengths, at least zero. -/
def sub (a b : UInt32) : UInt32 :=
  ofNat (a.toNat - b.toNat)

theorem toNat_le_top (a : UInt32) : a.toNat ≤ top :=
  Nat.le_of_lt_succ a.toNat_lt

/-- Read back as a number, the nearest length is the number cut off at `top`. -/
@[simp]
theorem toNat_ofNat (n : Nat) : (ofNat n).toNat = min n top := by
  rw [ofNat, UInt32.toNat_ofNat']
  exact Nat.mod_eq_of_lt (Nat.lt_of_le_of_lt (Nat.min_le_right n top) (by decide))

@[simp]
theorem toNat_add (a b : UInt32) : (add a b).toNat = min (a.toNat + b.toNat) top :=
  toNat_ofNat _

/-- A difference never needs the cut. -/
@[simp]
theorem toNat_sub (a b : UInt32) : (sub a b).toNat = a.toNat - b.toNat := by
  rw [sub, toNat_ofNat]
  exact Nat.min_eq_left (Nat.le_trans (Nat.sub_le _ _) (toNat_le_top a))

end Saturating

end CoopScheduler
