/-!
# Durations

A **duration** is a length of time in whole nanoseconds, without an upper bound: parks, the
sleep floor and the idle sleep are given as durations. `Duration.text` writes one in the
largest unit of which it holds at least one: `1s`, `61.000000001s`, `1.5ms`, `400µs`, `0ns`.
-/

namespace CoopScheduler

/-- A length of time. -/
structure Duration where
  /-- Its nanoseconds. -/
  nanos : Nat
deriving DecidableEq

namespace Duration

instance : LE Duration := ⟨fun a b => a.nanos ≤ b.nanos⟩

instance (a b : Duration) : Decidable (a ≤ b) :=
  inferInstanceAs (Decidable (a.nanos ≤ b.nanos))

instance : Max Duration := ⟨fun a b => ⟨max a.nanos b.nanos⟩⟩

/-- A duration of `seconds` whole seconds and `nanos` nanoseconds. -/
def ofParts (seconds nanos : Nat) : Duration :=
  ⟨seconds * 1000000000 + nanos⟩

/-- A duration of `n` seconds. -/
def ofSeconds (n : Nat) : Duration :=
  ⟨n * 1000000000⟩

/-- A duration of `n` microseconds. -/
def ofMicros (n : Nat) : Duration :=
  ⟨n * 1000⟩

/-- Whole seconds. -/
def seconds (d : Duration) : Nat :=
  d.nanos / 1000000000

/-- The nanoseconds beyond the whole seconds. -/
def subsecondNanos (d : Duration) : Nat :=
  d.nanos % 1000000000

/-- Whole microseconds; a part of one is dropped. -/
def micros (d : Duration) : Nat :=
  d.nanos / 1000

/-! ### Text -/

/-- The digits of `part / 10 ^ places` behind the point, without the zeros at their end. -/
def fractionDigits (places part : Nat) : List Char :=
  let digits := Nat.toDigits 10 part
  let padded := List.replicate (places - digits.length) '0' ++ digits
  (padded.reverse.dropWhile (· == '0')).reverse

/-- `nanos` in a unit of `10 ^ places` nanoseconds, as a decimal; the point is there only if
a digit follows it. -/
def decimal (places nanos : Nat) : String :=
  let whole := toString (nanos / Nat.pow 10 places)
  match fractionDigits places (nanos % Nat.pow 10 places) with
  | [] => whole
  | digits => whole ++ "." ++ String.ofList digits

/-- A duration is written in the largest of the units s, ms, µs and ns that it fills. -/
def text (d : Duration) : String :=
  if 1000000000 ≤ d.nanos then decimal 9 d.nanos ++ "s"
  else if 1000000 ≤ d.nanos then decimal 6 d.nanos ++ "ms"
  else if 1000 ≤ d.nanos then decimal 3 d.nanos ++ "µs"
  else decimal 0 d.nanos ++ "ns"

/-! ### Laws -/

theorem le_def {a b : Duration} : a ≤ b ↔ a.nanos ≤ b.nanos :=
  Iff.rfl

@[simp]
theorem nanos_max (a b : Duration) : (max a b).nanos = max a.nanos b.nanos :=
  rfl

/-- The two parts make up the duration. -/
theorem ofParts_parts (d : Duration) : ofParts d.seconds d.subsecondNanos = d := by
  cases d
  simp only [ofParts, seconds, subsecondNanos, mk.injEq]
  exact Nat.div_add_mod' _ _

@[simp]
theorem micros_ofMicros (n : Nat) : (ofMicros n).micros = n :=
  Nat.mul_div_cancel n (by decide)

end Duration

end CoopScheduler
