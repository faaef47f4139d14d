/-!
# Names without a zero byte

The platform takes the name of a thread as bytes that end with a zero byte. A name that holds
one of its own has no such form, and asking for a thread of that name is a fault of the program
and not of the platform. `ZeroByte.fault?` finds it: it is there exactly if one of the bytes is
zero (`ZeroByte.fault?_eq_none_iff`).
-/

namespace CoopScheduler

namespace Text.ZeroByte

/-- The bytes of a text in UTF-8. -/
def bytes (text : String) : List UInt8 :=
  text.toUTF8.data.toList

/-- What is wrong with a name that holds a zero byte: where the first one is, and all of the
bytes. -/
def fault? (name : String) : Option String :=
  ((bytes name).findIdx? (· = 0)).map fun place =>
    "thread name may not contain interior null bytes: NulError(" ++ toString place ++ ", ["
      ++ ", ".intercalate ((bytes name).map fun byte => toString byte.toNat) ++ "])"

/-- A name is faultless exactly if none of its bytes is zero. -/
theorem fault?_eq_none_iff {name : String} : fault? name = none ↔ 0 ∉ bytes name := by
  rw [fault?, Option.map_eq_none_iff, List.findIdx?_eq_none_iff]
  constructor
  · intro h hzero
    exact absurd (h 0 hzero) (by simp)
  · intro h byte hbyte
    exact decide_eq_false fun hz => h (hz ▸ hbyte)

end Text.ZeroByte

end CoopScheduler
