import CoopScheduler.Duration

/-!
# Parking

A **parker** blocks one execution context for at most a given time and lets others end the
block early. It keeps a single **wake token**: waking the context sets the token, and a park
takes it. A wake that comes before the park is therefore not lost, and several of them count
as one.

* After `unpark` the next `park` is woken, and the one after it is not (`park_unpark`).
* A second `unpark` before the park changes nothing (`unpark_unpark`).
-/

namespace CoopScheduler

/-- The wake token of one execution context. -/
structure Parker where
  /-- Set while a wake waits for the next park. -/
  token : Bool := false
deriving DecidableEq

namespace Parker

/-- Wakes the context, now or at its next park. -/
def unpark (_ : Parker) : Parker :=
  ⟨true⟩

/-- Ends a park: whether it was woken, and the parker without its token. -/
def park (p : Parker) : Bool × Parker :=
  (p.token, ⟨false⟩)

/-- Whether a park of length `timeout` returns before that time is over: it takes a waiting
token, and a time that could have been cut short. -/
def cutsShort (p : Parker) (timeout : Duration) : Bool :=
  p.token && 0 < timeout.nanos

theorem park_unpark (p : Parker) : p.unpark.park = (true, ⟨false⟩) :=
  rfl

theorem unpark_unpark (p : Parker) : p.unpark.unpark = p.unpark :=
  rfl

end Parker

end CoopScheduler
