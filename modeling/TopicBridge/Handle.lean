import TopicBridge.Number.Power

/-!
# Handles

A handle names a live publisher or subscriber to scripts.  Scripts hold handles
as 32-bit signed integers, so a handle is at most `2 ^ 31 - 1`.  The allocator
hands out the most recently released handle that is free, and a number that was
never used if none is free.
-/

namespace TopicBridge

/-- The name of a publisher or subscriber. -/
structure Handle where
  index : Nat
  deriving DecidableEq, Inhabited

namespace Handle

/-- The largest handle that a script can hold. -/
def maxIndex : Nat := 2 ^ 31 - 1

/-- The handle that a script integer names. -/
def ofInt? (i : Int) : Option Handle :=
  if 0 ≤ i ∧ i ≤ maxIndex then some ⟨i.toNat⟩ else none

theorem ofInt?_eq_some_iff {i : Int} {handle : Handle} :
    ofInt? i = some handle ↔ i = handle.index ∧ handle.index ≤ maxIndex := by
  obtain ⟨index⟩ := handle
  unfold ofInt?
  split
  · simp only [Option.some.injEq, Handle.mk.injEq]
    omega
  · simp only [reduceCtorEq, false_iff]
    omega

instance : ToString Handle where
  toString handle := toString handle.index

end Handle

/-- The state of an allocator: the least number never handed out, the released
numbers with the most recent one first, and the largest number to hand out. -/
structure Allocator where
  next : Nat
  free : List Handle
  limit : Nat
  deriving DecidableEq

namespace Allocator

/-- An allocator with nothing handed out, for handles up to a limit. -/
def withLimit (limit : Nat) : Allocator :=
  ⟨0, [], min limit Handle.maxIndex⟩

/-- An allocator with nothing handed out, for every handle a script can hold. -/
def empty : Allocator :=
  withLimit Handle.maxIndex

/-- Hand out a handle, unless all are out. -/
def allocate? (allocator : Allocator) : Option (Handle × Allocator) :=
  match allocator.free with
  | handle :: rest => some (handle, { allocator with free := rest })
  | [] =>
      if allocator.next ≤ allocator.limit then
        some (⟨allocator.next⟩, { allocator with next := allocator.next + 1 })
      else none

/-- Take back a handle that is out. -/
def release (allocator : Allocator) (handle : Handle) : Allocator :=
  { allocator with free := handle :: allocator.free }

/-- The number of handles that are out. -/
def live (allocator : Allocator) : Nat :=
  allocator.next - allocator.free.length

end Allocator

end TopicBridge
