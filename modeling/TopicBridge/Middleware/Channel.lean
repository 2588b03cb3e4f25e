import TopicBridge.Number.LittleEndian

/-!
# Broadcast channels

Every receiver of a channel gets the payloads in the order in which they were
sent, but only the latest ones, up to the capacity of the channel, are still to
be had.  A receiver is a position: the number of payloads it has passed.  A
receiver that falls behind by more than the capacity skips what is out of
reach.
-/

namespace TopicBridge

/-- A channel: its capacity, and the payloads sent on it, newest first, with
their number. -/
structure Channel where
  capacity : Nat
  history : List Bytes
  sent : Nat
  sent_eq : sent = history.length
  deriving DecidableEq

namespace Channel

/-- The least power of two that is not below a number. -/
def powerOfTwoFrom (n : Nat) : Nat :=
  if n ≤ 1 then 1 else 2 ^ ((n - 1).log2 + 1)

theorem le_powerOfTwoFrom (n : Nat) : n ≤ powerOfTwoFrom n := by
  unfold powerOfTwoFrom
  split
  · assumption
  · have := Nat.lt_log2_self (n := n - 1)
    omega

/-- A channel of a capacity on which nothing was sent. -/
def ofCapacity (capacity : Nat) : Channel :=
  ⟨capacity, [], 0, rfl⟩

/-- A channel with room for a number of payloads, rounded up to a power of
two. -/
def withRoom (room : Nat) : Channel :=
  ofCapacity (powerOfTwoFrom room)

/-- Send a payload. -/
def send (channel : Channel) (payload : Bytes) : Channel where
  capacity := channel.capacity
  history := payload :: channel.history
  sent := channel.sent + 1
  sent_eq := by rw [channel.sent_eq, List.length_cons]

/-- How many payloads were sent after a receiver at a position. -/
def behind (channel : Channel) (position : Nat) : Nat :=
  channel.sent - position

/-- How many payloads a receiver at a position has missed. -/
def skippedFrom (channel : Channel) (position : Nat) : Nat :=
  channel.behind position - channel.capacity

/-- The payloads that a receiver at a position still gets, oldest first. -/
def outstandingFrom (channel : Channel) (position : Nat) : List Bytes :=
  (channel.history.take (min (channel.behind position) channel.capacity)).reverse

/-- What a receiver gets and what it has missed are together what was sent
after it. -/
theorem length_outstandingFrom_add_skippedFrom (channel : Channel) (position : Nat) :
    (channel.outstandingFrom position).length + channel.skippedFrom position =
      channel.behind position := by
  have := channel.sent_eq
  simp only [outstandingFrom, skippedFrom, behind, List.length_reverse, List.length_take]
  omega

end Channel

end TopicBridge
