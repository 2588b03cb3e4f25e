import TopicBridge.Proofs.Bus.Bound

/-!
# One message at a time

Every subscription is served on its own, and nobody knows in which order.  A
subscription moves on when its worker takes a message, the first that is ready for
it, and when it catches up.  A receiver that gets the first of its payloads still
gets the others, and a payload that is sent comes after all of them.
-/

namespace TopicBridge

namespace Channel

/-- A receiver that gets the first of its payloads still gets the others. -/
theorem outstandingFrom_next {channel : Channel} {position : Nat} {payload : Bytes}
    {rest : List Bytes} (kept : channel.outstandingFrom position = payload :: rest) :
    position + channel.skippedFrom position + 1 ≤ channel.sent ∧
      channel.outstandingFrom (position + channel.skippedFrom position + 1) = rest := by
  have length := channel.length_outstandingFrom_add_skippedFrom position
  rw [kept, List.length_cons] at length
  have passes : position + channel.skippedFrom position + 1 ≤ channel.sent := by
    unfold behind at length
    omega
  refine ⟨passes, ?_⟩
  have reach : min (channel.behind position) channel.capacity =
      min (channel.behind (position + channel.skippedFrom position + 1)) channel.capacity + 1 := by
    simp only [behind, skippedFrom] at length passes ⊢
    omega
  rw [outstandingFrom, reach, List.take_add_one, List.reverse_append] at kept
  rw [outstandingFrom]
  have there : min (channel.behind (position + channel.skippedFrom position + 1))
      channel.capacity < channel.history.length := by
    rw [← channel.sent_eq]
    simp only [behind] at reach ⊢
    omega
  rw [List.getElem?_eq_getElem there] at kept
  exact (List.cons.inj kept).2

/-- A payload that is sent comes after those that a receiver still gets, and
displaces the oldest of them only if the receiver is too far behind. -/
theorem outstandingFrom_send (channel : Channel) {position : Nat} (payload : Bytes)
    (passed : position ≤ channel.sent) :
    ((channel.send payload).outstandingFrom position).Sublist
        (channel.outstandingFrom position ++ [payload]) ∧
      (channel.behind position < channel.capacity →
        (channel.send payload).outstandingFrom position =
          channel.outstandingFrom position ++ [payload]) := by
  have further : (channel.send payload).behind position = channel.behind position + 1 :=
    Nat.succ_sub passed
  have queued : channel.outstandingFrom position ++ [payload] =
      (payload :: channel.history.take
        (min (channel.behind position) channel.capacity)).reverse := by
    rw [List.reverse_cons, outstandingFrom]
  rw [queued, outstandingFrom, further]
  change (List.take (min _ channel.capacity) (payload :: channel.history)).reverse.Sublist _ ∧
    (_ → (List.take (min _ channel.capacity) (payload :: channel.history)).reverse = _)
  constructor
  · apply List.Sublist.reverse
    rw [← List.take_succ_cons]
    apply List.take_sublist_take_left
    omega
  · intro room
    rw [Nat.min_eq_left room, List.take_succ_cons, Nat.min_eq_left (Nat.le_of_lt room)]

end Channel

namespace Bus

/-- The bus after one of its subscriptions moved on. -/
def moved (bus : Bus) (id : SubscriptionId) (lagged : Nat)
    (change : Subscription → Subscription) : Bus :=
  { bus with lagged, subscriptions := bus.subscriptions.modify id.number change }

/-- A subscription moves on: it stays bound to its topic, and passes only what
was sent. -/
structure Moves (bus : Bus) (before after : Subscription) : Prop where
  isOpen : after.isOpen = before.isOpen
  topic : after.topic = before.topic
  channel : after.channel = before.channel
  replay : ∀ {payload}, after.replay = some payload → before.replay = some payload
  position : before.position ≤ (bus.channel before.channel).sent →
    after.position ≤ (bus.channel before.channel).sent

/-- A subscription is handed what is ready for it in order. -/
theorem moves_passed {bus : Bus} {subscription : Subscription} {payload : Bytes}
    {rest : List Bytes} (waits : bus.ready subscription = payload :: rest) :
    bus.Moves subscription (bus.passed subscription) ∧
      bus.ready (bus.passed subscription) = rest := by
  obtain ⟨topic, channel, replay, position, isOpen, isDelivering⟩ := subscription
  cases replay with
  | some first =>
      obtain ⟨_, same⟩ := List.cons.inj waits
      exact ⟨⟨rfl, rfl, rfl, fun replayed => (nomatch replayed), fun below => below⟩, same⟩
  | none =>
      obtain ⟨below, same⟩ := Channel.outstandingFrom_next waits
      exact ⟨⟨rfl, rfl, rfl, fun replayed => (nomatch replayed), fun _ => below⟩, same⟩

theorem moves_caughtUp (bus : Bus) (subscription : Subscription) :
    bus.Moves subscription (bus.caughtUp subscription) :=
  ⟨rfl, rfl, rfl, fun replayed => (nomatch replayed), fun _ => Nat.le_refl _⟩

/-- A bus stays bound together when a subscription moves on. -/
theorem Bound.moved {bus : Bus} {id : SubscriptionId} {subscription : Subscription} {lagged : Nat}
    {change : Subscription → Subscription} (bound : bus.Bound)
    (found : bus.subscriptions[id.number]? = some subscription)
    (moves : bus.Moves subscription (change subscription)) : (bus.moved id lagged change).Bound := by
  refine ⟨bound.publishing, ?_, bound.placed, ?_, ?_, bound.capacity⟩
  · intro name
    obtain ⟨before, after, same, changed⟩ := modify_split change found
    refine Eq.trans ?_ (bound.subscribing name)
    rw [Bus.subscribing, Bus.subscribing, Bus.moved, changed, same]
    simp only [List.filter_append, List.filter_cons, moves.isOpen, moves.topic]
    split <;> simp [moves.channel]
  · intro other there
    rcases mem_modify there with before | ⟨before, found', rfl⟩
    · exact bound.subscriptions other before
    · cases found.symm.trans found'
      obtain ⟨below, passed⟩ := bound.subscriptions subscription (List.mem_of_getElem? found)
      rw [moves.channel]
      exact ⟨below, moves.position passed⟩
  · intro other there name topic held shared
    rcases mem_modify there with before | ⟨before, found', rfl⟩
    · exact bound.own other before held shared
    · cases found.symm.trans found'
      rw [moves.topic]
      exact bound.own subscription (List.mem_of_getElem? found) held (moves.channel ▸ shared)

end Bus

end TopicBridge
