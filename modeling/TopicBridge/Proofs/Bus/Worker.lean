import TopicBridge.Proofs.Bus.Moves

/-!
# Workers

The worker of a subscription either waits or is inside a delivery.  A worker that
waits takes a message only as long as its subscription and the bus are open.  One
that is inside a delivery is not stopped by closing either of them: it takes what
is ready until it comes to wait.  So whoever closes a subscription while its
worker waits has silenced it, and whoever closes it during a delivery has not.
-/

namespace TopicBridge

namespace Bus

/-- The worker of a subscription is inside a delivery. -/
def isDelivering (bus : Bus) (id : SubscriptionId) : Bool :=
  bus.subscriptions[id.number]?.any (·.isDelivering)

/-- No worker is inside a delivery. -/
def AtRest (bus : Bus) : Prop :=
  ∀ subscription ∈ bus.subscriptions, subscription.isDelivering = false

instance (bus : Bus) : Decidable bus.AtRest :=
  inferInstanceAs (Decidable (∀ subscription ∈ bus.subscriptions, _))

/-- A subscription whose worker is inside the delivery of the next message. -/
def begun (bus : Bus) (subscription : Subscription) : Subscription :=
  { bus.passed subscription with isDelivering := true }

/-- A subscription whose worker waits. -/
def Subscription.rested (subscription : Subscription) : Subscription :=
  { subscription with isDelivering := false }

section

variable {bus : Bus} {subscription : Subscription} {id : SubscriptionId}

theorem isDelivering_of_found (found : bus.subscriptions[id.number]? = some subscription) :
    bus.isDelivering id = subscription.isDelivering := by
  rw [isDelivering, found]
  rfl

theorem atRest_iff : bus.AtRest ↔ ∀ id, bus.isDelivering id = false := by
  constructor
  · intro rest id
    rw [isDelivering, Option.any_eq_false]
    intro subscription found
    rw [rest subscription (List.mem_of_getElem? found)]
  · intro waits subscription member
    obtain ⟨number, found⟩ := List.getElem?_of_mem member
    have found : bus.subscriptions[(⟨number⟩ : SubscriptionId).number]? = some subscription := found
    rw [← isDelivering_of_found found, waits]

/-! ## Who takes messages -/

/-- On a bus that goes on, whoever is open or inside a delivery is served. -/
theorem attends_of_goesOn (goesOn : bus.goesOn = true) :
    bus.attends subscription = (subscription.isOpen || subscription.isDelivering) := by
  obtain ⟨notHeld, notClosed⟩ := by simpa [Bus.goesOn] using goesOn
  simp [attends, notHeld, notClosed, Bool.or_comm]

/-- A worker that waits is stopped when its subscription or the bus is closed. -/
theorem attends_of_waits (waits : subscription.isDelivering = false) :
    bus.attends subscription = (bus.goesOn && subscription.isOpen) := by
  rw [attends, waits, Bool.false_or, ← Bool.and_assoc, goesOn, Bool.not_or]

/-- A worker that is inside a delivery takes the next message, too. -/
theorem attends_begun (attends : bus.attends subscription = true) (lagged : Nat) :
    (bus.moved id lagged bus.begun).attends (bus.begun subscription) = true := by
  rw [Bus.attends, Bool.and_eq_true] at attends
  exact Bool.and_eq_true_iff.mpr ⟨attends.1, rfl⟩

/-! ## What a worker does -/

theorem moves_begun {payload : Bytes} {rest : List Bytes}
    (waits : bus.ready subscription = payload :: rest) :
    bus.Moves subscription (bus.begun subscription) := by
  obtain ⟨moves, _⟩ := moves_passed waits
  exact ⟨moves.isOpen, moves.topic, moves.channel, moves.replay, moves.position⟩

theorem moves_rested (bus : Bus) (subscription : Subscription) :
    bus.Moves subscription subscription.rested :=
  ⟨rfl, rfl, rfl, fun replayed => replayed, fun passed => passed⟩

theorem moves_settled (bus : Bus) (subscription : Subscription) :
    bus.Moves subscription (bus.settled subscription) := by
  unfold settled
  split
  · exact bus.moves_caughtUp subscription
  · exact ⟨rfl, rfl, rfl, fun replayed => replayed, fun passed => passed⟩

/-- What it takes to serve a subscription, and what that does. -/
theorem serve?_eq_some {after : Bus} {payload : Bytes}
    (served : bus.serve? id = some (payload, after)) :
    ∃ subscription, bus.subscriptions[id.number]? = some subscription ∧
      bus.attends subscription = true ∧
      bus.ready subscription = payload :: bus.ready (bus.passed subscription) ∧
      after = bus.moved id (bus.lagged + bus.missed subscription) bus.begun := by
  obtain ⟨subscription, found, next⟩ := Option.bind_eq_some_iff.mp served
  split at next
  · rename_i attends
    obtain ⟨first, ready, same⟩ := Option.bind_eq_some_iff.mp next
    cases same
    obtain ⟨rest, ready⟩ := List.head?_eq_some_iff.mp ready
    obtain ⟨_, others⟩ := moves_passed ready
    exact ⟨subscription, found, attends, by rw [others, ready], rfl⟩
  · cases next

/-- A worker that takes messages is inside the delivery of the first one that is ready. -/
theorem serve?_of_attends (found : bus.subscriptions[id.number]? = some subscription)
    (attends : bus.attends subscription = true) {payload : Bytes} {rest : List Bytes}
    (ready : bus.ready subscription = payload :: rest) :
    bus.serve? id =
      some (payload, bus.moved id (bus.lagged + bus.missed subscription) bus.begun) := by
  rw [serve?, found]
  simp only [Option.bind_eq_bind, Option.bind_some, attends, if_true, ready]
  rfl

/-- A worker that takes messages is served the first one that is ready. -/
theorem serve?_of_found (found : bus.subscriptions[id.number]? = some subscription) :
    (bus.serve? id).map (·.1) = (bus.taken subscription).head? := by
  rw [serve?, found, taken]
  simp only [Option.bind_eq_bind, Option.bind_some]
  split
  · cases (bus.ready subscription).head? <;> rfl
  · rfl

theorem pause_of_none (none : bus.subscriptions[id.number]? = none) : bus.pause id = bus := by
  have unchanged : bus.subscriptions.modify id.number Subscription.rested = bus.subscriptions :=
    List.modify_eq_self (List.getElem?_eq_none_iff.mp none)
  exact congrArg (fun subscriptions => { bus with subscriptions }) unchanged

end

end Bus

end TopicBridge
