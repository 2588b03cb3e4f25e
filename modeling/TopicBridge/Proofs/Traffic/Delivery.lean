import TopicBridge.Proofs.Traffic.Sound

/-!
# From a publisher to its subscribers

What waits for a subscriber, in the hand of its worker or on the bus, is a queue:
what is sent on the topic comes in at the end, and what is passed to the bridge
goes out at the front.  So a value that was published is passed to each
subscriber of the topic once, in its turn, and the callback gets its normal form
in the schema of the publisher.
-/

namespace TopicBridge

/-- What waits for a subscription, in the hand of its worker or on the bus. -/
def Traffic.waiting (traffic : Traffic) (id : SubscriptionId) : List Bytes :=
  (Dict.get? traffic.inHand id).toList ++ traffic.bus.waiting id

namespace Juncture

/-- The payloads that are sent on a topic. -/
def sends (juncture : Juncture) (topic : String) : List Bytes :=
  match juncture.occurrence with
  | .event (.operation operation) => juncture.traffic.bridge.sends operation topic
  | _ => []

/-- The payloads that are passed to the bridge for a subscription. -/
def passes (juncture : Juncture) (id : SubscriptionId) : List Bytes :=
  match juncture.occurrence with
  | .pass other => if other = id then (Dict.get? juncture.traffic.inHand id).toList else []
  | _ => []

/-- What is sent on a topic at the juncture fits into the channel of a
subscription. -/
def Fits (juncture : Juncture) (topic : String) (id : SubscriptionId) : Prop :=
  juncture.sends topic ≠ [] → juncture.traffic.bus.hasRoom id

end Juncture

/-- What is passed for a subscription was waiting for it before or was sent
since, in this order.  As long as the subscription is open and its channel has
room, nothing is lost. -/
def Advances (start : Traffic) (past : List Juncture) (now : Traffic) : Prop :=
  ∀ (id : SubscriptionId) (subscription : Bus.Subscription),
    start.bus.subscriptions[id.number]? = some subscription →
    ∃ later : Bus.Subscription, now.bus.subscriptions[id.number]? = some later ∧
      later.topic = subscription.topic ∧
      (past.flatMap (·.passes id) ++ now.waiting id).Sublist
        (start.waiting id ++ past.flatMap (·.sends subscription.topic)) ∧
      (later.isOpen = true → subscription.isOpen = true ∧
        ((∀ juncture ∈ past, juncture.Fits subscription.topic id) →
          past.flatMap (·.passes id) ++ now.waiting id =
            start.waiting id ++ past.flatMap (·.sends subscription.topic)))

namespace Advances

variable {start middle now : Traffic} {past later : List Juncture}

theorem rest (traffic : Traffic) : Advances traffic [] traffic := by
  intro id subscription found
  refine ⟨subscription, found, rfl, ?_, fun isOpen => ⟨isOpen, fun _ => ?_⟩⟩
  · simp
  · simp

theorem trans (first : Advances start past middle) (second : Advances middle later now) :
    Advances start (past ++ later) now := by
  intro id subscription found
  obtain ⟨between, found, topic, ordered, open₁⟩ := first id subscription found
  obtain ⟨last, found, topic', ordered', open₂⟩ := second id between found
  rw [topic] at ordered' open₂
  rw [List.flatMap_append, List.flatMap_append, List.append_assoc]
  refine ⟨last, found, topic'.trans topic, ?_, fun isOpen => ?_⟩
  · refine (ordered'.append_left _).trans ?_
    rw [← List.append_assoc, ← List.append_assoc]
    exact ordered.append_right _
  · obtain ⟨isOpen, exact'⟩ := open₂ isOpen
    obtain ⟨isOpen, exact⟩ := open₁ isOpen
    refine ⟨isOpen, fun fits => ?_⟩
    rw [exact' fun juncture member => fits juncture (List.mem_append_right _ member),
      ← List.append_assoc, exact fun juncture member => fits juncture (List.mem_append_left _ member),
      List.append_assoc]

/-- The bus goes on while nothing is passed. -/
theorem of_carries {occurrence : Occurrence} (inHand : now.inHand = start.inHand)
    (carries : start.bus.Carries now.bus (Juncture.mk start occurrence).sends)
    (quiet : ∀ id, (Juncture.mk start occurrence).passes id = []) :
    Advances start [⟨start, occurrence⟩] now := by
  intro id subscription found
  obtain ⟨later, found, topic, ordered, exact⟩ := carries id subscription found
  refine ⟨later, found, topic, ?_, fun isOpen => ?_⟩
  · simpa [Traffic.waiting, quiet, inHand] using ordered
  · obtain ⟨isOpen, exact⟩ := exact isOpen
    refine ⟨isOpen, fun fits => ?_⟩
    have exact := exact (fits _ List.mem_cons_self)
    simp [Traffic.waiting, quiet, inHand, exact]

end Advances

namespace Traffic.Sound

variable {types : Catalog} {traffic after now : Traffic}

theorem advances_event (sound : traffic.Sound types) (registered : types.Registered)
    {event : Event Bus} {world : World Bus} (admitted : traffic.bridge.admits event = true)
    (happens : traffic.world.step event = some world) :
    Advances traffic [⟨traffic, .event event⟩] { traffic with world } := by
  have quiet {world : World Bus} (same : world.bridge.middleware = traffic.bus) :
      traffic.bus.Carries (Traffic.bus { traffic with world }) fun _ => [] := by
    have sameBus : Traffic.bus { traffic with world } = traffic.bus := same
    rw [sameBus]
    exact (Bus.Keeps.refl _).carries
  refine Advances.of_carries rfl ?_ fun _ => rfl
  cases event with
  | operation operation =>
      obtain ⟨_, rfl⟩ := World.step_operation happens
      simp only [Bridge.admits, Bool.and_eq_true] at admitted
      exact (sound.linked.perform registered admitted.1 admitted.2).1
  | deliver subscription payload => cases admitted
  | layer middleware => cases admitted
  | beginDrain =>
      obtain ⟨_, rfl⟩ := World.step_beginDrain happens
      exact quiet rfl
  | take =>
      obtain ⟨budget, report, outer, _, rfl⟩ := World.step_take happens
      apply quiet
      rw [World.bridge_takeNext]
      exact (Bridge.SameLinks.takePending _).middleware
  | finish outcome =>
      obtain ⟨_, _, invocation, _, _, rfl⟩ := World.step_finish happens
      exact quiet (Bridge.SameLinks.finish _ invocation outcome).middleware
  | endDrain =>
      obtain ⟨_, _, _, rfl⟩ := World.step_endDrain happens
      exact quiet rfl

/-- A worker takes the message that it has in hand from the front of the queue. -/
theorem advances_fetch {id : SubscriptionId} (stepped : traffic.step (.fetch id) = some after) :
    Advances traffic [⟨traffic, .fetch id⟩] after := by
  obtain ⟨idle, payload, bus, served, rfl⟩ := Traffic.step_fetch stepped
  intro other subscription found
  have grows : traffic.bus.Grows bus := by
    obtain ⟨_, there, _, ready, moved⟩ := Bus.serve?_eq_some served
    rw [moved]
    exact .moved there (Bus.moves_begun ready)
  obtain ⟨later, found', sameOpen, sameTopic⟩ := grows.subscriptions found
  have same : Traffic.waiting { traffic.withBridge { traffic.bridge with middleware := bus } with
      inHand := Dict.insert traffic.inHand id payload } other = traffic.waiting other := by
    change (Dict.get? (Dict.insert _ _ _) _).toList ++ bus.waiting other = _
    rw [Traffic.waiting, Dict.get?_insert]
    by_cases own : id = other
    · subst own
      rw [if_pos rfl, idle, Bus.waiting_serve served]
      rfl
    · rw [if_neg own, Bus.waiting_serve_of_ne served own]
  refine ⟨later, found', sameTopic, ?_, fun isOpen => ⟨sameOpen ▸ isOpen, fun _ => ?_⟩⟩
  · simp [Juncture.passes, Juncture.sends, same]
  · simp [Juncture.passes, Juncture.sends, same]

/-- A worker passes on what was at the front of the queue. -/
theorem advances_pass {id : SubscriptionId} (stepped : traffic.step (.pass id) = some after) :
    Advances traffic [⟨traffic, .pass id⟩] after := by
  obtain ⟨payload, taken, same⟩ := Traffic.step_pass stepped
  have bus : after.bus = traffic.bus := by
    rw [same]
    exact (Bridge.SameLinks.deliver _ id payload).middleware
  have inHand : after.inHand = Dict.erase traffic.inHand id := by rw [same]
  intro other subscription found
  have front : (Juncture.mk traffic (.pass id)).passes other ++ after.waiting other =
      traffic.waiting other := by
    rw [Traffic.waiting, Traffic.waiting, bus, inHand, Juncture.passes, Dict.get?_erase]
    by_cases own : id = other
    · subst own
      simp
    · simp [own]
  refine ⟨subscription, by rwa [bus], rfl, ?_, fun isOpen => ⟨isOpen, fun _ => ?_⟩⟩
  · simp [Juncture.sends, front]
  · simp [Juncture.sends, front]

theorem advances (sound : traffic.Sound types) (registered : types.Registered)
    {occurrence : Occurrence} (stepped : traffic.step occurrence = some after) :
    Advances traffic [⟨traffic, occurrence⟩] after := by
  cases occurrence with
  | event event =>
      obtain ⟨admitted, world, happens, rfl⟩ := Traffic.step_event stepped
      exact sound.advances_event registered admitted happens
  | fetch id => exact advances_fetch stepped
  | pass id => exact advances_pass stepped
  | pause id =>
      obtain ⟨_, rfl⟩ := Traffic.step_pause stepped
      exact Advances.of_carries rfl (Bus.Keeps.pause traffic.bus id).carries fun _ => rfl

end Traffic.Sound

theorem Course.advances {types : Catalog} (registered : types.Registered) {start now : Traffic}
    {past : List Juncture} (course : Course start past now) (sound : start.Sound types) :
    Advances start past now := by
  induction course with
  | rest traffic => exact Advances.rest traffic
  | next stepped _ ih =>
      exact (sound.advances registered stepped).trans (ih (sound.step registered stepped))

end TopicBridge
