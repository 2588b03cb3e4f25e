import TopicBridge.Proofs.Traffic.Operation
import TopicBridge.Proofs.World.Incarnation

/-!
# Traffic between a bridge and its bus

Each subscription has a worker of its own that takes the next message from the
bus and then passes it to the bridge.  In between, anything may happen: other
workers go on, the stepping loop and its callbacks use the bridge, and the
subscription itself may be closed, in which case the message is still passed and
the worker goes on with what is ready until it comes to wait.  A course is any
interleaving of all this in which what is published was written by a codec.
Whatever the course, no message turns out to be unreadable.
-/

namespace TopicBridge

/-- A bridge over a bus, with the messages that workers have taken and not yet
passed on. -/
structure Traffic where
  world : World Bus
  inHand : Dict SubscriptionId Bytes := []

/-- What can happen to traffic. -/
inductive Occurrence where
  /-- The stepping loop or a callback does something. -/
  | event (event : Event Bus)
  /-- The worker of a subscription takes the next message. -/
  | fetch (subscription : SubscriptionId)
  /-- The worker of a subscription passes on the message that it took. -/
  | pass (subscription : SubscriptionId)
  /-- The worker of a subscription has passed on what it took, and waits. -/
  | pause (subscription : SubscriptionId)

/-- The event comes from the stepping loop or a callback, uses a bridge that is
loaded, and publishes only what a codec writes. -/
def Bridge.admits {μ : Type} (bridge : Bridge μ) : Event μ → Bool
  | .operation operation => bridge.isLoaded && operation.isTyped
  | .deliver _ _ => false
  | .layer _ => false
  | .beginDrain | .take | .finish _ | .endDrain => true

namespace Traffic

/-- The traffic of a new bridge over a new bus. -/
def fresh (types : Catalog) (config : BridgeConfig) (options : BusConfig) : Traffic :=
  { world := World.fresh types config ({ config := options } : Bus) }

/-- The bridge. -/
def bridge (traffic : Traffic) : Bridge Bus :=
  traffic.world.bridge

/-- The bus. -/
def bus (traffic : Traffic) : Bus :=
  traffic.bridge.middleware

/-- The traffic with another bridge. -/
def withBridge (traffic : Traffic) (bridge : Bridge Bus) : Traffic :=
  { traffic with world := { traffic.world with bridge } }

/-- The traffic after an occurrence, if it can happen. -/
def step (traffic : Traffic) : Occurrence → Option Traffic
  | .event event =>
      if traffic.bridge.admits event then
        (traffic.world.step event).map fun world => { traffic with world }
      else none
  | .fetch id =>
      match Dict.get? traffic.inHand id with
      | some _ => none
      | none => (traffic.bus.serve? id).map fun (payload, middleware) =>
          { traffic.withBridge { traffic.bridge with middleware } with
            inHand := Dict.insert traffic.inHand id payload }
  | .pass id =>
      (Dict.get? traffic.inHand id).map fun payload =>
        { traffic.withBridge (traffic.bridge.deliver id payload) with
          inHand := Dict.erase traffic.inHand id }
  | .pause id =>
      match Dict.get? traffic.inHand id with
      | some _ => none
      | none => some (traffic.withBridge
          { traffic.bridge with middleware := traffic.bus.pause id })

variable {traffic after : Traffic}

/-! What each occurrence needs and does. -/

theorem step_event {event : Event Bus} (stepped : traffic.step (.event event) = some after) :
    traffic.bridge.admits event = true ∧
      ∃ world, traffic.world.step event = some world ∧ after = { traffic with world } := by
  simp only [step] at stepped
  split at stepped
  · rename_i inside
    obtain ⟨world, happens, same⟩ := Option.map_eq_some_iff.mp stepped
    exact ⟨inside, world, happens, same.symm⟩
  · cases stepped

theorem step_fetch {id : SubscriptionId} (stepped : traffic.step (.fetch id) = some after) :
    Dict.get? traffic.inHand id = none ∧
      ∃ payload middleware, traffic.bus.serve? id = some (payload, middleware) ∧
        after = { traffic.withBridge { traffic.bridge with middleware } with
          inHand := Dict.insert traffic.inHand id payload } := by
  simp only [step] at stepped
  split at stepped
  · cases stepped
  · rename_i idle
    obtain ⟨⟨payload, middleware⟩, served, same⟩ := Option.map_eq_some_iff.mp stepped
    exact ⟨idle, payload, middleware, served, same.symm⟩

theorem step_pass {id : SubscriptionId} (stepped : traffic.step (.pass id) = some after) :
    ∃ payload, Dict.get? traffic.inHand id = some payload ∧
      after = { traffic.withBridge (traffic.bridge.deliver id payload) with
        inHand := Dict.erase traffic.inHand id } := by
  obtain ⟨payload, taken, same⟩ := Option.map_eq_some_iff.mp stepped
  exact ⟨payload, taken, same.symm⟩

theorem step_pause {id : SubscriptionId} (stepped : traffic.step (.pause id) = some after) :
    Dict.get? traffic.inHand id = none ∧
      after = traffic.withBridge { traffic.bridge with middleware := traffic.bus.pause id } := by
  simp only [step] at stepped
  split at stepped
  · cases stepped
  · rename_i idle
    exact ⟨idle, (Option.some.inj stepped).symm⟩

end Traffic

/-- An occurrence, with the traffic in which it happened. -/
structure Juncture where
  traffic : Traffic
  occurrence : Occurrence

/-- What happens between one traffic and another, oldest first. -/
inductive Course : Traffic → List Juncture → Traffic → Prop
  | rest (traffic : Traffic) : Course traffic [] traffic
  | next {traffic middle after : Traffic} {occurrence : Occurrence} {later : List Juncture} :
      traffic.step occurrence = some middle → Course middle later after →
      Course traffic (⟨traffic, occurrence⟩ :: later) after

/-- The junctures of occurrences that happen one after another, if they all can,
and the traffic after them. -/
def Traffic.replay (traffic : Traffic) : List Occurrence → Option (List Juncture × Traffic)
  | [] => some ([], traffic)
  | occurrence :: rest => do
      let middle ← traffic.step occurrence
      let (later, after) ← middle.replay rest
      return (⟨traffic, occurrence⟩ :: later, after)

namespace Course

variable {start middle after : Traffic} {past later : List Juncture}

/-- Occurrences that can happen one after another make a course. -/
theorem ofReplay {occurrences : List Occurrence}
    (replayed : start.replay occurrences = some (past, after)) : Course start past after := by
  induction occurrences generalizing start past with
  | nil =>
      cases replayed
      exact .rest _
  | cons occurrence rest ih =>
      obtain ⟨middle, stepped, replayed⟩ := Option.bind_eq_some_iff.mp replayed
      obtain ⟨⟨later, last⟩, replayed, same⟩ := Option.bind_eq_some_iff.mp replayed
      cases same
      exact .next stepped (ih replayed)

/-- A course can be continued by another one. -/
theorem trans (first : Course start past middle) (second : Course middle later after) :
    Course start (past ++ later) after := by
  induction first with
  | rest => exact second
  | next stepped _ ih => exact .next stepped (ih second)

/-- A course can be parted anywhere. -/
theorem part (course : Course start (past ++ later) after) :
    ∃ middle, Course start past middle ∧ Course middle later after := by
  induction past generalizing start with
  | nil => exact ⟨start, .rest _, course⟩
  | cons juncture rest ih =>
      cases course with
      | next stepped course =>
          obtain ⟨middle, first, second⟩ := ih course
          exact ⟨middle, .next stepped first, second⟩

/-- Every course is a run of the bridge. -/
theorem isRun (course : Course start past after) :
    ∃ moments, Run start.world moments after.world := by
  induction course with
  | rest => exact ⟨[], .start⟩
  | @next traffic middle after occurrence later stepped _ ih =>
      obtain ⟨moments, run⟩ := ih
      have first : ∃ event, traffic.world.step event = some middle.world := by
        cases occurrence with
        | event event =>
            obtain ⟨_, world, happens, rfl⟩ := Traffic.step_event stepped
            exact ⟨event, happens⟩
        | fetch id =>
            obtain ⟨_, payload, middleware, _, rfl⟩ := Traffic.step_fetch stepped
            exact ⟨.layer middleware, rfl⟩
        | pass id =>
            obtain ⟨payload, _, rfl⟩ := Traffic.step_pass stepped
            exact ⟨.deliver id payload, rfl⟩
        | pause id =>
            obtain ⟨_, rfl⟩ := Traffic.step_pause stepped
            exact ⟨.layer _, rfl⟩
      obtain ⟨event, happens⟩ := first
      exact ⟨_, (Run.single happens).trans run⟩

end Course

end TopicBridge
