import TopicBridge.Bridge.Config
import TopicBridge.Dict
import TopicBridge.Middleware.Basic
import TopicBridge.Middleware.Channel
import TopicBridge.Text.Quote

/-!
# The bus

An in-process messaging layer.  A topic is in the table while a publication or
a subscription on it is open.  Whoever opens the topic decides its message type
and makes its channel, and every later publication and subscription on the
topic uses that channel.  A latching publication leaves its last message with
the topic: a new subscription gets it first, until that publication closes or
another latching publication replaces it.

Every subscription has a worker, which takes one message after another and
delivers it.  Closing the subscription and shutting the bus down stop the worker
only where it waits.  One that is inside a delivery then goes on for as long as
messages are ready, whether they were sent before or after.

Delivery can be held back.  Messages then stay in the channels until delivery
goes on, and a subscription for which more of them came in than its channel
keeps skips the oldest ones.
-/

namespace TopicBridge

namespace Bus

/-- The number of a channel, in the order in which topics were opened. -/
structure ChannelId where
  number : Nat
  deriving DecidableEq, Inhabited

/-- An open topic. -/
structure Topic where
  typeName : String
  channel : ChannelId
  /-- The message left by a latching publication. -/
  latched : Option (PublicationId × Bytes) := none
  publishers : Nat := 0
  subscribers : Nat := 0
  deriving DecidableEq

/-- No publication and no subscription uses the topic. -/
def Topic.isUnused (topic : Topic) : Bool :=
  topic.publishers == 0 && topic.subscribers == 0

/-- A publication that was opened. -/
structure Publication where
  topic : String
  channel : ChannelId
  latch : Bool
  isOpen : Bool := true
  deriving DecidableEq

/-- A subscription that was opened. -/
structure Subscription where
  topic : String
  channel : ChannelId
  /-- The latched message that the subscription gets first. -/
  replay : Option Bytes
  /-- The position up to which it has passed its channel. -/
  position : Nat
  isOpen : Bool := true
  /-- Its worker is inside a delivery. -/
  isDelivering : Bool := false
  deriving DecidableEq

end Bus

/-- The state of a bus. -/
structure Bus where
  config : BusConfig := {}
  isClosed : Bool := false
  isHeld : Bool := false
  topics : Dict String Bus.Topic := []
  channels : List Channel := []
  publications : List Bus.Publication := []
  subscriptions : List Bus.Subscription := []
  published : Nat := 0
  lagged : Nat := 0
  deriving DecidableEq

namespace Bus

/-- The channel with a number. -/
def channel (bus : Bus) (id : ChannelId) : Channel :=
  bus.channels.getD id.number (.ofCapacity 0)

/-- Refuse a bus that is shut down. -/
def checkOpen (bus : Bus) : Except BridgeError Unit :=
  if bus.isClosed then .error (.middlewareUnavailable "bus is shut down") else .ok ()

/-- Find a topic, or open it with a new channel.  A topic of another type is
refused. -/
def bind (bus : Bus) (name typeName : String) (queueSize : Nat) :
    Except BridgeError (Topic × Bus) :=
  match Dict.get? bus.topics name with
  | some topic =>
      if topic.typeName = typeName then .ok (topic, bus)
      else .error (.topicConflict name topic.typeName typeName)
  | none =>
      let channel := Channel.withRoom (bus.config.topicCapacity queueSize)
      .ok ({ typeName, channel := ⟨bus.channels.length⟩ },
        { bus with channels := bus.channels ++ [channel] })

/-- Put a topic into the table. -/
def setTopic (bus : Bus) (name : String) (topic : Topic) : Bus :=
  { bus with topics := Dict.insert bus.topics name topic }

/-- Change a topic that is in the table, and take it out if nothing uses it
any more. -/
def releaseTopic (bus : Bus) (name : String) (change : Topic → Topic) : Bus :=
  match Dict.get? bus.topics name with
  | none => bus
  | some topic =>
      if (change topic).isUnused then { bus with topics := Dict.erase bus.topics name }
      else bus.setTopic name (change topic)

/-- Open a publication. -/
def advertise (bus : Bus) (name typeName : String) (options : AdvertiseOptions) :
    Except BridgeError (PublicationId × Bus) := do
  bus.checkOpen
  let (topic, bound) ← bus.bind name typeName options.queueSize
  let counted := bound.setTopic name { topic with publishers := topic.publishers + 1 }
  let publication : Publication :=
    { topic := name, channel := topic.channel, latch := options.latch }
  return (⟨bus.publications.length⟩,
    { counted with publications := bus.publications ++ [publication] })

/-- Open a subscription.  It gets the latched message, and then what is sent
from now on. -/
def subscribe (bus : Bus) (name typeName : String) (options : SubscribeOptions) :
    Except BridgeError (SubscriptionId × Bus) := do
  bus.checkOpen
  let (topic, bound) ← bus.bind name typeName options.queueSize
  let counted := bound.setTopic name { topic with subscribers := topic.subscribers + 1 }
  let subscription : Subscription :=
    { topic := name
      channel := topic.channel
      replay := topic.latched.map (·.2)
      position := (bound.channel topic.channel).sent }
  return (⟨bus.subscriptions.length⟩,
    { counted with subscriptions := bus.subscriptions ++ [subscription] })

/-- Leave a message with a topic. -/
def leave (bus : Bus) (name : String) (id : PublicationId) (payload : Bytes) : Bus :=
  let topics := Dict.modify bus.topics name fun topic =>
    { topic with latched := some (id, payload) }
  { bus with topics }

/-- Send a payload on an open publication. -/
def publish (bus : Bus) (id : PublicationId) (payload : Bytes) : Bus :=
  match bus.publications[id.number]? with
  | none => bus
  | some publication =>
      if publication.isOpen then
        let kept := if publication.latch then bus.leave publication.topic id payload else bus
        { kept with
          published := bus.published + 1
          channels := bus.channels.modify publication.channel.number (·.send payload) }
      else bus

/-- The topic without the message of a publication. -/
def Topic.unlatch (topic : Topic) (id : PublicationId) : Topic :=
  match topic.latched with
  | some (owner, _) => if owner = id then { topic with latched := none } else topic
  | none => topic

/-- Close a publication. -/
def withdraw (bus : Bus) (id : PublicationId) : Bus :=
  match bus.publications[id.number]? with
  | none => bus
  | some publication =>
      if publication.isOpen then
        let closed := bus.releaseTopic publication.topic fun topic =>
          { topic.unlatch id with publishers := topic.publishers - 1 }
        let publications := bus.publications.modify id.number fun p => { p with isOpen := false }
        { closed with publications }
      else bus

/-- Close a subscription.  Closing it again changes nothing. -/
def cancel (bus : Bus) (id : SubscriptionId) : Bus :=
  match bus.subscriptions[id.number]? with
  | none => bus
  | some subscription =>
      if subscription.isOpen then
        let closed := bus.releaseTopic subscription.topic fun topic =>
          { topic with subscribers := topic.subscribers - 1 }
        let subscriptions := bus.subscriptions.modify id.number fun s => { s with isOpen := false }
        { closed with subscriptions }
      else bus

/-- What is ready for the worker of a subscription: the latched message, then what
its channel still keeps for it. -/
def ready (bus : Bus) (subscription : Subscription) : List Bytes :=
  subscription.replay.toList ++
    (bus.channel subscription.channel).outstandingFrom subscription.position

/-- How many messages a subscription has missed. -/
def skipped (bus : Bus) (subscription : Subscription) : Nat :=
  (bus.channel subscription.channel).skippedFrom subscription.position

/-- The worker of a subscription takes what is ready, unless delivery is held
back.  One that waits is stopped when the subscription is closed or the bus is
shut down, but one that is inside a delivery asks for neither and goes on. -/
def attends (bus : Bus) (subscription : Subscription) : Bool :=
  !bus.isHeld && (subscription.isDelivering || (!bus.isClosed && subscription.isOpen))

/-! ### One message after another -/

/-- How many messages a subscription misses before the next one. -/
def missed (bus : Bus) (subscription : Subscription) : Nat :=
  if subscription.replay.isSome then 0 else bus.skipped subscription

/-- A subscription that has got the next message. -/
def passed (bus : Bus) (subscription : Subscription) : Subscription :=
  match subscription.replay with
  | some _ => { subscription with replay := none }
  | none => { subscription with
      position := subscription.position + bus.skipped subscription + 1 }

/-- The worker of a subscription takes the first message that is ready, and is
inside its delivery then. -/
def serve? (bus : Bus) (id : SubscriptionId) : Option (Bytes × Bus) := do
  let subscription ← bus.subscriptions[id.number]?
  if bus.attends subscription then
    let payload ← (bus.ready subscription).head?
    return (payload, { bus with
      lagged := bus.lagged + bus.missed subscription
      subscriptions := bus.subscriptions.modify id.number fun s =>
        { bus.passed s with isDelivering := true } })
  else none

/-- The worker of a subscription comes back from its delivery and waits. -/
def pause (bus : Bus) (id : SubscriptionId) : Bus :=
  { bus with
    subscriptions := bus.subscriptions.modify id.number fun s => { s with isDelivering := false } }

/-! ### Everything at once -/

/-- A subscription that has got everything that was ready, with a worker that
waits. -/
def caughtUp (bus : Bus) (subscription : Subscription) : Subscription :=
  { subscription with
    replay := none
    position := (bus.channel subscription.channel).sent
    isDelivering := false }

/-- What a worker delivers before it waits. -/
def taken (bus : Bus) (subscription : Subscription) : List Bytes :=
  if bus.attends subscription then bus.ready subscription else []

/-- How many messages a worker skips before it waits. -/
def overrun (bus : Bus) (subscription : Subscription) : Nat :=
  if bus.attends subscription then bus.skipped subscription else 0

/-- A subscription after its worker went on until it waits. -/
def settled (bus : Bus) (subscription : Subscription) : Subscription :=
  if bus.attends subscription then bus.caughtUp subscription else subscription

/-- Deliver everything that is ready, one subscription after another. -/
def arrivals (bus : Bus) : List Arrival × Bus :=
  (bus.subscriptions.zipIdx.flatMap fun (subscription, number) =>
      (bus.taken subscription).map fun payload => (⟨number⟩, payload),
    { bus with
      lagged := bus.subscriptions.foldl (fun count s => count + bus.overrun s) bus.lagged
      subscriptions := bus.subscriptions.map bus.settled })

/-! ### Holding back, shutting down and asking -/

/-- Hold delivery back. -/
def hold (bus : Bus) : Bus :=
  { bus with isHeld := true }

/-- Let delivery go on. -/
def release (bus : Bus) : Bus :=
  { bus with isHeld := false }

/-- Shut the bus down: no topic stays open, and no worker that waits takes anything
any more. -/
def shutdown (bus : Bus) : Bus :=
  { bus with isClosed := true, topics := [] }

/-- The type of an open topic. -/
def topicType? (bus : Bus) (name : String) : Option String :=
  (Dict.get? bus.topics name).map (·.typeName)

/-- Counts that an observer sees. -/
structure Stats where
  topics : Nat
  published : Nat
  lagged : Nat
  deriving DecidableEq

/-- The counts of a bus. -/
def stats (bus : Bus) : Stats :=
  ⟨bus.topics.length, bus.published, bus.lagged⟩

/-- A description of a bus for debugging. -/
def describe (bus : Bus) : String :=
  "LocalBus \x7b config: BusConfig \x7b delivery_threads: " ++
    toString bus.config.deliveryThreads ++ ", min_topic_capacity: " ++
    toString bus.config.minTopicCapacity ++ ", thread_name: " ++
    Text.quote bus.config.threadName ++ " \x7d, closed: " ++ toString bus.isClosed ++ " \x7d"

/-- The requests to a bus. -/
inductive Request where
  | stats
  | topicType (name : String)
  | describe
  | hold
  | release
  /-- Let delivery go on, deliver what is outstanding, and shut down. -/
  | shutdown

/-- The answers of a bus. -/
inductive Answer where
  | done
  | stats (counts : Stats)
  | topicType (found : Option String)
  | text (description : String)

/-- Carry out a request. -/
def steer (bus : Bus) : Request → Answer × List Arrival × Bus
  | .stats => (.stats bus.stats, [], bus)
  | .topicType name => (.topicType (bus.topicType? name), [], bus)
  | .describe => (.text bus.describe, [], bus)
  | .hold => (.done, [], bus.hold)
  | .release => (.done, [], bus.release)
  | .shutdown =>
      let (delivered, settled) := bus.release.arrivals
      (.done, delivered, settled.shutdown)

instance : SteeredMiddleware Bus Request Answer where
  advertise := Bus.advertise
  subscribe := Bus.subscribe
  publish := Bus.publish
  withdraw := Bus.withdraw
  cancel := Bus.cancel
  arrivals := Bus.arrivals
  steer := Bus.steer

end Bus

end TopicBridge
