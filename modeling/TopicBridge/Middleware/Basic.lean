import TopicBridge.Error
import TopicBridge.Middleware.Options
import TopicBridge.Number.LittleEndian

/-!
# Messaging layers

The bridge knows a messaging layer by the operations below.  Publications and
subscriptions are numbered in the order in which they are opened, each from
zero.  An operation that fails leaves the layer as it was, and a layer never
delivers a message inside the call that opens a subscription: what is there to
deliver is asked for afterwards, by `arrivals`.
-/

namespace TopicBridge

/-- The number of a publication. -/
structure PublicationId where
  number : Nat
  deriving DecidableEq, Inhabited

/-- The number of a subscription. -/
structure SubscriptionId where
  number : Nat
  deriving DecidableEq, Inhabited

/-- A message for a subscription. -/
abbrev Arrival := SubscriptionId × Bytes

/-- The operations of a messaging layer. -/
class Middleware (μ : Type) where
  /-- Open a publication on a topic that carries messages of a type. -/
  advertise (layer : μ) (topic typeName : String) (options : AdvertiseOptions) :
    Except BridgeError (PublicationId × μ)
  /-- Open a subscription to a topic that carries messages of a type. -/
  subscribe (layer : μ) (topic typeName : String) (options : SubscribeOptions) :
    Except BridgeError (SubscriptionId × μ)
  /-- Send a payload on a publication. -/
  publish (layer : μ) (publication : PublicationId) (payload : Bytes) : μ
  /-- Close a publication. -/
  withdraw (layer : μ) (publication : PublicationId) : μ
  /-- Close a subscription. -/
  cancel (layer : μ) (subscription : SubscriptionId) : μ
  /-- Everything that can be delivered now, in order. -/
  arrivals (layer : μ) : List Arrival × μ

/-- A messaging layer that can also be observed and steered from outside by
requests `κ` with answers `ρ`.  A request may cause deliveries of its own. -/
class SteeredMiddleware (μ : Type) (κ ρ : outParam Type) extends Middleware μ where
  /-- Carry out a request. -/
  steer (layer : μ) (request : κ) : ρ × List Arrival × μ

end TopicBridge
