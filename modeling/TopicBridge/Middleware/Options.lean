/-!
# Options of publications and subscriptions
-/

namespace TopicBridge

/-- How a publication is opened: the length of its outbound buffer, and whether
its last message is kept for later subscribers. -/
structure AdvertiseOptions where
  queueSize : Nat := 1
  latch : Bool := false
  deriving DecidableEq

/-- How a subscription is opened: the length of its inbound buffer. -/
structure SubscribeOptions where
  queueSize : Nat := 1
  deriving DecidableEq

end TopicBridge
