/-!
# Counters
-/

namespace TopicBridge

/-- How often each event has happened since the bridge was made. -/
structure Counters where
  /-- Proxies created. -/
  created : Nat := 0
  /-- Proxies destroyed. -/
  destroyed : Nat := 0
  /-- Payloads handed to publications. -/
  published : Nat := 0
  /-- Payloads received. -/
  delivered : Nat := 0
  /-- Invocations put into the queue. -/
  enqueued : Nat := 0
  /-- Callbacks that ran to completion. -/
  invoked : Nat := 0
  /-- Queued invocations dropped because their subscriber was gone. -/
  discardedStale : Nat := 0
  /-- Payloads dropped because their subscriber was gone. -/
  droppedUnknown : Nat := 0
  /-- Payloads dropped because the queue was full. -/
  droppedQueueFull : Nat := 0
  /-- Payloads that could not be read. -/
  decodeFailures : Nat := 0
  /-- Callbacks that failed. -/
  invokeFailures : Nat := 0
  deriving DecidableEq

/-- The counters together with the live proxies of each kind. -/
structure Stats extends Counters where
  publishers : Nat
  subscribers : Nat
  deriving DecidableEq

namespace Stats

/-- The number of live proxies. -/
def live (stats : Stats) : Nat :=
  stats.publishers + stats.subscribers

/-- The number of payloads that never reached a script. -/
def dropped (stats : Stats) : Nat :=
  stats.discardedStale + stats.droppedUnknown + stats.droppedQueueFull + stats.decodeFailures

end Stats

end TopicBridge
