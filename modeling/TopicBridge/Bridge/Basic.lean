import TopicBridge.Bridge.Config
import TopicBridge.Bridge.Counters
import TopicBridge.Bridge.Table
import TopicBridge.Queue

/-!
# The bridge

The bridge connects scripts to a messaging layer.  It owns the table of live
proxies and the queue of invocations that wait for the simulation to call a
script.  Messages come in at any time and are only queued; scripts are called
from the stepping loop alone.

This module holds the state and what can be asked of it.  The operations are in
the modules beside it.
-/

namespace TopicBridge

/-- A message that waits to be passed to a callback.  The handle and the
generation name the subscriber incarnation that it came in for. -/
structure Invocation where
  handle : Handle
  generation : Nat
  callback : Callback
  payload : Value

/-- Where the messages of a subscription go: the subscriber incarnation that
the subscription was opened for, and the codec that reads them. -/
structure Target where
  handle : Handle
  generation : Nat
  codec : Codec

/-- The state of a bridge over a messaging layer. -/
structure Bridge (μ : Type) where
  types : Catalog
  config : BridgeConfig
  middleware : μ
  table : Table := {}
  /-- The queue of invocations, oldest first. -/
  pending : Queue Invocation := .empty
  /-- The targets of all subscriptions ever opened. -/
  targets : Dict SubscriptionId Target := []
  counters : Counters := {}
  /-- The errors reported outside any call, oldest first. -/
  reports : Array BridgeError := #[]
  /-- Whether the bridge is there to receive messages. -/
  isLoaded : Bool := true

namespace Bridge

variable {μ : Type}

/-- The live handles, ascending. -/
def handles (bridge : Bridge μ) : List Handle :=
  bridge.table.handles

/-- The number of live proxies. -/
def size (bridge : Bridge μ) : Nat :=
  bridge.table.size

/-- A live proxy has the handle. -/
def contains (bridge : Bridge μ) (handle : Handle) : Bool :=
  (bridge.table.get? handle).isSome

/-- The live proxy under a handle. -/
def find (bridge : Bridge μ) (handle : Handle) : Except BridgeError Entry :=
  match bridge.table.get? handle with
  | some entry => .ok entry
  | none => .error (.unknownHandle handle)

/-- The live publisher under a handle. -/
def findPublisher (bridge : Bridge μ) (handle : Handle) : Except BridgeError Publisher := do
  match (← bridge.find handle).proxy with
  | .publisher publisher => return publisher
  | .subscriber _ => .error (.wrongKind handle .publisher .subscriber)

/-- The callback of the live subscriber under a handle. -/
def lookupCallback (bridge : Bridge μ) (handle : Handle) : Except BridgeError Callback := do
  match (← bridge.find handle).proxy with
  | .subscriber subscriber => return subscriber.callback
  | .publisher _ => .error (.wrongKind handle .subscriber .publisher)

/-- The description of the live proxy under a handle. -/
def info (bridge : Bridge μ) (handle : Handle) : Except BridgeError ProxyInfo :=
  (bridge.find handle).map fun entry => entry.proxy.info handle

/-- The counters and the live proxies of each kind. -/
def stats (bridge : Bridge μ) : Stats where
  toCounters := bridge.counters
  publishers := bridge.table.count .publisher
  subscribers := bridge.table.count .subscriber

/-- Report an error that has no caller to return to. -/
def report (bridge : Bridge μ) (e : BridgeError) : Bridge μ :=
  { bridge with reports := bridge.reports.push e }

/-- Count events. -/
def count (bridge : Bridge μ) (bump : Counters → Counters) : Bridge μ :=
  { bridge with counters := bump bridge.counters }

/-- A description of the bridge for debugging. -/
def describe (bridge : Bridge μ) : String :=
  "BridgePlugin \x7b registry: ProxyRegistry \x7b proxies: " ++ toString bridge.size ++
    ", config: RegistryConfig \x7b pending_capacity: " ++
    toString bridge.config.pendingCapacity ++ ", drain_budget: " ++
    toString bridge.config.drainBudget ++ ", validate_callbacks: " ++
    toString bridge.config.validateCallbacks ++ ", default_queue_size: " ++
    toString bridge.config.defaultQueueSize ++ " \x7d \x7d \x7d"

end Bridge

end TopicBridge
