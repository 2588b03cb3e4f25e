/-!
# Configuration

Options of the bridge and of the bus.  The `with` functions keep each option
sensible: a capacity, a queue size and a number of threads are at least one.
-/

namespace TopicBridge

/-- Options of the bridge. -/
structure BridgeConfig where
  /-- How many invocations may be pending. -/
  pendingCapacity : Nat := 1024
  /-- How many invocations one drain may take.  Zero stands for the pending
  capacity. -/
  drainBudget : Nat := 0
  /-- Whether a callback has to exist when a subscriber is created. -/
  validateCallbacks : Bool := true
  /-- The queue size of a script that names none. -/
  defaultQueueSize : Nat := 1
  deriving DecidableEq

namespace BridgeConfig

/-- Set the pending capacity, at least one. -/
def withPendingCapacity (config : BridgeConfig) (capacity : Nat) : BridgeConfig :=
  { config with pendingCapacity := max capacity 1 }

/-- Set the drain budget. -/
def withDrainBudget (config : BridgeConfig) (budget : Nat) : BridgeConfig :=
  { config with drainBudget := budget }

/-- Set whether callbacks are checked early. -/
def withValidateCallbacks (config : BridgeConfig) (enabled : Bool) : BridgeConfig :=
  { config with validateCallbacks := enabled }

/-- Set the default queue size, at least one. -/
def withDefaultQueueSize (config : BridgeConfig) (size : Nat) : BridgeConfig :=
  { config with defaultQueueSize := max size 1 }

/-- How many invocations one drain takes at most. -/
def effectiveBudget (config : BridgeConfig) : Nat :=
  if config.drainBudget = 0 then config.pendingCapacity else config.drainBudget

/-- How many invocations the pending queue holds at most. -/
def queueCapacity (config : BridgeConfig) : Nat :=
  max config.pendingCapacity 1

end BridgeConfig

/-- Options of the bus. -/
structure BusConfig where
  /-- How many threads deliver messages. -/
  deliveryThreads : Nat := 2
  /-- The least capacity of a topic's channel. -/
  minTopicCapacity : Nat := 16
  /-- The name of the delivery threads. -/
  threadName : String := "simbridge-bus"
  deriving DecidableEq

namespace BusConfig

/-- Set the number of delivery threads, at least one. -/
def withDeliveryThreads (config : BusConfig) (threads : Nat) : BusConfig :=
  { config with deliveryThreads := max threads 1 }

/-- Set the least channel capacity, at least one. -/
def withMinTopicCapacity (config : BusConfig) (capacity : Nat) : BusConfig :=
  { config with minTopicCapacity := max capacity 1 }

/-- Set the name of the delivery threads. -/
def withThreadName (config : BusConfig) (name : String) : BusConfig :=
  { config with threadName := name }

/-- The capacity asked for when a topic is opened with a queue size. -/
def topicCapacity (config : BusConfig) (queueSize : Nat) : Nat :=
  max (max queueSize config.minTopicCapacity) 1

end BusConfig

end TopicBridge
