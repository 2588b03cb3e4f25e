import TopicBridge.Bridge.Commands
import TopicBridge.Bridge.Delivery

/-!
# Steps of a session

A session is a finite list of steps that a simulator, its scripts and an
observer take on one bridge.  Here are the steps and the answers to them.
-/

namespace TopicBridge

/-- What the simulator tells the bridge. -/
inductive HostEvent where
  /-- A simulation step starts: pending callbacks run now. -/
  | step
  /-- The simulation ended: every proxy goes. -/
  | ended
  /-- A script is gone, and its proxies with it. -/
  | scriptDestroyed (script : ScriptId)
  /-- Anything else, which has no effect. -/
  | other (code : Int)
  deriving DecidableEq

/-- A step of a session, over a messaging layer with requests `κ`. -/
inductive Step (κ : Type) where
  /-- The scripting host gets an entry point. -/
  | addEntryPoint (callback : Callback)
  /-- Calls of a callback fail from now on. -/
  | failCalls (callback : Callback)
  /-- A script loses its entry points. -/
  | removeScript (script : ScriptId)
  | hasEntryPoint (callback : Callback)
  /-- The messages passed to the callbacks of a name. -/
  | payloadsFor (name : String)
  | clearCalls
  /-- A script calls a command. -/
  | command (script : ScriptId) (name : String) (arguments : List Value)
  | event (event : HostEvent)
  | unload
  | describe
  | createPublisher (script : ScriptId) (topic typeName : String) (options : AdvertiseOptions)
  | createSubscriber (callback : Callback) (topic typeName : String) (options : SubscribeOptions)
  | destroy (handle : Handle)
  | destroyKind (handle : Handle) (kind : ProxyKind)
  | destroyOwnedBy (script : ScriptId)
  | clear
  | shutdown
  | publish (handle : Handle) (payload : Bytes)
  | publishValue (handle : Handle) (value : Value)
  | lookupCallback (handle : Handle)
  | drain
  | size
  | contains (handle : Handle)
  | info (handle : Handle)
  | stats
  | typeNames
  /-- A payload comes in for a subscription, open or not. -/
  | stray (subscription : SubscriptionId) (payload : Bytes)
  /-- A request to the messaging layer. -/
  | layer (request : κ)

/-- The answer to a step, over a messaging layer with answers `ρ`. -/
inductive Answer (ρ : Type) where
  | done
  | nothing
  | flag (b : Bool)
  | count (n : Nat)
  | size (n : Nat)
  | text (s : String)
  | names (list : List String)
  | values (list : List Value)
  | handle (handle : Handle)
  | callback (callback : Callback)
  | info (info : ProxyInfo)
  | stats (stats : Stats)
  | report (report : DrainReport)
  | layer (answer : ρ)
  | failed (e : BridgeError)

/-- The answer to a step that may fail. -/
def Answer.ofExcept {α ρ : Type} (answer : α → Answer ρ) : Except BridgeError α → Answer ρ
  | .ok a => answer a
  | .error e => .failed e

end TopicBridge
