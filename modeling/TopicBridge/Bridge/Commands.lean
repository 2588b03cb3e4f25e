import TopicBridge.Bridge.Proxies
import TopicBridge.Script.Command

/-!
# Carrying out script commands
-/

namespace TopicBridge.Bridge

variable {μ : Type} [Middleware μ]

/-- The value that a script gets for a new handle. -/
def handleValue (handle : Handle) : Value :=
  .int (Int64.ofNat handle.index)

/-- Carry out a command of a script, and give the values that it returns. -/
def execute (bridge : Bridge μ) (hasEntryPoint : Callback → Bool) (caller : ScriptId) :
    Command → Except BridgeError (List Value) × Bridge μ
  | .advertise topic typeName options =>
      let (outcome, bridge) := bridge.createPublisher caller topic typeName options
      (outcome.map fun handle => [handleValue handle], bridge)
  | .subscribe topic typeName callback options =>
      let (outcome, bridge) :=
        bridge.createSubscriber hasEntryPoint topic typeName ⟨caller, callback⟩ options
      (outcome.map fun handle => [handleValue handle], bridge)
  | .publish handle message =>
      let (outcome, bridge) := bridge.publishValue handle message
      (outcome.map fun _ => [], bridge)
  | .shutdownPublisher handle =>
      let (outcome, bridge) := bridge.destroyKind handle .publisher
      (outcome.map fun _ => [], bridge)
  | .shutdownSubscriber handle =>
      let (outcome, bridge) := bridge.destroyKind handle .subscriber
      (outcome.map fun _ => [], bridge)

/-- Read a command call of a script and carry it out. -/
def callCommand (bridge : Bridge μ) (hasEntryPoint : Callback → Bool) (caller : ScriptId)
    (name : String) (arguments : List Value) : Except BridgeError (List Value) × Bridge μ :=
  match Command.parse name arguments bridge.config with
  | .error e => (.error e, bridge)
  | .ok command => bridge.execute hasEntryPoint caller command

end TopicBridge.Bridge
