import TopicBridge.Session.Host

/-!
# Running a session

A step acts on the bridge and on the scripting host, and then the bridge takes
in everything that the messaging layer can deliver.  The steps that a callback
takes are run the same way, inside the drain that called it.  Every reaction is
used up when it starts, so callbacks are nested at most as deep as there are
reactions left.
-/

namespace TopicBridge

/-- A bridge with the host that runs its scripts. -/
abbrev Session (μ κ ρ : Type) := Bridge μ × Host κ ρ

namespace Session

variable {μ κ ρ : Type} [SteeredMiddleware μ κ ρ]

/-- What a callback does after its call was recorded. -/
abbrev Reaction (μ κ ρ : Type) := Callback → Session μ κ ρ → Session μ κ ρ

/-- Pass an invocation to its callback. -/
def call (react : Reaction μ κ ρ) (invocation : Invocation) (session : Session μ κ ρ) :
    Except String Unit × Session μ κ ρ :=
  match session.2.call invocation.callback [invocation.payload] with
  | (.error reason, host) => (.error reason, session.1, host)
  | (.ok (), host) => (.ok (), react invocation.callback (session.1, host))

/-- Drain the queue of the bridge into the callbacks of the host. -/
def drain (react : Reaction μ κ ρ) (session : Session μ κ ρ) : DrainReport × Session μ κ ρ :=
  Bridge.drain (call react) session

/-- Act on an event of the simulator. -/
def onEvent (react : Reaction μ κ ρ) (session : Session μ κ ρ) :
    HostEvent → Answer ρ × Session μ κ ρ
  | .step =>
      let (report, session) := drain react session
      (.report report, session)
  | .ended => (.nothing, session.1.clear.2, session.2)
  | .scriptDestroyed script => (.nothing, (session.1.destroyOwnedBy script).2, session.2)
  | .other _ => (.nothing, session)

/-- Carry out a command call of a script, and tell the script if it fails. -/
def onCommand (session : Session μ κ ρ) (script : ScriptId) (name : String)
    (arguments : List Value) : Answer ρ × Session μ κ ρ :=
  match session.1.callCommand session.2.hasEntryPoint script name arguments with
  | (.ok values, bridge) => (.values values, bridge, session.2)
  | (.error e, bridge) => (.failed e, bridge, session.2.tellFailure name e.message)

/-- Take in a payload for a subscription that was opened at some time. -/
def onStray (session : Session μ κ ρ) (subscription : SubscriptionId) (payload : Bytes) :
    Answer ρ × Session μ κ ρ :=
  (.flag (Dict.contains session.1.targets subscription),
    session.1.deliver subscription payload, session.2)

/-- Send a request to the messaging layer, and take in what it delivers. -/
def onRequest (session : Session μ κ ρ) (request : κ) : Answer ρ × Session μ κ ρ :=
  let (answer, arrivals, middleware) := SteeredMiddleware.steer session.1.middleware request
  (.layer answer, { session.1 with middleware }.deliverAll arrivals, session.2)

/-- Act on a step. -/
def perform (react : Reaction μ κ ρ) (step : Step κ) (session : Session μ κ ρ) :
    Answer ρ × Session μ κ ρ :=
  let (bridge, host) := session
  match step with
  | .addEntryPoint callback =>
      (.done, bridge, { host with entryPoints := callback :: host.entryPoints })
  | .failCalls callback => (.done, bridge, { host with failing := callback :: host.failing })
  | .removeScript script =>
      let kept := host.entryPoints.filter fun callback => callback.script ≠ script
      (.done, bridge, { host with entryPoints := kept })
  | .hasEntryPoint callback => (.flag (host.hasEntryPoint callback), session)
  | .payloadsFor name => (.values (host.payloadsFor name), session)
  | .clearCalls => (.done, bridge, { host with calls := #[] })
  | .command script name arguments => onCommand session script name arguments
  | .event event => onEvent react session event
  | .unload => (.done, bridge.unload, host)
  | .describe => (.text bridge.describe, session)
  | .createPublisher script topic typeName options =>
      let (outcome, bridge) := bridge.createPublisher script topic typeName options
      (.ofExcept .handle outcome, bridge, host)
  | .createSubscriber callback topic typeName options =>
      let (outcome, bridge) :=
        bridge.createSubscriber host.hasEntryPoint topic typeName callback options
      (.ofExcept .handle outcome, bridge, host)
  | .destroy handle =>
      let (outcome, bridge) := bridge.destroy handle
      (.ofExcept (fun _ => .done) outcome, bridge, host)
  | .destroyKind handle kind =>
      let (outcome, bridge) := bridge.destroyKind handle kind
      (.ofExcept (fun _ => .done) outcome, bridge, host)
  | .destroyOwnedBy script =>
      let (count, bridge) := bridge.destroyOwnedBy script
      (.count count, bridge, host)
  | .clear =>
      let (count, bridge) := bridge.clear
      (.count count, bridge, host)
  | .shutdown => (.done, bridge.shutdown, host)
  | .publish handle payload =>
      let (outcome, bridge) := bridge.publish handle payload
      (.ofExcept (fun _ => .done) outcome, bridge, host)
  | .publishValue handle value =>
      let (outcome, bridge) := bridge.publishValue handle value
      (.ofExcept (fun _ => .done) outcome, bridge, host)
  | .lookupCallback handle => (.ofExcept .callback (bridge.lookupCallback handle), session)
  | .drain =>
      let (report, session) := drain react session
      (.report report, session)
  | .size => (.size bridge.size, session)
  | .contains handle => (.flag (bridge.contains handle), session)
  | .info handle => (.ofExcept .info (bridge.info handle), session)
  | .stats => (.stats bridge.stats, session)
  | .typeNames => (.names bridge.types.typeNames, session)
  | .stray subscription payload => onStray session subscription payload
  | .layer request => onRequest session request

/-- Act on a step, and take in everything that can be delivered after it. -/
def runStep (react : Reaction μ κ ρ) (session : Session μ κ ρ) (step : Step κ) :
    Answer ρ × Session μ κ ρ :=
  let (answer, bridge, host) := perform react step session
  (answer, bridge.settle, host)

/-- The reactions of callbacks nested up to a depth. -/
def reactWithin : (depth : Nat) → Reaction μ κ ρ
  | 0, _, session => session
  | depth + 1, callback, session =>
      match session.2.nextReaction? callback with
      | none => session
      | some (steps, host) =>
          steps.foldl (fun session step =>
              let (answer, bridge, host) := runStep (reactWithin depth) session step
              (bridge, host.answerNested answer))
            (session.1, host)

/-- Take a step of the session itself. -/
def advance (session : Session μ κ ρ) (step : Step κ) : Answer ρ × Session μ κ ρ :=
  runStep (reactWithin session.2.reactionsLeft) session step

end Session

end TopicBridge
