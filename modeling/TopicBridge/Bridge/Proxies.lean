import TopicBridge.Bridge.Basic

/-!
# Creating, using and destroying proxies

A proxy is created only if its type is known, its handle can be drawn and the
messaging layer agrees, in this order; a subscriber also needs a callback.
A creation that the messaging layer refuses gives the handle back.  A proxy
that is destroyed closes its publication or subscription.
-/

namespace TopicBridge.Bridge

variable {μ : Type} [Middleware μ]

/-- Open a publication on behalf of a script. -/
def createPublisher (bridge : Bridge μ) (owner : ScriptId) (topic typeName : String)
    (options : AdvertiseOptions) : Except BridgeError Handle × Bridge μ :=
  match bridge.types.lookup typeName with
  | .error e => (.error e, bridge)
  | .ok codec =>
      match bridge.table.reserve? with
      | none => (.error .handlesExhausted, bridge)
      | some (handle, generation, table) =>
          match Middleware.advertise bridge.middleware topic codec.typeName options with
          | .error e => (.error e, { bridge with table := table.abandon handle })
          | .ok (publication, middleware) =>
              let proxy := .publisher ⟨topic, codec.typeName, owner, codec, publication⟩
              let created := { bridge with middleware, table := table.commit handle ⟨generation, proxy⟩ }
              (.ok handle, created.count fun c => { c with created := c.created + 1 })

/-- A callback that a subscriber may have: it has a name, and its script has
it as an entry point if callbacks are checked early. -/
def acceptsCallback (bridge : Bridge μ) (hasEntryPoint : Callback → Bool) (callback : Callback) :
    Bool :=
  !callback.name.isEmpty && (!bridge.config.validateCallbacks || hasEntryPoint callback)

/-- Open a subscription whose messages go to a callback. -/
def createSubscriber (bridge : Bridge μ) (hasEntryPoint : Callback → Bool)
    (topic typeName : String) (callback : Callback) (options : SubscribeOptions) :
    Except BridgeError Handle × Bridge μ :=
  match bridge.types.lookup typeName with
  | .error e => (.error e, bridge)
  | .ok codec =>
      if !bridge.acceptsCallback hasEntryPoint callback then
        (.error (.invalidCallback callback.script callback.name), bridge)
      else match bridge.table.reserve? with
        | none => (.error .handlesExhausted, bridge)
        | some (handle, generation, table) =>
            match Middleware.subscribe bridge.middleware topic codec.typeName options with
            | .error e => (.error e, { bridge with table := table.abandon handle })
            | .ok (subscription, middleware) =>
                let proxy := .subscriber ⟨topic, codec.typeName, callback, subscription⟩
                let target : Target := ⟨handle, generation, codec⟩
                let created :=
                  { bridge with
                    middleware
                    table := table.commit handle ⟨generation, proxy⟩
                    targets := Dict.insert bridge.targets subscription target }
                (.ok handle, created.count fun c => { c with created := c.created + 1 })

/-- Close what a proxy has open in a messaging layer. -/
def close (middleware : μ) : Proxy → μ
  | .publisher publisher => Middleware.withdraw middleware publisher.publication
  | .subscriber subscriber => Middleware.cancel middleware subscriber.subscription

/-- Destroy the live proxy under a handle, if there is one. -/
def drop (bridge : Bridge μ) (handle : Handle) : Bridge μ :=
  match bridge.table.get? handle with
  | none => bridge
  | some entry =>
      let removed :=
        { bridge with
          table := bridge.table.remove handle
          middleware := close bridge.middleware entry.proxy }
      removed.count fun c => { c with destroyed := c.destroyed + 1 }

/-- Destroy the proxy under a handle. -/
def destroy (bridge : Bridge μ) (handle : Handle) : Except BridgeError Unit × Bridge μ :=
  match bridge.find handle with
  | .error e => (.error e, bridge)
  | .ok _ => (.ok (), bridge.drop handle)

/-- Destroy the proxy under a handle if it is of a kind. -/
def destroyKind (bridge : Bridge μ) (handle : Handle) (kind : ProxyKind) :
    Except BridgeError Unit × Bridge μ :=
  match bridge.find handle with
  | .error e => (.error e, bridge)
  | .ok entry =>
      if entry.proxy.kind = kind then (.ok (), bridge.drop handle)
      else (.error (.wrongKind handle kind entry.proxy.kind), bridge)

/-- Destroy the proxies under handles, in order. -/
def dropAll (bridge : Bridge μ) (handles : List Handle) : Bridge μ :=
  handles.foldl drop bridge

/-- Destroy the proxies of a script in ascending order of their handles, and
count them. -/
def destroyOwnedBy (bridge : Bridge μ) (script : ScriptId) : Nat × Bridge μ :=
  let owned := bridge.table.select fun proxy => proxy.owner = script
  (owned.length, bridge.dropAll owned)

/-- Destroy every proxy in ascending order of their handles, and count them. -/
def clear (bridge : Bridge μ) : Nat × Bridge μ :=
  (bridge.handles.length, bridge.dropAll bridge.handles)

/-- Drop every pending invocation. -/
def flush (bridge : Bridge μ) : Bridge μ :=
  { bridge with pending := .empty }.count fun c =>
    { c with discardedStale := c.discardedStale + bridge.pending.size }

/-- Destroy every proxy and drop every pending invocation. -/
def shutdown (bridge : Bridge μ) : Bridge μ :=
  bridge.clear.2.flush

/-- Shut down for good.  Messages that still come in have no effect. -/
def unload (bridge : Bridge μ) : Bridge μ :=
  { bridge.shutdown with isLoaded := false }

/-- Send a payload on the publication of a publisher. -/
def send (bridge : Bridge μ) (publisher : Publisher) (payload : Bytes) : Bridge μ :=
  let sent :=
    { bridge with
      middleware := Middleware.publish bridge.middleware publisher.publication payload }
  sent.count fun c => { c with published := c.published + 1 }

/-- Publish a payload as it is. -/
def publish (bridge : Bridge μ) (handle : Handle) (payload : Bytes) :
    Except BridgeError Unit × Bridge μ :=
  match bridge.findPublisher handle with
  | .error e => (.error e, bridge)
  | .ok publisher => (.ok (), bridge.send publisher payload)

/-- Write a value with the codec of the publisher, and publish it. -/
def publishValue (bridge : Bridge μ) (handle : Handle) (value : Value) :
    Except BridgeError Unit × Bridge μ :=
  match bridge.findPublisher handle with
  | .error e => (.error e, bridge)
  | .ok publisher =>
      match publisher.codec.encode value with
      | .error e => (.error (.unwritable e), bridge)
      | .ok payload => (.ok (), bridge.send publisher payload)

end TopicBridge.Bridge
