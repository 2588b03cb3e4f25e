import TopicBridge.Middleware.Basic

/-!
# The recorder

A messaging layer that records what it is asked to do and delivers a message
only on request.
-/

namespace TopicBridge

/-- A publication that was opened. -/
structure Recorder.Advertisement where
  topic : String
  typeName : String
  options : AdvertiseOptions
  deriving DecidableEq

/-- A subscription that was opened. -/
structure Recorder.Listener where
  topic : String
  options : SubscribeOptions
  isCancelled : Bool := false
  deriving DecidableEq

/-- What was recorded, oldest first. -/
structure Recorder where
  isUnavailable : Bool := false
  advertised : List Recorder.Advertisement := []
  published : List (String × Bytes) := []
  listeners : List Recorder.Listener := []
  deriving DecidableEq

namespace Recorder

/-- The error of a recorder that is switched off. -/
def offline : BridgeError :=
  .middlewareUnavailable "mock middleware offline"

/-- Record a publication. -/
def advertise (recorder : Recorder) (topic typeName : String) (options : AdvertiseOptions) :
    Except BridgeError (PublicationId × Recorder) :=
  if recorder.isUnavailable then .error offline
  else .ok (⟨recorder.advertised.length⟩,
    { recorder with advertised := recorder.advertised ++ [⟨topic, typeName, options⟩] })

/-- Record a subscription. -/
def subscribe (recorder : Recorder) (topic : String) (options : SubscribeOptions) :
    Except BridgeError (SubscriptionId × Recorder) :=
  if recorder.isUnavailable then .error offline
  else .ok (⟨recorder.listeners.length⟩,
    { recorder with listeners := recorder.listeners ++ [{ topic, options }] })

/-- Record a payload under the topic of its publication. -/
def publish (recorder : Recorder) (publication : PublicationId) (payload : Bytes) : Recorder :=
  match recorder.advertised[publication.number]? with
  | some advertisement =>
      { recorder with published := recorder.published ++ [(advertisement.topic, payload)] }
  | none => recorder

/-- Record that a subscription is cancelled. -/
def cancel (recorder : Recorder) (subscription : SubscriptionId) : Recorder :=
  let listeners := recorder.listeners.modify subscription.number fun listener =>
    { listener with isCancelled := true }
  { recorder with listeners }

/-- The subscription listens to a topic. -/
def Listener.listensTo (listener : Listener) (topic : String) : Bool :=
  listener.topic == topic && !listener.isCancelled

/-- The subscriptions that listen to a topic, in the order of opening. -/
def listening (recorder : Recorder) (topic : String) : List SubscriptionId :=
  recorder.listeners.zipIdx.filterMap fun (listener, number) =>
    if listener.listensTo topic then some ⟨number⟩ else none

/-- The payloads published on a topic. -/
def publishedOn (recorder : Recorder) (topic : String) : List Bytes :=
  recorder.published.filterMap fun (name, payload) => if name = topic then some payload else none

/-- The options of the latest subscription to a topic. -/
def latestOptions? (recorder : Recorder) (topic : String) : Option SubscribeOptions :=
  (recorder.listeners.reverse.find? fun listener => listener.topic = topic).map (·.options)

/-- The number of cancelled subscriptions. -/
def cancelledCount (recorder : Recorder) : Nat :=
  recorder.listeners.countP (·.isCancelled)

/-- The requests to a recorder. -/
inductive Request where
  /-- Hand a payload to every subscription that listens to a topic. -/
  | deliver (topic : String) (payload : Bytes)
  /-- Switch the recorder off or on. -/
  | setUnavailable (isUnavailable : Bool)
  | advertised
  | published
  | publishedOn (topic : String)
  | activeSubscriptions (topic : String)
  | subscribeOptions (topic : String)
  | cancelledCount

/-- The answers of a recorder. -/
inductive Answer where
  | done
  | count (n : Nat)
  | advertisements (list : List Advertisement)
  | traffic (list : List (String × Bytes))
  | payloads (list : List Bytes)
  | options (found : Option SubscribeOptions)

/-- Carry out a request. -/
def steer (recorder : Recorder) : Request → Answer × List Arrival × Recorder
  | .deliver topic payload =>
      let targets := recorder.listening topic
      (.count targets.length, targets.map fun id => (id, payload), recorder)
  | .setUnavailable isUnavailable => (.done, [], { recorder with isUnavailable })
  | .advertised => (.advertisements recorder.advertised, [], recorder)
  | .published => (.traffic recorder.published, [], recorder)
  | .publishedOn topic => (.payloads (recorder.publishedOn topic), [], recorder)
  | .activeSubscriptions topic => (.count (recorder.listening topic).length, [], recorder)
  | .subscribeOptions topic => (.options (recorder.latestOptions? topic), [], recorder)
  | .cancelledCount => (.count recorder.cancelledCount, [], recorder)

instance : SteeredMiddleware Recorder Request Answer where
  advertise := Recorder.advertise
  subscribe recorder topic _ := recorder.subscribe topic
  publish := Recorder.publish
  withdraw recorder _ := recorder
  cancel := Recorder.cancel
  arrivals recorder := ([], recorder)
  steer := Recorder.steer

end Recorder

end TopicBridge
