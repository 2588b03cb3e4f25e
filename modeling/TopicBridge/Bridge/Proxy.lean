import TopicBridge.Catalog.Basic
import TopicBridge.Middleware.Basic

/-!
# Proxies

A proxy is a live publisher or subscriber of a script.  Both kinds share one
space of handles.
-/

namespace TopicBridge

/-- A live publisher. -/
structure Publisher where
  topic : String
  /-- The full name of the message type. -/
  typeName : String
  /-- The script that advertised the topic. -/
  owner : ScriptId
  codec : Codec
  publication : PublicationId

/-- A live subscriber. -/
structure Subscriber where
  topic : String
  /-- The full name of the message type. -/
  typeName : String
  callback : Callback
  subscription : SubscriptionId

/-- A live proxy of either kind. -/
inductive Proxy where
  | publisher (publisher : Publisher)
  | subscriber (subscriber : Subscriber)

/-- What anyone may know about a live proxy. -/
structure ProxyInfo where
  handle : Handle
  kind : ProxyKind
  topic : String
  typeName : String
  owner : ScriptId
  callback : Option Callback
  deriving DecidableEq

namespace Proxy

/-- The kind of a proxy. -/
def kind : Proxy → ProxyKind
  | publisher _ => .publisher
  | subscriber _ => .subscriber

/-- The topic of a proxy. -/
def topic : Proxy → String
  | publisher p => p.topic
  | subscriber s => s.topic

/-- The full name of the message type of a proxy. -/
def typeName : Proxy → String
  | publisher p => p.typeName
  | subscriber s => s.typeName

/-- The script that a proxy belongs to: for a subscriber, the one that its
callback lives in. -/
def owner : Proxy → ScriptId
  | publisher p => p.owner
  | subscriber s => s.callback.script

/-- The callback of a subscriber. -/
def callback? : Proxy → Option Callback
  | publisher _ => none
  | subscriber s => some s.callback

/-- The description of a proxy under its handle. -/
def info (proxy : Proxy) (handle : Handle) : ProxyInfo :=
  ⟨handle, proxy.kind, proxy.topic, proxy.typeName, proxy.owner, proxy.callback?⟩

end Proxy

end TopicBridge
