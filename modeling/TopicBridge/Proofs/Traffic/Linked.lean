import TopicBridge.Proofs.Bus.Readable
import TopicBridge.Proofs.Bus.Waiting
import TopicBridge.Proofs.Catalog.Registered
import TopicBridge.Proofs.World.Queue

/-!
# A bridge linked to a bus

A live publisher has an open publication, a live subscriber has an open
subscription, and each is bound to its topic under the type of its codec.  What
waits for a subscription can be read by its target, also after the subscription
was closed during a delivery, and what is sent on its channel is of the same type.
Since all codecs come from one catalog, the codec that wrote a message and the
codec that reads it are one codec.
-/

namespace TopicBridge

/-- What links a bridge to its messaging layer is as it was. -/
structure Bridge.SameLinks {μ : Type} (before after : Bridge μ) : Prop where
  types : after.types = before.types
  middleware : after.middleware = before.middleware
  targets : after.targets = before.targets
  isLoaded : after.isLoaded = before.isLoaded
  live : ∀ handle, after.table.get? handle = before.table.get? handle

namespace Bridge.SameLinks

variable {μ : Type} (bridge : Bridge μ)

theorem refl : bridge.SameLinks bridge :=
  ⟨rfl, rfl, rfl, rfl, fun _ => rfl⟩

theorem deliver (subscription : SubscriptionId) (payload : Bytes) :
    bridge.SameLinks (bridge.deliver subscription payload) := by
  have outcome := bridge.delivery subscription payload
  generalize bridge.deliver subscription payload = after at outcome ⊢
  cases outcome <;> exact ⟨rfl, rfl, rfl, rfl, fun _ => rfl⟩

theorem trans {bridge middle after : Bridge μ} (first : bridge.SameLinks middle)
    (second : middle.SameLinks after) : bridge.SameLinks after where
  types := second.types.trans first.types
  middleware := second.middleware.trans first.middleware
  targets := second.targets.trans first.targets
  isLoaded := second.isLoaded.trans first.isLoaded
  live := fun handle => (second.live handle).trans (first.live handle)

theorem deliverAll (arrivals : List Arrival) : bridge.SameLinks (bridge.deliverAll arrivals) := by
  induction arrivals generalizing bridge with
  | nil => exact refl bridge
  | cons arrival rest ih => exact (deliver bridge arrival.1 arrival.2).trans (ih _)

theorem takePending : bridge.SameLinks bridge.takePending.2 := by
  have found := bridge.taking
  generalize bridge.takePending = taken at found ⊢
  cases found <;> exact ⟨rfl, rfl, rfl, rfl, fun _ => rfl⟩

theorem finish (invocation : Invocation) (outcome : Except String Unit) :
    bridge.SameLinks (bridge.finish invocation outcome) := by
  cases outcome <;> exact ⟨rfl, rfl, rfl, rfl, fun _ => rfl⟩

theorem refuse {bridge after : Bridge μ} (refuses : bridge.Refuses after) :
    bridge.SameLinks after := by
  rcases refuses with rfl | ⟨_, _, _, rfl⟩ <;> exact ⟨rfl, rfl, rfl, rfl, fun _ => rfl⟩

end Bridge.SameLinks

namespace Bus

/-- A topic was there before, or it was opened with a channel of its own. -/
def TopicsLast (before after : Bus) : Prop :=
  ∀ (name : String) (later : Topic), Dict.get? after.topics name = some later →
    (∃ topic, Dict.get? before.topics name = some topic ∧ later.channel = topic.channel ∧
      later.typeName = topic.typeName) ∨
    before.channels.length ≤ later.channel.number

/-- Nothing is closed, and what is open stays where it is bound. -/
structure Grows (before after : Bus) : Prop where
  publications : ∀ {number : Nat} {publication : Publication},
    before.publications[number]? = some publication →
      after.publications[number]? = some publication
  subscriptions : ∀ {number : Nat} {subscription : Subscription},
    before.subscriptions[number]? = some subscription →
      ∃ later : Subscription, after.subscriptions[number]? = some later ∧
        later.isOpen = subscription.isOpen ∧ later.topic = subscription.topic
  typed : ∀ {name typeName : String}, before.topicType? name = some typeName →
    after.topicType? name = some typeName
  goesOn : after.goesOn = before.goesOn

/-- A topic keeps its type when it is found again. -/
theorem Binds.typed {bus : Bus} {name typeName : String} {topic : Topic}
    {channels : List Channel} (binds : bus.Binds name typeName topic channels) (changed : Topic)
    (same : changed.typeName = topic.typeName) {other another : String}
    (before : bus.topicType? other = some another) :
    (Dict.get? (Dict.insert bus.topics name changed) other).map (·.typeName) = some another := by
  rw [Dict.get?_insert]
  split
  · rename_i own
    subst own
    cases binds with
    | found found _ => simpa [topicType?, found, same] using before
    | opened absent _ _ => simp [topicType?, absent] at before
  · exact before

theorem topicType?_insert (topics : Dict String Topic) (name : String) (topic : Topic) :
    (Dict.get? (Dict.insert topics name topic) name).map (·.typeName) = some topic.typeName := by
  rw [Dict.get?_insert_self]
  rfl

namespace TopicsLast

variable {bus after : Bus}

theorem refl (bus : Bus) : bus.TopicsLast bus :=
  fun _ _ found => .inl ⟨_, found, rfl, rfl⟩

/-- A topic is found or opened. -/
theorem insert {name typeName : String} {topic changed : Topic} {channels : List Channel}
    (binds : bus.Binds name typeName topic channels) (remains : topic.Remains changed)
    (topics : after.topics = Dict.insert bus.topics name changed) : bus.TopicsLast after := by
  intro other later found
  rw [topics, Dict.get?_insert] at found
  split at found
  · rename_i own
    subst own
    cases found
    rw [remains.channel, remains.typeName]
    cases binds with
    | found there _ => exact .inl ⟨topic, there, rfl, rfl⟩
    | opened => exact .inr (Nat.le_refl _)
  · exact .inl ⟨later, found, rfl, rfl⟩

theorem remain (remaining : bus.Remaining after.topics) : bus.TopicsLast after := by
  intro name later found
  obtain ⟨before, there, remains⟩ := remaining found
  exact .inl ⟨before, there, remains.channel, remains.typeName⟩

theorem sent (bus : Bus) (id : PublicationId) (publication : Publication) (payload : Bytes) :
    bus.TopicsLast (bus.sent id publication payload) := by
  intro name later found
  rw [topics_sent] at found
  obtain ⟨before, there, rfl⟩ := Option.map_eq_some_iff.mp found
  refine .inl ⟨before, there, ?_⟩
  split <;> exact ⟨rfl, rfl⟩

/-- A topic with a channel of its own is on the channel of no subscription, so what is
sent to a subscription remains of one type. -/
theorem typed (topics : bus.TopicsLast after) (bound : bus.Bound) {subscription : Subscription}
    (member : subscription ∈ bus.subscriptions) {typeName : String}
    (typed : ∀ topic, Dict.get? bus.topics subscription.topic = some topic →
      topic.channel = subscription.channel → topic.typeName = typeName)
    {later : Topic} (there : Dict.get? after.topics subscription.topic = some later)
    (shared : later.channel = subscription.channel) : later.typeName = typeName := by
  rcases topics _ _ there with ⟨before, there, channel, sameType⟩ | new
  · exact sameType.trans (typed before there (channel.symm.trans shared))
  · have below := (bound.subscriptions subscription member).1
    rw [shared] at new
    exact absurd below (Nat.not_lt.mpr new)

end TopicsLast

namespace Grows

variable {bus : Bus}

theorem advertised {name typeName : String} {topic : Topic} {channels : List Channel}
    (binds : bus.Binds name typeName topic channels) (latch : Bool) :
    bus.Grows (bus.advertised name topic channels latch) where
  publications := by
    intro number publication found
    have there := (List.getElem?_eq_some_iff.mp found).1
    exact (List.getElem?_append_left there).trans found
  subscriptions := fun found => ⟨_, found, rfl, rfl⟩
  typed := binds.typed { topic with publishers := topic.publishers + 1 } rfl
  goesOn := rfl

theorem subscribed {name typeName : String} {topic : Topic} {channels : List Channel}
    (binds : bus.Binds name typeName topic channels) :
    bus.Grows (bus.subscribed name topic channels) where
  publications := fun found => found
  subscriptions := by
    intro number subscription found
    have there := (List.getElem?_eq_some_iff.mp found).1
    exact ⟨_, (List.getElem?_append_left there).trans found, rfl, rfl⟩
  typed := binds.typed { topic with subscribers := topic.subscribers + 1 } rfl
  goesOn := rfl

theorem sent (id : PublicationId) (publication : Publication) (payload : Bytes) :
    bus.Grows (bus.sent id publication payload) where
  publications := by
    intro number other found
    rwa [publications_sent]
  subscriptions := by
    intro number subscription found
    exact ⟨_, by rwa [subscriptions_sent], rfl, rfl⟩
  typed := by
    intro name typeName typed
    obtain ⟨topic, found, rfl⟩ := Option.map_eq_some_iff.mp typed
    rw [topicType?, topics_sent, found]
    dsimp only [Option.map_some]
    split <;> rfl
  goesOn := by
    unfold Bus.sent
    split <;> rfl

theorem moved {id : SubscriptionId} {subscription : Subscription} {lagged : Nat}
    {change : Subscription → Subscription}
    (found : bus.subscriptions[id.number]? = some subscription)
    (moves : bus.Moves subscription (change subscription)) :
    bus.Grows (bus.moved id lagged change) where
  publications := fun found => found
  subscriptions := by
    intro number other found'
    by_cases own : id.number = number
    · subst own
      cases found.symm.trans found'
      exact ⟨change subscription, by simp [Bus.moved, found], moves.isOpen, moves.topic⟩
    · exact ⟨other, by simp [Bus.moved, own, found'], rfl, rfl⟩
  typed := fun typed => typed
  goesOn := rfl

end Grows

end Bus

/-! ## The links -/

/-- A publisher has an open publication on its topic, which carries messages of
its type. -/
def Publisher.IsBound (bus : Bus) (publisher : Publisher) : Prop :=
  bus.topicType? publisher.topic = some publisher.codec.typeName ∧
    ∃ publication, bus.publications[publisher.publication.number]? = some publication ∧
      publication.isOpen = true ∧ publication.topic = publisher.topic

/-- A subscriber has an open subscription to its topic, whose messages go to a
target. -/
def Subscriber.IsBound (bus : Bus) (targets : Dict SubscriptionId Target)
    (subscriber : Subscriber) (target : Target) : Prop :=
  Dict.get? targets subscriber.subscription = some target ∧
    ∃ subscription, bus.subscriptions[subscriber.subscription.number]? = some subscription ∧
      subscription.isOpen = true ∧ subscription.topic = subscriber.topic

/-- A target belongs to a subscription.  It reads what waits for the subscription, and
also what is going to be sent on the channel of the subscription. -/
def Target.IsBound (types : Catalog) (bus : Bus) (id : SubscriptionId) (target : Target) : Prop :=
  ∃ subscription, bus.subscriptions[id.number]? = some subscription ∧
    (∀ topic, Dict.get? bus.topics subscription.topic = some topic →
      topic.channel = subscription.channel → topic.typeName = target.codec.typeName) ∧
    ∀ payload ∈ bus.outstanding subscription, types.Reads target.codec.typeName payload

namespace Target.IsBound

variable {types : Catalog} {bus after : Bus} {id : SubscriptionId} {target : Target}

/-- A target stays bound as long as nothing comes to wait for its subscription. -/
theorem dwindle (isBound : target.IsBound types bus id) (bound : bus.Bound)
    (topics : bus.TopicsLast after)
    (dwindles : ∀ {subscription}, bus.subscriptions[id.number]? = some subscription →
      ∃ later, after.subscriptions[id.number]? = some later ∧
        bus.Dwindles after subscription later) : target.IsBound types after id := by
  obtain ⟨subscription, found, typed, reads⟩ := isBound
  obtain ⟨later, found', dwindles⟩ := dwindles found
  refine ⟨later, found', fun topic there shared => ?_,
    fun payload waits => reads payload (dwindles.fewer.subset waits)⟩
  rw [dwindles.topic] at there
  rw [dwindles.channel] at shared
  exact topics.typed bound (List.mem_of_getElem? found) typed there shared

/-- A subscription is opened for the target, and gets what was left with its topic. -/
theorem subscribed {name typeName : String} {topic : Bus.Topic} {channels : List Channel}
    (binds : bus.Binds name typeName topic channels)
    (readable : Bus.Readable types.Reads bus.topics) (same : target.codec.typeName = typeName) :
    target.IsBound types (bus.subscribed name topic channels) ⟨bus.subscriptions.length⟩ := by
  have found : (bus.subscribed name topic channels).subscriptions[
      (⟨bus.subscriptions.length⟩ : SubscriptionId).number]? = some _ :=
    List.getElem?_concat_length
  have waiting := (Bus.waiting_of_some found).symm.trans
    (bus.waiting_subscribed name topic channels)
  refine ⟨_, found, fun after there _ => ?_, fun payload waits => ?_⟩
  · cases (Dict.get?_insert_self _ _ _).symm.trans there
    exact binds.typeName_eq.trans same.symm
  · rw [waiting, Option.mem_toList, Option.map_eq_some_iff] at waits
    obtain ⟨⟨owner, _⟩, left, rfl⟩ := waits
    rw [same, ← binds.typeName_eq]
    exact binds.legible readable left

/-- A message of the type of an open publication is sent on it. -/
theorem sent (isBound : target.IsBound types bus id) (bound : bus.Bound)
    (publicationId : PublicationId) {publication : Bus.Publication}
    (member : publication ∈ bus.publications) (isOpen : publication.isOpen = true)
    {typeName : String} (typed : bus.topicType? publication.topic = some typeName)
    {payload : Bytes} (legible : types.Reads typeName payload) :
    target.IsBound types (bus.sent publicationId publication payload) id := by
  obtain ⟨subscription, found, same, reads⟩ := isBound
  have member' := List.mem_of_getElem? found
  refine ⟨subscription, by rwa [Bus.subscriptions_sent], fun topic there shared => ?_,
    fun other waits => ?_⟩
  · exact (Bus.TopicsLast.sent bus publicationId publication payload).typed bound member' same
      there shared
  · have added := Bus.outstanding_sent bound publicationId publication payload member'
    by_cases shared : publication.channel = subscription.channel
    · rw [if_pos shared] at added
      rcases List.mem_append.mp (added.1.subset waits) with before | last
      · exact reads other before
      · -- the publication is on the topic of the subscription
        obtain ⟨topic, there, uses⟩ := bound.publication_topic member isOpen
        rw [Bus.topicType?, there] at typed
        rw [bound.topic_eq member isOpen member' shared] at there
        cases List.mem_singleton.mp last
        cases typed
        rwa [← same topic there (uses.trans shared)]
    · rw [if_neg shared] at added
      rw [added] at waits
      exact reads other waits

end Target.IsBound

/-- A bridge with codecs from a catalog is linked to its bus. -/
structure Linked (types : Catalog) (bridge : Bridge Bus) : Prop where
  catalog : bridge.types = types
  bound : bridge.middleware.Bound
  goesOn : bridge.middleware.goesOn = true
  readable : Bus.Readable types.Reads bridge.middleware.topics
  publisher : ∀ {handle generation publisher},
    bridge.table.get? handle = some ⟨generation, .publisher publisher⟩ →
      types.Knows publisher.codec ∧ publisher.IsBound bridge.middleware
  /-- No two publishers share a publication. -/
  apart : ∀ {handle other generation drawn publisher another},
    bridge.table.get? handle = some ⟨generation, .publisher publisher⟩ →
    bridge.table.get? other = some ⟨drawn, .publisher another⟩ →
    publisher.publication = another.publication → handle = other
  subscriber : ∀ {handle generation subscriber},
    bridge.table.get? handle = some ⟨generation, .subscriber subscriber⟩ →
      ∃ codec, subscriber.IsBound bridge.middleware bridge.targets ⟨handle, generation, codec⟩
  target : ∀ {id target}, Dict.get? bridge.targets id = some target →
    types.Knows target.codec ∧ target.IsBound types bridge.middleware id
  unloaded : bridge.isLoaded = false → ∀ handle, bridge.table.get? handle = none

namespace Linked

variable {types : Catalog} {bridge after : Bridge Bus}

/-- A new bridge has nothing to link. -/
theorem fresh (types : Catalog) (config : BridgeConfig) (options : BusConfig) :
    Linked types { types, config, middleware := ({ config := options } : Bus) } where
  catalog := rfl
  bound := Bus.Bound.fresh options
  goesOn := rfl
  readable := Bus.Readable.fresh
  publisher := fun found => nomatch found
  apart := fun found => nomatch found
  subscriber := fun found => nomatch found
  target := fun found => nomatch found
  unloaded := fun _ _ => rfl

/-- The links depend only on the layer, the targets and the live proxies. -/
theorem of_same (linked : Linked types bridge) (same : bridge.SameLinks after) :
    Linked types after where
  catalog := same.types.trans linked.catalog
  bound := same.middleware ▸ linked.bound
  goesOn := same.middleware ▸ linked.goesOn
  readable := same.middleware ▸ linked.readable
  publisher := by
    intro handle generation publisher live
    rw [same.live] at live
    rw [same.middleware]
    exact linked.publisher live
  apart := by
    intro handle other generation drawn publisher another live live'
    rw [same.live] at live live'
    exact linked.apart live live'
  subscriber := by
    intro handle generation subscriber live
    rw [same.live] at live
    rw [same.middleware, same.targets]
    exact linked.subscriber live
  target := by
    intro id target found
    rw [same.targets] at found
    rw [same.middleware]
    exact linked.target found
  unloaded := by
    intro unloaded handle
    rw [same.isLoaded] at unloaded
    rw [same.live]
    exact linked.unloaded unloaded handle

/-- The bus goes on without closing anything. -/
theorem extend (linked : Linked types bridge) {bus : Bus} (grows : bridge.middleware.Grows bus)
    (bound : bus.Bound) (readable : Bus.Readable types.Reads bus.topics)
    (targets : ∀ {id} {target : Target}, target.IsBound types bridge.middleware id →
      target.IsBound types bus id) :
    Linked types { bridge with middleware := bus } where
  catalog := linked.catalog
  bound := bound
  goesOn := grows.goesOn.trans linked.goesOn
  readable := readable
  publisher := by
    intro handle generation publisher live
    obtain ⟨knows, typed, publication, found, isOpen, topic⟩ := linked.publisher live
    exact ⟨knows, grows.typed typed, publication, grows.publications found, isOpen, topic⟩
  apart := linked.apart
  subscriber := by
    intro handle generation subscriber live
    obtain ⟨codec, targeted, subscription, found, isOpen, topic⟩ := linked.subscriber live
    obtain ⟨later, found, sameOpen, sameTopic⟩ := grows.subscriptions found
    exact ⟨codec, targeted, later, found, sameOpen.trans isOpen, sameTopic.trans topic⟩
  target := fun found => (linked.target found).imp_right targets
  unloaded := linked.unloaded

/-- The topic of a subscription that is open has the type that its target reads. -/
theorem typed_of_open (linked : Linked types bridge) {id : SubscriptionId} {target : Target}
    (targeted : Dict.get? bridge.targets id = some target) {subscription : Bus.Subscription}
    (found : bridge.middleware.subscriptions[id.number]? = some subscription)
    (isOpen : subscription.isOpen = true) :
    bridge.middleware.topicType? subscription.topic = some target.codec.typeName := by
  obtain ⟨_, own, there, typed, _⟩ := linked.target targeted
  cases found.symm.trans there
  obtain ⟨topic, held, uses⟩ :=
    linked.bound.subscription_topic (List.mem_of_getElem? found) isOpen
  rw [Bus.topicType?, held, Option.map_some, typed topic held uses]

end Linked

end TopicBridge
