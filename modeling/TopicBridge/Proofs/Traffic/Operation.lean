import TopicBridge.Proofs.Traffic.Linked
import TopicBridge.Proofs.World.Table

/-!
# Operations on a bridge that is linked to a bus

Every operation leaves the bridge linked, and what it sends comes after
everything that waits for a subscription to the topic.  A payload that is sent
was written by the codec of a publisher whose topic carries messages of its
type.
-/

namespace TopicBridge

/-- What the operation publishes is written by a codec. -/
def Operation.isTyped : Operation → Bool
  | .publish _ _ => false
  | _ => true

/-- The payloads that an operation sends on a topic. -/
def Bridge.sends {μ : Type} (bridge : Bridge μ) (operation : Operation) (topic : String) :
    List Bytes :=
  match operation with
  | .publish handle payload =>
      match bridge.findPublisher handle with
      | .ok publisher => if publisher.topic = topic then [payload] else []
      | .error _ => []
  | .publishValue handle value =>
      match bridge.findPublisher handle with
      | .ok publisher =>
          match publisher.codec.encode value with
          | .ok payload => if publisher.topic = topic then [payload] else []
          | .error _ => []
      | .error _ => []
  | _ => []

theorem Bridge.get?_of_findPublisher {μ : Type} {bridge : Bridge μ} {handle : Handle}
    {publisher : Publisher} (found : bridge.findPublisher handle = .ok publisher) :
    ∃ generation, bridge.table.get? handle = some ⟨generation, .publisher publisher⟩ := by
  unfold findPublisher find at found
  cases live : bridge.table.get? handle with
  | none =>
      rw [live] at found
      cases found
  | some entry =>
      obtain ⟨generation, proxy⟩ := entry
      rw [live] at found
      cases proxy with
      | publisher other =>
          cases found
          exact ⟨generation, rfl⟩
      | subscriber other => cases found

namespace Linked

variable {types : Catalog} {bridge : Bridge Bus}

/-- A publication that is opened next is not one that a publisher has. -/
theorem publication_ne (linked : Linked types bridge) {handle : Handle} {generation : Nat}
    {publisher : Publisher}
    (live : bridge.table.get? handle = some ⟨generation, .publisher publisher⟩) :
    publisher.publication ≠ ⟨bridge.middleware.publications.length⟩ := by
  obtain ⟨_, _, _, there, _⟩ := linked.publisher live
  intro same
  have below := (List.getElem?_eq_some_iff.mp there).1
  rw [same] at below
  exact Nat.lt_irrefl _ below

/-- A subscription that is opened next is not one that a subscriber has. -/
theorem subscription_ne (linked : Linked types bridge) {handle : Handle} {generation : Nat}
    {subscriber : Subscriber}
    (live : bridge.table.get? handle = some ⟨generation, .subscriber subscriber⟩) :
    subscriber.subscription ≠ ⟨bridge.middleware.subscriptions.length⟩ := by
  obtain ⟨_, _, _, there, _⟩ := linked.subscriber live
  intro same
  have below := (List.getElem?_eq_some_iff.mp there).1
  rw [same] at below
  exact Nat.lt_irrefl _ below

/-- A publisher is opened on a bridge that is loaded. -/
theorem openedPublisher (linked : Linked types bridge) (loaded : bridge.isLoaded = true)
    {topic : String} {options : AdvertiseOptions} {codec : Codec} {publication : PublicationId}
    {bus : Bus} (knows : types.Knows codec)
    (advertised : Middleware.advertise bridge.middleware topic codec.typeName options =
      .ok (publication, bus)) (handle : Handle) (allocator : Allocator) (owner : ScriptId) :
    bridge.middleware.Keeps bus ∧
      Linked types (bridge.opened handle allocator bus
        (.publisher ⟨topic, codec.typeName, owner, codec, publication⟩) bridge.targets) := by
  obtain ⟨rfl, found, channels, binds, rfl⟩ := Bus.advertise_eq_ok advertised
  have counts : found.Remains { found with publishers := found.publishers + 1 } :=
    ⟨rfl, rfl, fun left => left⟩
  have keeps := Bus.Keeps.advertised linked.bound binds options.latch
  have grown := linked.extend (.advertised binds options.latch)
    (linked.bound.advertised binds options.latch) (linked.readable.insert binds counts)
    fun isBound => isBound.dwindle linked.bound (.insert binds counts rfl) keeps.dwindles
  refine ⟨keeps, ?_⟩
  refine ⟨linked.catalog, grown.bound, grown.goesOn, grown.readable, ?_, ?_, ?_, grown.target, ?_⟩
  · intro other generation publisher live
    rw [Bridge.get?_opened] at live
    split at live
    · cases live
      have typed := Bus.topicType?_insert bridge.middleware.topics topic
        { found with publishers := found.publishers + 1 }
      have opened : (bridge.middleware.advertised topic found channels options.latch).publications[
          bridge.middleware.publications.length]? = some ⟨topic, found.channel, options.latch, true⟩ :=
        List.getElem?_concat_length
      exact ⟨knows, typed.trans (congrArg some binds.typeName_eq), _, opened, rfl, rfl⟩
    · exact grown.publisher live
  · intro one other generation drawn publisher another live live' same
    rw [Bridge.get?_opened] at live live'
    split at live
    · rename_i isOne
      split at live'
      · rename_i isOther
        exact isOne.symm.trans isOther
      · cases live
        exact absurd same.symm (linked.publication_ne live')
    · split at live'
      · cases live'
        exact absurd same (linked.publication_ne live)
      · exact linked.apart live live' same
  · intro other generation subscriber live
    rw [Bridge.get?_opened] at live
    split at live
    · cases live
    · exact grown.subscriber live
  · intro unloaded
    cases loaded.symm.trans unloaded

/-- A subscriber is opened on a bridge that is loaded. -/
theorem openedSubscriber (linked : Linked types bridge) (loaded : bridge.isLoaded = true)
    {topic : String} {options : SubscribeOptions} {codec : Codec} {subscription : SubscriptionId}
    {bus : Bus} (knows : types.Knows codec)
    (subscribed : Middleware.subscribe bridge.middleware topic codec.typeName options =
      .ok (subscription, bus)) (handle : Handle) (allocator : Allocator) (callback : Callback) :
    bridge.middleware.Keeps bus ∧
      Linked types (bridge.opened handle allocator bus
        (.subscriber ⟨topic, codec.typeName, callback, subscription⟩)
        (Dict.insert bridge.targets subscription
          ⟨handle, bridge.table.nextGeneration, codec⟩)) := by
  obtain ⟨rfl, found, channels, binds, rfl⟩ := Bus.subscribe_eq_ok subscribed
  have counts : found.Remains { found with subscribers := found.subscribers + 1 } :=
    ⟨rfl, rfl, fun left => left⟩
  have keeps := Bus.Keeps.subscribed linked.bound binds
  have grown := linked.extend (.subscribed binds) (linked.bound.subscribed binds)
    (linked.readable.insert binds counts)
    fun isBound => isBound.dwindle linked.bound (.insert binds counts rfl) keeps.dwindles
  have opened : ∃ subscription : Bus.Subscription,
      (bridge.middleware.subscribed topic found channels).subscriptions[
        bridge.middleware.subscriptions.length]? = some subscription ∧
        subscription.isOpen = true ∧ subscription.topic = topic :=
    ⟨_, List.getElem?_concat_length, rfl, rfl⟩
  refine ⟨keeps, linked.catalog, grown.bound, grown.goesOn, grown.readable, ?_, ?_, ?_, ?_, ?_⟩
  · intro other generation publisher live
    rw [Bridge.get?_opened] at live
    split at live
    · cases live
    · exact grown.publisher live
  · intro one other generation drawn publisher another live live' same
    rw [Bridge.get?_opened] at live live'
    split at live
    · cases live
    · split at live'
      · cases live'
      · exact linked.apart live live' same
  · intro other generation subscriber live
    rw [Bridge.get?_opened] at live
    split at live
    · rename_i own
      subst own
      cases live
      exact ⟨codec, Dict.get?_insert_self _ _ _, opened⟩
    · obtain ⟨reader, targeted, bound⟩ := grown.subscriber live
      refine ⟨reader, ?_, bound⟩
      have new := (linked.subscription_ne live).symm
      exact (Dict.get?_insert _ _ _ _).trans ((if_neg new).trans targeted)
  · intro id target targeted
    change Dict.get? (Dict.insert _ _ _) _ = _ at targeted
    rw [Dict.get?_insert] at targeted
    split at targeted
    · rename_i own
      subst own
      cases targeted
      exact ⟨knows, .subscribed binds linked.readable rfl⟩
    · exact grown.target targeted
  · intro unloaded
    cases loaded.symm.trans unloaded

/-- A topic that is used still has the type that it had. -/
theorem typed_of_used {bus : Bus} {topics : Dict String Bus.Topic} (remaining : bus.Remaining topics)
    {name typeName : String} {topic : Bus.Topic} (used : Dict.get? topics name = some topic)
    (typed : bus.topicType? name = some typeName) :
    (Dict.get? topics name).map (·.typeName) = some typeName := by
  obtain ⟨before, found, remains⟩ := remaining used
  rw [Bus.topicType?, found] at typed
  rw [used, Option.map_some, remains.typeName]
  exact typed

theorem live_of_drop {handle other : Handle} {entry : Entry}
    (live : (bridge.drop handle).table.get? other = some entry) :
    handle ≠ other ∧ bridge.table.get? other = some entry := by
  rw [Bridge.get?_drop] at live
  split at live
  · cases live
  · rename_i apart
    exact ⟨apart, live⟩

/-- A bridge stays linked when a proxy is dropped, provided that what the other
ones have open stays open. -/
theorem drop_of_closed (linked : Linked types bridge) (handle : Handle)
    (bound : (bridge.drop handle).middleware.Bound)
    (goesOn : (bridge.drop handle).middleware.goesOn = bridge.middleware.goesOn)
    (remaining : bridge.middleware.Remaining (bridge.drop handle).middleware.topics)
    (publications : ∀ {other generation publisher publication}, handle ≠ other →
      bridge.table.get? other = some ⟨generation, .publisher publisher⟩ →
      bridge.middleware.publications[publisher.publication.number]? = some publication →
        (bridge.drop handle).middleware.publications[publisher.publication.number]? =
          some publication)
    (subscriptions : ∀ {other generation subscriber subscription}, handle ≠ other →
      bridge.table.get? other = some ⟨generation, .subscriber subscriber⟩ →
      bridge.middleware.subscriptions[subscriber.subscription.number]? = some subscription →
        (bridge.drop handle).middleware.subscriptions[subscriber.subscription.number]? =
          some subscription)
    (keeps : bridge.middleware.Keeps (bridge.drop handle).middleware) :
    Linked types (bridge.drop handle) where
  catalog := (bridge.types_drop handle).trans linked.catalog
  bound := bound
  goesOn := goesOn.trans linked.goesOn
  readable := linked.readable.remain remaining
  publisher := by
    intro other generation publisher now
    obtain ⟨apart, live⟩ := live_of_drop now
    obtain ⟨knows, typed, publication, there, isOpen, topic⟩ := linked.publisher live
    have there := publications apart live there
    obtain ⟨_, used, _⟩ := bound.publication_topic (List.mem_of_getElem? there) isOpen
    exact ⟨knows, typed_of_used remaining (topic ▸ used) typed, publication, there, isOpen, topic⟩
  apart := fun now now' => linked.apart (live_of_drop now).2 (live_of_drop now').2
  subscriber := by
    intro other generation subscriber now
    obtain ⟨apart, live⟩ := live_of_drop now
    obtain ⟨codec, targeted, subscription, there, isOpen, topic⟩ := linked.subscriber live
    refine ⟨codec, ?_, subscription, subscriptions apart live there, isOpen, topic⟩
    rwa [bridge.targets_drop]
  target := by
    intro id target found
    rw [bridge.targets_drop] at found
    exact (linked.target found).imp_right fun isBound =>
      isBound.dwindle linked.bound (.remain remaining) keeps.dwindles
  unloaded := by
    intro unloaded other
    rw [bridge.isLoaded_drop] at unloaded
    rw [Bridge.get?_drop, linked.unloaded unloaded, ite_self]

/-- A publisher is closed. -/
theorem dropPublisher (linked : Linked types bridge) {handle : Handle} {generation : Nat}
    {publisher : Publisher}
    (found : bridge.table.get? handle = some ⟨generation, .publisher publisher⟩) :
    bridge.middleware.Keeps (bridge.drop handle).middleware ∧
      Linked types (bridge.drop handle) := by
  obtain ⟨_, _, publication, there, isOpen, _⟩ := linked.publisher found
  have dropped : (bridge.drop handle).middleware =
      bridge.middleware.withdraw publisher.publication := Bridge.middleware_drop found
  have keeps : bridge.middleware.Keeps (bridge.drop handle).middleware :=
    dropped ▸ Bus.Keeps.withdraw linked.bound there isOpen
  have goesOn := bridge.middleware.goesOn_withdraw publisher.publication
  obtain ⟨topics, remaining, closed, bound⟩ := linked.bound.withdraw there isOpen
  refine ⟨keeps,
    linked.drop_of_closed handle (dropped ▸ bound) (dropped ▸ goesOn) ?_ ?_ ?_ keeps⟩
  · rw [dropped, closed]
    exact remaining
  · intro other drawn another publication' apart live there'
    have elsewhere := PublicationId.number_ne fun same => apart (linked.apart found live same)
    rw [dropped, closed]
    simp [elsewhere, there']
  · intro other drawn another subscription _ live there'
    rw [dropped, closed]
    exact there'

/-- A subscriber is closed. -/
theorem dropSubscriber (linked : Linked types bridge) {handle : Handle} {generation : Nat}
    {subscriber : Subscriber}
    (found : bridge.table.get? handle = some ⟨generation, .subscriber subscriber⟩) :
    bridge.middleware.Keeps (bridge.drop handle).middleware ∧
      Linked types (bridge.drop handle) := by
  obtain ⟨codec, targeted, subscription, there, isOpen, _⟩ := linked.subscriber found
  have dropped : (bridge.drop handle).middleware =
      bridge.middleware.cancel subscriber.subscription := Bridge.middleware_drop found
  have keeps : bridge.middleware.Keeps (bridge.drop handle).middleware :=
    dropped ▸ Bus.Keeps.cancel linked.bound there isOpen
  have goesOn := bridge.middleware.goesOn_cancel subscriber.subscription
  obtain ⟨topics, remaining, closed, bound⟩ := linked.bound.cancel there isOpen
  refine ⟨keeps,
    linked.drop_of_closed handle (dropped ▸ bound) (dropped ▸ goesOn) ?_ ?_ ?_ keeps⟩
  · rw [dropped, closed]
    exact remaining
  · intro other drawn another publication _ live there'
    rw [dropped, closed]
    exact there'
  · intro other drawn another subscription' apart live there'
    -- two subscribers with one subscription would share its target
    have elsewhere : subscriber.subscription.number ≠ another.subscription.number := by
      apply SubscriptionId.number_ne
      intro same
      obtain ⟨codec', targeted', _⟩ := linked.subscriber live
      rw [same, targeted'] at targeted
      exact apart (congrArg Target.handle (Option.some.inj targeted)).symm
    rw [dropped, closed]
    simp [elsewhere, there']

/-- The proxy under a handle is closed. -/
theorem drop (linked : Linked types bridge) (handle : Handle) :
    bridge.middleware.Keeps (bridge.drop handle).middleware ∧
      Linked types (bridge.drop handle) := by
  cases found : bridge.table.get? handle with
  | none =>
      rw [Bridge.drop, found]
      exact ⟨.refl _, linked⟩
  | some entry =>
      obtain ⟨generation, proxy⟩ := entry
      cases proxy with
      | publisher publisher => exact linked.dropPublisher found
      | subscriber subscriber => exact linked.dropSubscriber found

/-- Several proxies are closed. -/
theorem dropAll (linked : Linked types bridge) (handles : List Handle) :
    bridge.middleware.Keeps (bridge.dropAll handles).middleware ∧
      Linked types (bridge.dropAll handles) := by
  refine Bridge.dropAll_induction
    (fun after => bridge.middleware.Keeps after.middleware ∧ Linked types after)
    (fun handle before => ?_) ⟨.refl _, linked⟩ handles
  obtain ⟨keeps, linked⟩ := before
  obtain ⟨further, dropped⟩ := linked.drop handle
  exact ⟨keeps.trans further, dropped⟩

/-- No proxy is live once every one of them was closed, and then the bridge may
be unloaded. -/
theorem unload (linked : Linked types bridge) :
    bridge.middleware.Keeps bridge.unload.middleware ∧ Linked types bridge.unload := by
  obtain ⟨keeps, after⟩ := linked.dropAll bridge.handles
  exact ⟨keeps, { after with unloaded := fun _ handle => bridge.get?_dropAll_handles handle }⟩

/-- A publisher sends what its codec has written. -/
theorem send (linked : Linked types bridge) (registered : types.Registered) {handle : Handle}
    {publisher : Publisher} (found : bridge.findPublisher handle = .ok publisher) {value : Value}
    {payload : Bytes} (encoded : publisher.codec.encode value = .ok payload) :
    (bridge.middleware.Carries (bridge.send publisher payload).middleware fun topic =>
        if publisher.topic = topic then [payload] else []) ∧
      Linked types (bridge.send publisher payload) := by
  obtain ⟨generation, live⟩ := Bridge.get?_of_findPublisher found
  obtain ⟨knows, typed, publication, there, isOpen, topic⟩ := linked.publisher live
  have member := List.mem_of_getElem? there
  have reads := registered.reads_of_encode knows encoded
  have sent : (bridge.send publisher payload).middleware =
      bridge.middleware.sent publisher.publication publication payload :=
    Bus.publish_of_open there isOpen payload
  have carries := linked.bound.carries_sent publisher.publication member isOpen payload
  rw [topic] at carries
  rw [← topic] at typed
  refine ⟨sent ▸ carries, ?_⟩
  have after := linked.extend (.sent publisher.publication publication payload)
    (linked.bound.sent publisher.publication publication payload)
    (linked.readable.sent publisher.publication typed reads)
    fun isBound => isBound.sent linked.bound publisher.publication member isOpen typed reads
  exact after.of_same ⟨rfl, sent, rfl, rfl, fun _ => rfl⟩

/-- A value that is published is sent as its publisher writes it, if there is a
publisher and it can write it. -/
theorem publishValue (linked : Linked types bridge) (registered : types.Registered)
    (handle : Handle) (value : Value) :
    (bridge.middleware.Carries (bridge.publishValue handle value).2.middleware
        (bridge.sends (.publishValue handle value))) ∧
      Linked types (bridge.publishValue handle value).2 := by
  have quiet := (Bus.Keeps.refl bridge.middleware).carries
  cases found : bridge.findPublisher handle with
  | error e =>
      have sends : bridge.sends (.publishValue handle value) = fun _ => [] := by
        funext topic
        simp only [Bridge.sends, found]
      rw [sends, Bridge.publishValue, found]
      exact ⟨quiet, linked⟩
  | ok publisher =>
      cases encoded : publisher.codec.encode value with
      | error e =>
          have sends : bridge.sends (.publishValue handle value) = fun _ => [] := by
            funext topic
            simp only [Bridge.sends, found, encoded]
          rw [sends, Bridge.publishValue, found]
          simp only [encoded]
          exact ⟨quiet, linked⟩
      | ok payload =>
          have sends : bridge.sends (.publishValue handle value) =
              fun topic => if publisher.topic = topic then [payload] else [] := by
            funext topic
            simp only [Bridge.sends, found, encoded]
          rw [sends, Bridge.publishValue, found]
          simp only [encoded]
          exact linked.send registered found encoded

/-- Every operation that publishes only what a codec writes leaves the bridge
linked. -/
theorem perform (linked : Linked types bridge) (registered : types.Registered)
    (loaded : bridge.isLoaded = true) {operation : Operation}
    (isTyped : operation.isTyped = true) :
    bridge.middleware.Carries (bridge.perform operation).middleware (bridge.sends operation) ∧
      Linked types (bridge.perform operation) := by
  have quiet {after : Bridge Bus} (same : bridge.SameLinks after) :
      (bridge.middleware.Carries after.middleware fun _ => []) ∧ Linked types after :=
    ⟨same.middleware ▸ (Bus.Keeps.refl _).carries, linked.of_same same⟩
  have dropped (handles : List Handle) :
      (bridge.middleware.Carries (bridge.dropAll handles).middleware fun _ => []) ∧
        Linked types (bridge.dropAll handles) :=
    (linked.dropAll handles).imp_left Bus.Keeps.carries
  cases operation with
  | createPublisher owner topic typeName options =>
      rcases bridge.createPublisher_cases owner topic typeName options with
        ⟨e, after, equal, refuses⟩ |
        ⟨handle, allocator, codec, publication, bus, known, _, advertised, equal⟩
      · simp only [Bridge.perform, equal]
        exact quiet (.refuse refuses)
      · simp only [Bridge.perform, equal]
        have knows := registered.knows_of_lookup (linked.catalog ▸ known)
        exact (linked.openedPublisher loaded knows advertised handle allocator owner).imp_left
          Bus.Keeps.carries
  | createSubscriber hasEntryPoint topic typeName callback options =>
      rcases bridge.createSubscriber_cases hasEntryPoint topic typeName callback options with
        ⟨e, after, equal, refuses⟩ |
        ⟨handle, allocator, codec, subscription, bus, known, _, _, subscribed, equal⟩
      · simp only [Bridge.perform, equal]
        exact quiet (.refuse refuses)
      · simp only [Bridge.perform, equal]
        have knows := registered.knows_of_lookup (linked.catalog ▸ known)
        exact (linked.openedSubscriber loaded knows subscribed handle allocator callback).imp_left
          Bus.Keeps.carries
  | destroy handle =>
      simp only [Bridge.perform, Bridge.destroy_snd]
      exact dropped [handle]
  | destroyKind handle kind =>
      obtain ⟨handles, equal⟩ := bridge.destroyKind_snd handle kind
      simp only [Bridge.perform, equal]
      exact dropped handles
  | destroyOwnedBy script => exact dropped _
  | clear => exact dropped _
  | shutdown =>
      obtain ⟨carries, after⟩ := dropped bridge.handles
      exact ⟨carries, after.of_same ⟨rfl, rfl, rfl, rfl, fun _ => rfl⟩⟩
  | unload => exact linked.unload.imp_left Bus.Keeps.carries
  | publish handle payload => cases isTyped
  | publishValue handle value => exact linked.publishValue registered handle value

end Linked

end TopicBridge
