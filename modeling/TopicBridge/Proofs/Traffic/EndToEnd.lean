import TopicBridge.Proofs.Traffic.Delivery

/-!
# End to end

A value that a script publishes is written by the codec of the publisher, goes
over the bus, and is read by the codec of each subscriber.  All types come from
one catalog of registered definitions, so a topic has one codec at both ends, and
what a callback gets is the normal form of the value that was published.
-/

namespace TopicBridge

/-- The target of a subscription never changes. -/
theorem Bridge.targets_perform_of_some {bridge : Bridge Bus} {operation : Operation}
    {id : SubscriptionId} {target : Target}
    (there : id.number < bridge.middleware.subscriptions.length)
    (found : Dict.get? bridge.targets id = some target) :
    Dict.get? (bridge.perform operation).targets id = some target := by
  have effect := bridge.performs operation
  generalize bridge.perform operation = after at effect ⊢
  cases effect with
  | refused keeps refuses => rcases refuses with rfl | ⟨_, _, _, rfl⟩ <;> exact found
  | openedPublisher => exact found
  | openedSubscriber known allocated subscribed answer =>
      obtain ⟨rfl, _⟩ := Bus.subscribe_eq_ok subscribed
      refine (Dict.get?_insert _ _ _ _).trans ((if_neg ?_).trans found)
      rintro rfl
      exact Nat.lt_irrefl _ there
  | dropped keeps handles => rwa [targets_dropAll]
  | flushed flushes handles isLoaded => exact (bridge.targets_dropAll handles).symm ▸ found
  | published keeps publishes =>
      obtain ⟨_, _, rfl⟩ := publishes
      exact found

theorem Traffic.Sound.target_step {types : Catalog} {traffic after : Traffic}
    (sound : traffic.Sound types) {occurrence : Occurrence}
    (stepped : traffic.step occurrence = some after) {id : SubscriptionId} {target : Target}
    (found : Dict.get? traffic.bridge.targets id = some target) :
    Dict.get? after.bridge.targets id = some target := by
  cases occurrence with
  | event event =>
      obtain ⟨_, world, happens, rfl⟩ := Traffic.step_event stepped
      rcases World.step_table happens with ⟨operation, rfl, same⟩ | ⟨_, _, same⟩
      · obtain ⟨_, subscription, there, _⟩ := sound.linked.target found
        change Dict.get? world.bridge.targets id = some target
        rw [same]
        exact Bridge.targets_perform_of_some (List.getElem?_eq_some_iff.mp there).1 found
      · change Dict.get? world.bridge.targets id = some target
        rwa [same]
  | fetch other =>
      obtain ⟨_, _, _, _, rfl⟩ := Traffic.step_fetch stepped
      exact found
  | pass other =>
      obtain ⟨payload, _, rfl⟩ := Traffic.step_pass stepped
      exact (Bridge.targets_deliver _ _ _).symm ▸ found
  | pause other =>
      obtain ⟨_, rfl⟩ := Traffic.step_pause stepped
      exact found

theorem Course.target {types : Catalog} (registered : types.Registered) {start now : Traffic}
    {past : List Juncture} (course : Course start past now) (sound : start.Sound types)
    {id : SubscriptionId} {target : Target}
    (found : Dict.get? start.bridge.targets id = some target) :
    Dict.get? now.bridge.targets id = some target := by
  induction course with
  | rest => exact found
  | next stepped _ ih =>
      exact ih (sound.step registered stepped) (sound.target_step stepped found)

/-- The subscriber incarnation is live. -/
def Traffic.IsLive (traffic : Traffic) (handle : Handle) (generation : Nat)
    (subscriber : Subscriber) : Prop :=
  traffic.bridge.table.get? handle = some ⟨generation, .subscriber subscriber⟩

/-- What becomes of a payload that is published at one juncture, and of what is
sent later, at one subscriber incarnation.  The payload carries a value. -/
structure Reaches (published : Juncture) (later : List Juncture) (now : Traffic) (payload : Bytes)
    (value : Value) (handle : Handle) (generation : Nat) (subscriber : Subscriber) : Prop where
  /-- Whatever happens, messages are passed in the order in which they were sent,
  and none of them twice. -/
  ordered : (later.flatMap (·.passes subscriber.subscription) ++
      now.waiting subscriber.subscription).Sublist
    (published.traffic.waiting subscriber.subscription ++
      payload :: later.flatMap (·.sends subscriber.topic))
  /-- As long as the incarnation lives and its channel has room, every message is
  passed or waits for its turn. -/
  exact : now.IsLive handle generation subscriber →
    (∀ juncture ∈ published :: later, juncture.Fits subscriber.topic subscriber.subscription) →
    later.flatMap (·.passes subscriber.subscription) ++ now.waiting subscriber.subscription =
      published.traffic.waiting subscriber.subscription ++
        payload :: later.flatMap (·.sends subscriber.topic)
  /-- When everything that waited before was passed, it is the turn of the
  payload, and if the queue has space, one invocation is queued for it. -/
  turn : ∀ {before after : List Juncture} {traffic : Traffic},
    later = before ++ ⟨traffic, .pass subscriber.subscription⟩ :: after →
    (before.flatMap (·.passes subscriber.subscription)).length =
      (published.traffic.waiting subscriber.subscription).length →
    traffic.IsLive handle generation subscriber →
    (∀ juncture ∈ published :: before, juncture.Fits subscriber.topic subscriber.subscription) →
    ∃ next, traffic.step (.pass subscriber.subscription) = some next ∧
      (Juncture.mk traffic (.pass subscriber.subscription)).passes subscriber.subscription =
        [payload] ∧
      next.bridge.pending.toList = traffic.bridge.pending.toList ++
        if traffic.bridge.hasSpace then [⟨handle, generation, subscriber.callback, value⟩] else []
  /-- While a message waits, the worker can go on. -/
  goesOn : now.waiting subscriber.subscription ≠ [] →
    (now.step (.pass subscriber.subscription)).isSome = true ∨
      (now.step (.fetch subscriber.subscription)).isSome = true

/-- What is published on a bridge over a bus arrives. -/
structure EndToEnd (past : List Juncture) (now : Traffic) : Prop where
  /-- No message was unreadable. -/
  readsAll : now.bridge.ReadsAll
  /-- A value that was published reaches every subscriber to the topic in its
  normal form. -/
  arrives : ∀ {earlier later : List Juncture} {traffic : Traffic} {handle : Handle} {value : Value},
    past = earlier ++ ⟨traffic, .event (.operation (.publishValue handle value))⟩ :: later →
    (traffic.bridge.publishValue handle value).1 = .ok () →
    ∃ (publisher : Publisher) (schema : Schema) (payload : Bytes),
      traffic.bridge.findPublisher handle = .ok publisher ∧
      schema.Obtainable ∧ publisher.codec = schema.codec ∧
      schema.encode value = .ok payload ∧ schema.decode payload = .ok (schema.normal value) ∧
      ∀ {other : Handle} {generation : Nat} {subscriber : Subscriber},
        traffic.IsLive other generation subscriber → subscriber.topic = publisher.topic →
        Reaches ⟨traffic, .event (.operation (.publishValue handle value))⟩ later now payload
          (schema.normal value) other generation subscriber

namespace Traffic

/-- While a message waits for a subscription, its worker can go on. -/
theorem Sound.goesOn_of_waiting {types : Catalog} {traffic : Traffic}
    (sound : traffic.Sound types) {id : SubscriptionId} (waits : traffic.waiting id ≠ []) :
    (traffic.step (.pass id)).isSome = true ∨ (traffic.step (.fetch id)).isSome = true := by
  cases taken : Dict.get? traffic.inHand id with
  | some payload => exact Or.inl (by simp [Traffic.step, taken])
  | none =>
      rw [waiting, taken] at waits
      have served : (traffic.bus.serve? id).isSome = true :=
        Bus.serve?_isSome sound.linked.goesOn waits
      exact Or.inr (by simpa [Traffic.step, taken] using served)

variable {types : Catalog} {traffic : Traffic} {handle : Handle} {generation : Nat}
  {subscriber : Subscriber}

/-- A live subscriber has an open subscription and a target that reads it. -/
theorem Sound.bound_of_live (sound : traffic.Sound types)
    (live : traffic.IsLive handle generation subscriber) :
    ∃ codec subscription,
      Dict.get? traffic.bridge.targets subscriber.subscription =
        some ⟨handle, generation, codec⟩ ∧
      traffic.bus.subscriptions[subscriber.subscription.number]? = some subscription ∧
      subscription.isOpen = true ∧ subscription.topic = subscriber.topic ∧
      types.Knows codec ∧ traffic.bus.topicType? subscriber.topic = some codec.typeName := by
  obtain ⟨codec, targeted, subscription, found, isOpen, topic⟩ := sound.linked.subscriber live
  have typed := sound.linked.typed_of_open targeted found isOpen
  exact ⟨codec, subscription, targeted, found, isOpen, topic, (sound.linked.target targeted).1,
    topic ▸ typed⟩

/-- A message that a live subscriber can read is queued for its callback. -/
theorem Sound.pending_pass (sound : traffic.Sound types)
    (live : traffic.IsLive handle generation subscriber) {codec : Codec}
    (targeted : Dict.get? traffic.bridge.targets subscriber.subscription =
      some ⟨handle, generation, codec⟩) {payload : Bytes} {value : Value}
    (decoded : codec.decode payload = .ok value) :
    (traffic.bridge.deliver subscriber.subscription payload).pending.toList =
      traffic.bridge.pending.toList ++
        if traffic.bridge.hasSpace then [⟨handle, generation, subscriber.callback, value⟩]
        else [] := by
  have called : traffic.bridge.table.callbackOf? handle generation = some subscriber.callback :=
    Table.callbackOf?_eq_some_iff.mpr ⟨subscriber, live, rfl⟩
  have loaded : traffic.bridge.isLoaded = true := by
    cases loaded : traffic.bridge.isLoaded with
    | true => rfl
    | false => exact nomatch (sound.linked.unloaded loaded handle).symm.trans live
  have offer : traffic.bridge.offered? subscriber.subscription payload =
      some ⟨handle, generation, subscriber.callback, value⟩ := by
    simp [Bridge.offered?, loaded, targeted, decoded, called, Except.toOption]
  rw [Bridge.toList_pending_deliver, Bridge.accepted, offer]
  rfl

end Traffic

/-- A topic has one type, so a subscriber reads with the codec of the publisher. -/
theorem Traffic.Sound.codec_eq {types : Catalog} {traffic : Traffic} (sound : traffic.Sound types)
    {handle : Handle} {publisher : Publisher} {topic : String} {codec : Codec}
    (found : traffic.bridge.findPublisher handle = .ok publisher)
    (same : topic = publisher.topic) (knows : types.Knows codec)
    (typed : traffic.bus.topicType? topic = some codec.typeName) : codec = publisher.codec := by
  obtain ⟨_, live⟩ := Bridge.get?_of_findPublisher found
  obtain ⟨knows', typed', _⟩ := sound.linked.publisher live
  exact knows.unique knows' (Option.some.inj (typed.symm.trans (same ▸ typed')))

/-- What is passed to a live subscriber after a payload was sent to it. -/
theorem Course.advances_sent {types : Catalog} (registered : types.Registered) {now : Traffic}
    {juncture : Juncture} (sound : juncture.traffic.Sound types) {handle : Handle}
    {generation : Nat} {subscriber : Subscriber}
    (live : juncture.traffic.IsLive handle generation subscriber) {payload : Bytes}
    (sends : juncture.sends subscriber.topic = [payload])
    (passes : juncture.passes subscriber.subscription = []) {later : List Juncture}
    (course : Course juncture.traffic (juncture :: later) now) :
    (later.flatMap (·.passes subscriber.subscription) ++
        now.waiting subscriber.subscription).Sublist
      (juncture.traffic.waiting subscriber.subscription ++
        payload :: later.flatMap (·.sends subscriber.topic)) ∧
    (now.IsLive handle generation subscriber →
      (∀ each ∈ juncture :: later, each.Fits subscriber.topic subscriber.subscription) →
      later.flatMap (·.passes subscriber.subscription) ++ now.waiting subscriber.subscription =
        juncture.traffic.waiting subscriber.subscription ++
          payload :: later.flatMap (·.sends subscriber.topic)) := by
  obtain ⟨_, subscription, _, there, _, sameTopic, _⟩ := sound.bound_of_live live
  obtain ⟨last, found, _, ordered, exact⟩ := course.advances registered sound _ _ there
  rw [sameTopic, List.flatMap_cons, List.flatMap_cons, passes, sends] at ordered exact
  refine ⟨ordered, fun liveNow fits => ?_⟩
  obtain ⟨_, subscription', _, found', isOpen, _⟩ :=
    (course.sound registered sound).bound_of_live liveNow
  cases found.symm.trans found'
  exact (exact isOpen).2 fits

/-- A value that is published reaches a subscriber that is live. -/
theorem Traffic.Sound.reaches {types : Catalog} (registered : types.Registered)
    {traffic now : Traffic} (sound : traffic.Sound types) {handle : Handle} {value : Value}
    {later : List Juncture} {publisher : Publisher} {schema : Schema} {payload : Bytes}
    (course : Course traffic
      (⟨traffic, .event (.operation (.publishValue handle value))⟩ :: later) now)
    (found : traffic.bridge.findPublisher handle = .ok publisher)
    (codec : publisher.codec = schema.codec) (encoded : schema.encode value = .ok payload)
    (decoded : schema.decode payload = .ok (schema.normal value)) {other : Handle}
    {generation : Nat} {subscriber : Subscriber}
    (live : traffic.IsLive other generation subscriber)
    (topic : subscriber.topic = publisher.topic) :
    Reaches ⟨traffic, .event (.operation (.publishValue handle value))⟩ later now payload
      (schema.normal value) other generation subscriber := by
  generalize published : (⟨traffic, .event (.operation (.publishValue handle value))⟩ : Juncture) =
    juncture at course ⊢
  have same : juncture.traffic = traffic := by rw [← published]
  have sends : juncture.sends subscriber.topic = [payload] := by
    have written : schema.codec.encode value = .ok payload := encoded
    rw [← published, Juncture.sends, topic]
    simp [Bridge.sends, found, codec, written]
  have passes : juncture.passes subscriber.subscription = [] := by rw [← published, Juncture.passes]
  obtain ⟨reader, _, targeted, _, _, _, knows, typed⟩ := sound.bound_of_live live
  have reads : reader.decode payload = .ok (schema.normal value) := by
    rw [sound.codec_eq found topic knows typed, codec]
    exact decoded
  subst same
  obtain ⟨ordered, exact⟩ := Course.advances_sent registered sound live sends passes course
  refine ⟨ordered, exact, ?_, (course.sound registered sound).goesOn_of_waiting⟩
  rintro before after middle rfl counted liveThen fits
  rw [← List.cons_append] at course
  obtain ⟨between, first, second⟩ := course.part
  cases second with
  | next stepped _ =>
      obtain ⟨next, taken, rfl⟩ := Traffic.step_pass stepped
      -- everything that waited before was passed, so the payload is at the front
      have front :=
        (Course.advances_sent registered sound live sends passes first).2 liveThen fits
      obtain ⟨_, queued⟩ := List.append_inj front counted
      rw [Traffic.waiting, taken] at queued
      obtain ⟨rfl, _⟩ := List.cons.inj queued
      have soundThen := first.sound registered sound
      have targetedThen := first.target registered sound targeted
      refine ⟨_, stepped, ?_, soundThen.pending_pass liveThen targetedThen reads⟩
      simp [Juncture.passes, taken]

/-- Over a bus, every value that is published with a type from registered
definitions arrives at each subscriber of its topic, once for each time it is
sent and in its normal form, and no message is ever unreadable. -/
theorem published_arrives {types : Catalog} (registered : types.Registered)
    {config : BridgeConfig} {options : BusConfig} {past : List Juncture} {now : Traffic}
    (course : Course (Traffic.fresh types config options) past now) : EndToEnd past now := by
  have start := Traffic.Sound.fresh types config options
  refine ⟨(course.sound registered start).readsAll, ?_⟩
  rintro earlier later traffic handle value rfl accepted
  obtain ⟨between, first, second⟩ := course.part
  have sound := first.sound registered start
  cases second with
  | next stepped rest =>
      rcases traffic.bridge.publishValue_cases handle value with
        ⟨e, refused⟩ | ⟨publisher, payload, found, encoded, _⟩
      · rw [refused] at accepted
        cases accepted
      · obtain ⟨_, live⟩ := Bridge.get?_of_findPublisher found
        obtain ⟨_, schema, obtainable, codec⟩ := registered.codec (sound.linked.publisher live).1
        rw [codec] at encoded
        have decoded := (Schema.decode_encode obtainable encoded).1
        exact ⟨publisher, schema, payload, found, obtainable, codec, encoded, decoded,
          fun live topic => sound.reaches registered (.next stepped rest) found codec encoded decoded
            live topic⟩

/-- Two types from definitions. -/
def countsAndNames : Catalog :=
  (Catalog.registerAll {} [("demo/Count", "int32 data"), ("demo/Name", "string data")]).2

/-- One subscriber names its type in short and is destroyed with a message in
hand, and its worker then takes another one that is published later.  A second
subscriber comes late and gets the message that was left.  Then the topic is closed
and opened again for messages of another type. -/
def reopenedTopic : List Occurrence :=
  let operate (operation : Operation) : Occurrence := .event (.operation operation)
  let subscribe (typeName callback : String) : Occurrence :=
    operate (.createSubscriber (fun _ => true) "/topic" typeName ⟨⟨1⟩, callback⟩ {})
  let advertise (typeName : String) (latch : Bool) : Occurrence :=
    operate (.createPublisher ⟨2⟩ "/topic" typeName { latch })
  let publish (value : Value) : Occurrence :=
    operate (.publishValue ⟨1⟩ (.table [("data", value)]))
  [subscribe "Count" "onCount", advertise "demo/Count" true, publish (.int 7), .fetch ⟨0⟩,
    publish (.int 8), subscribe "demo/Count" "onLate", .pass ⟨0⟩, .fetch ⟨1⟩, .pass ⟨1⟩,
    .fetch ⟨0⟩, operate (.destroy ⟨0⟩), publish (.int 9), .pass ⟨0⟩, .fetch ⟨0⟩, .pass ⟨0⟩,
    .pause ⟨1⟩, operate (.destroy ⟨1⟩), operate (.destroy ⟨2⟩),
    subscribe "Name" "onName", advertise "Name" false, publish (.string "x"), .fetch ⟨2⟩,
    .pass ⟨2⟩]

theorem published_arrives_reopenedTopic :
    ∃ past now, Course (Traffic.fresh countsAndNames {} {}) past now ∧
      now.bridge.pending.toList.map (fun invocation =>
        (invocation.callback.name, (invocation.payload.get? "data").bind Value.asInt?,
          (invocation.payload.get? "data").bind Value.asString?)) =
        [("onCount", some 7, none), ("onLate", some 8, none), ("onName", none, some "x")] ∧
      now.bridge.counters.droppedUnknown = 2 ∧ EndToEnd past now := by
  have computed : ((Traffic.fresh countsAndNames {} {}).replay reopenedTopic).map (fun replayed =>
      (replayed.2.bridge.pending.toList.map fun invocation =>
        (invocation.callback.name, (invocation.payload.get? "data").bind Value.asInt?,
          (invocation.payload.get? "data").bind Value.asString?),
        replayed.2.bridge.counters.droppedUnknown)) =
      some ([("onCount", some 7, none), ("onLate", some 8, none), ("onName", none, some "x")], 2) := by
    decide +kernel
  obtain ⟨⟨past, now⟩, replayed, same⟩ := Option.map_eq_some_iff.mp computed
  simp only [Prod.mk.injEq] at same
  obtain ⟨queued, dropped⟩ := same
  have course := Course.ofReplay replayed
  have registered : countsAndNames.Registered := Catalog.Registered.empty.registerAll _
  exact ⟨past, now, course, queued, dropped, published_arrives registered course⟩

end TopicBridge
