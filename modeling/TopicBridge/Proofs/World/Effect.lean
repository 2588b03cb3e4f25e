import TopicBridge.Proofs.World.Basic

/-!
# What events change

The table, the targets and the queue are what decides which callbacks are
called.  This module says once what every operation and every event does to
them.  Removing proxies only takes entries away, and the two creations add one
entry under the next generation or, when they fail, none.
-/

namespace TopicBridge

namespace Table

@[simp]
theorem get?_remove (table : Table) (handle other : Handle) :
    (table.remove handle).get? other = if handle = other then none else table.get? other :=
  Dict.get?_erase _ _ _

@[simp]
theorem get?_commit (table : Table) (handle other : Handle) (entry : Entry) :
    (table.commit handle entry).get? other =
      if handle = other then some entry else table.get? other :=
  Dict.get?_insert _ _ _ _

@[simp]
theorem get?_abandon (table : Table) (handle other : Handle) :
    (table.abandon handle).get? other = table.get? other :=
  rfl

@[simp]
theorem nextGeneration_remove (table : Table) (handle : Handle) :
    (table.remove handle).nextGeneration = table.nextGeneration :=
  rfl

/-- A reservation draws the next generation and leaves the entries alone. -/
theorem reserve?_eq_some_iff {table reserved : Table} {handle : Handle} {generation : Nat} :
    table.reserve? = some (handle, generation, reserved) ↔
      ∃ allocator, table.allocator.allocate? = some (handle, allocator) ∧
        generation = table.nextGeneration ∧
        reserved = { table with allocator, nextGeneration := table.nextGeneration + 1 } := by
  unfold reserve?
  constructor
  · intro drawn
    obtain ⟨⟨drawnHandle, allocator⟩, allocated, equal⟩ := Option.map_eq_some_iff.mp drawn
    cases equal
    exact ⟨allocator, allocated, rfl, rfl⟩
  · rintro ⟨allocator, allocated, rfl, rfl⟩
    rw [allocated]
    rfl

/-- A callback is found exactly under the handle and the generation of a live
subscriber. -/
theorem callbackOf?_eq_some_iff {table : Table} {handle : Handle} {generation : Nat}
    {callback : Callback} :
    table.callbackOf? handle generation = some callback ↔
      ∃ subscriber, table.get? handle = some ⟨generation, .subscriber subscriber⟩ ∧
        subscriber.callback = callback := by
  unfold callbackOf?
  constructor
  · intro found
    obtain ⟨⟨entryGeneration, proxy⟩, entryFound, checked⟩ := Option.bind_eq_some_iff.mp found
    by_cases same : entryGeneration = generation
    · subst same
      rw [if_pos rfl] at checked
      cases proxy with
      | publisher publisher => simp [Proxy.callback?] at checked
      | subscriber subscriber => exact ⟨subscriber, entryFound, by simpa [Proxy.callback?] using checked⟩
    · rw [if_neg same] at checked
      contradiction
  · rintro ⟨subscriber, found, rfl⟩
    simp [found, Proxy.callback?]

end Table

namespace Bridge

variable {μ : Type}

/-! ## Creating proxies -/

section Creating

variable [Middleware μ]

/-- A creation that fails leaves everything but the allocator and the
generations as it was. -/
def Refuses (before after : Bridge μ) : Prop :=
  after = before ∨
    ∃ handle allocator, before.table.allocator.allocate? = some (handle, allocator) ∧
      after = { before with
        table := { before.table with
          allocator := allocator.release handle
          nextGeneration := before.table.nextGeneration + 1 } }

/-- The bridge after a proxy was created. -/
def opened (bridge : Bridge μ) (handle : Handle) (allocator : Allocator) (middleware : μ)
    (proxy : Proxy) (targets : Dict SubscriptionId Target) : Bridge μ :=
  { bridge with
    middleware
    targets
    table := {
      entries := Dict.insert bridge.table.entries handle ⟨bridge.table.nextGeneration, proxy⟩
      allocator
      nextGeneration := bridge.table.nextGeneration + 1 }
    counters := { bridge.counters with created := bridge.counters.created + 1 } }

/-- The two ends of creating a publisher. -/
theorem createPublisher_cases (bridge : Bridge μ) (owner : ScriptId) (topic typeName : String)
    (options : AdvertiseOptions) :
    (∃ e after, bridge.createPublisher owner topic typeName options = (.error e, after) ∧
      bridge.Refuses after) ∨
    ∃ handle allocator codec publication middleware,
      bridge.types.lookup typeName = .ok codec ∧
      bridge.table.allocator.allocate? = some (handle, allocator) ∧
      Middleware.advertise bridge.middleware topic codec.typeName options =
        .ok (publication, middleware) ∧
      bridge.createPublisher owner topic typeName options =
        (.ok handle, bridge.opened handle allocator middleware
          (.publisher ⟨topic, codec.typeName, owner, codec, publication⟩) bridge.targets) := by
  unfold createPublisher
  cases bridge.types.lookup typeName with
  | error e => exact Or.inl ⟨e, bridge, rfl, Or.inl rfl⟩
  | ok codec =>
      dsimp only
      cases reserved : bridge.table.reserve? with
      | none => exact Or.inl ⟨.handlesExhausted, bridge, rfl, Or.inl rfl⟩
      | some drawn =>
          obtain ⟨handle, generation, table⟩ := drawn
          obtain ⟨allocator, allocated, rfl, rfl⟩ := Table.reserve?_eq_some_iff.mp reserved
          dsimp only
          cases advertised :
              Middleware.advertise bridge.middleware topic codec.typeName options with
          | error e =>
              exact Or.inl ⟨e, _, rfl, Or.inr ⟨handle, allocator, allocated, rfl⟩⟩
          | ok answer =>
              obtain ⟨publication, middleware⟩ := answer
              exact Or.inr ⟨handle, allocator, codec, publication, middleware, rfl, allocated,
                advertised, rfl⟩

/-- The two ends of creating a subscriber. -/
theorem createSubscriber_cases (bridge : Bridge μ) (hasEntryPoint : Callback → Bool)
    (topic typeName : String) (callback : Callback) (options : SubscribeOptions) :
    (∃ e after,
      bridge.createSubscriber hasEntryPoint topic typeName callback options = (.error e, after) ∧
      bridge.Refuses after) ∨
    ∃ handle allocator codec subscription middleware,
      bridge.types.lookup typeName = .ok codec ∧
      bridge.acceptsCallback hasEntryPoint callback = true ∧
      bridge.table.allocator.allocate? = some (handle, allocator) ∧
      Middleware.subscribe bridge.middleware topic codec.typeName options =
        .ok (subscription, middleware) ∧
      bridge.createSubscriber hasEntryPoint topic typeName callback options =
        (.ok handle, bridge.opened handle allocator middleware
          (.subscriber ⟨topic, codec.typeName, callback, subscription⟩)
          (Dict.insert bridge.targets subscription
            ⟨handle, bridge.table.nextGeneration, codec⟩)) := by
  unfold createSubscriber
  cases bridge.types.lookup typeName with
  | error e => exact Or.inl ⟨e, bridge, rfl, Or.inl rfl⟩
  | ok codec =>
      dsimp only
      cases accepted : bridge.acceptsCallback hasEntryPoint callback with
      | false =>
          exact Or.inl ⟨.invalidCallback callback.script callback.name, bridge, rfl, Or.inl rfl⟩
      | true =>
          rw [if_neg (by simp)]
          cases reserved : bridge.table.reserve? with
          | none => exact Or.inl ⟨.handlesExhausted, bridge, rfl, Or.inl rfl⟩
          | some drawn =>
              obtain ⟨handle, generation, table⟩ := drawn
              obtain ⟨allocator, allocated, rfl, rfl⟩ := Table.reserve?_eq_some_iff.mp reserved
              dsimp only
              cases subscribed :
                  Middleware.subscribe bridge.middleware topic codec.typeName options with
              | error e =>
                  exact Or.inl ⟨e, _, rfl, Or.inr ⟨handle, allocator, allocated, rfl⟩⟩
              | ok answer =>
                  obtain ⟨subscription, middleware⟩ := answer
                  exact Or.inr ⟨handle, allocator, codec, subscription, middleware, rfl, rfl,
                    allocated, subscribed, rfl⟩

omit [Middleware μ] in
@[simp]
theorem get?_opened (bridge : Bridge μ) (handle other : Handle) (allocator : Allocator)
    (middleware : μ) (proxy : Proxy) (targets : Dict SubscriptionId Target) :
    (bridge.opened handle allocator middleware proxy targets).table.get? other =
      if handle = other then some ⟨bridge.table.nextGeneration, proxy⟩
      else bridge.table.get? other :=
  Dict.get?_insert _ _ _ _

end Creating

/-! ## Removing proxies -/

section Removing

variable [Middleware μ]

/-- Dropping a proxy closes what it has open. -/
theorem middleware_drop {bridge : Bridge μ} {handle : Handle} {entry : Entry}
    (found : bridge.table.get? handle = some entry) :
    (bridge.drop handle).middleware = close bridge.middleware entry.proxy := by
  rw [drop, found]
  rfl

/-- A drop removes the proxy under its handle and no other one. -/
@[simp]
theorem get?_drop (bridge : Bridge μ) (handle other : Handle) :
    (bridge.drop handle).table.get? other =
      if handle = other then none else bridge.table.get? other := by
  unfold drop
  cases found : bridge.table.get? handle with
  | some entry => exact Table.get?_remove _ _ _
  | none =>
      by_cases same : handle = other
      · subst same
        simpa using found
      · simp [same]

@[simp]
theorem nextGeneration_drop (bridge : Bridge μ) (handle : Handle) :
    (bridge.drop handle).table.nextGeneration = bridge.table.nextGeneration := by
  unfold drop
  cases bridge.table.get? handle <;> rfl

@[simp]
theorem targets_drop (bridge : Bridge μ) (handle : Handle) :
    (bridge.drop handle).targets = bridge.targets := by
  unfold drop
  cases bridge.table.get? handle <;> rfl

@[simp]
theorem types_drop (bridge : Bridge μ) (handle : Handle) :
    (bridge.drop handle).types = bridge.types := by
  unfold drop
  cases bridge.table.get? handle <;> rfl

@[simp]
theorem isLoaded_drop (bridge : Bridge μ) (handle : Handle) :
    (bridge.drop handle).isLoaded = bridge.isLoaded := by
  unfold drop
  cases bridge.table.get? handle <;> rfl

@[simp]
theorem pending_drop (bridge : Bridge μ) (handle : Handle) :
    (bridge.drop handle).pending = bridge.pending := by
  unfold drop
  cases bridge.table.get? handle <;> rfl

@[simp]
theorem reports_drop (bridge : Bridge μ) (handle : Handle) :
    (bridge.drop handle).reports = bridge.reports := by
  unfold drop
  cases bridge.table.get? handle <;> rfl

theorem dropAll_nil (bridge : Bridge μ) : bridge.dropAll [] = bridge :=
  rfl

theorem dropAll_cons (bridge : Bridge μ) (handle : Handle) (rest : List Handle) :
    bridge.dropAll (handle :: rest) = (bridge.drop handle).dropAll rest :=
  rfl

/-- Dropping several proxies removes exactly those. -/
@[simp]
theorem get?_dropAll (bridge : Bridge μ) (handles : List Handle) (other : Handle) :
    (bridge.dropAll handles).table.get? other =
      if other ∈ handles then none else bridge.table.get? other := by
  induction handles generalizing bridge with
  | nil => simp [dropAll_nil]
  | cons handle rest ih =>
      rw [dropAll_cons, ih, get?_drop]
      by_cases same : handle = other
      · simp [same]
      · simp [same, Ne.symm same]

/-- What dropping one proxy preserves, dropping several preserves. -/
theorem dropAll_induction (holds : Bridge μ → Prop)
    (drops : ∀ {bridge : Bridge μ} (handle : Handle), holds bridge → holds (bridge.drop handle))
    {bridge : Bridge μ} (before : holds bridge) (handles : List Handle) :
    holds (bridge.dropAll handles) := by
  induction handles generalizing bridge with
  | nil => exact before
  | cons handle rest ih => exact ih (drops handle before)

/-- What dropping one proxy leaves as it is, dropping several leaves as it is. -/
theorem dropAll_leaves {ρ : Type} (read : Bridge μ → ρ)
    (leaves : ∀ bridge handle, read (bridge.drop handle) = read bridge) (bridge : Bridge μ)
    (handles : List Handle) : read (bridge.dropAll handles) = read bridge :=
  dropAll_induction (fun after => read after = read bridge)
    (fun handle same => (leaves _ handle).trans same) rfl handles

@[simp]
theorem nextGeneration_dropAll (bridge : Bridge μ) (handles : List Handle) :
    (bridge.dropAll handles).table.nextGeneration = bridge.table.nextGeneration :=
  dropAll_leaves (·.table.nextGeneration) nextGeneration_drop bridge handles

@[simp]
theorem targets_dropAll (bridge : Bridge μ) (handles : List Handle) :
    (bridge.dropAll handles).targets = bridge.targets :=
  dropAll_leaves targets targets_drop bridge handles

@[simp]
theorem isLoaded_dropAll (bridge : Bridge μ) (handles : List Handle) :
    (bridge.dropAll handles).isLoaded = bridge.isLoaded :=
  dropAll_leaves isLoaded isLoaded_drop bridge handles

@[simp]
theorem pending_dropAll (bridge : Bridge μ) (handles : List Handle) :
    (bridge.dropAll handles).pending = bridge.pending :=
  dropAll_leaves pending pending_drop bridge handles

@[simp]
theorem reports_dropAll (bridge : Bridge μ) (handles : List Handle) :
    (bridge.dropAll handles).reports = bridge.reports :=
  dropAll_leaves reports reports_drop bridge handles

/-- Destroying a proxy is dropping it, whether or not it is there. -/
theorem destroy_snd (bridge : Bridge μ) (handle : Handle) :
    (bridge.destroy handle).2 = bridge.dropAll [handle] := by
  unfold destroy find
  cases found : bridge.table.get? handle with
  | some entry => rfl
  | none => simp [dropAll_cons, dropAll_nil, drop, found]

/-- Destroying a proxy of a kind is dropping it or doing nothing. -/
theorem destroyKind_snd (bridge : Bridge μ) (handle : Handle) (kind : ProxyKind) :
    ∃ handles, (bridge.destroyKind handle kind).2 = bridge.dropAll handles := by
  unfold destroyKind
  cases bridge.find handle with
  | error e => exact ⟨[], rfl⟩
  | ok entry =>
      by_cases same : entry.proxy.kind = kind
      · exact ⟨[handle], by simp [same, dropAll_cons, dropAll_nil]⟩
      · exact ⟨[], by simp [same, dropAll_nil]⟩

end Removing

/-! ## Publishing -/

section Publishing

variable [Middleware μ]

/-- Publishing concerns the messaging layer and the counters alone. -/
def Publishes (before after : Bridge μ) : Prop :=
  ∃ middleware counters, after = { before with middleware, counters }

theorem publish_snd (bridge : Bridge μ) (handle : Handle) (payload : Bytes) :
    bridge.Publishes (bridge.publish handle payload).2 := by
  unfold publish
  cases bridge.findPublisher handle with
  | error e => exact ⟨_, _, rfl⟩
  | ok publisher => exact ⟨_, _, rfl⟩

theorem publishValue_snd (bridge : Bridge μ) (handle : Handle) (value : Value) :
    bridge.Publishes (bridge.publishValue handle value).2 := by
  unfold publishValue
  cases bridge.findPublisher handle with
  | error e => exact ⟨_, _, rfl⟩
  | ok publisher =>
      dsimp only
      cases publisher.codec.encode value with
      | error e => exact ⟨_, _, rfl⟩
      | ok payload => exact ⟨_, _, rfl⟩

/-- The two ends of publishing a payload. -/
theorem publish_cases (bridge : Bridge μ) (handle : Handle) (payload : Bytes) :
    (∃ e, bridge.publish handle payload = (.error e, bridge)) ∨
    ∃ publisher, bridge.findPublisher handle = .ok publisher ∧
      bridge.publish handle payload = (.ok (), bridge.send publisher payload) := by
  unfold publish
  cases bridge.findPublisher handle with
  | error e => exact Or.inl ⟨e, rfl⟩
  | ok publisher => exact Or.inr ⟨publisher, rfl, rfl⟩

/-- The two ends of publishing a value. -/
theorem publishValue_cases (bridge : Bridge μ) (handle : Handle) (value : Value) :
    (∃ e, bridge.publishValue handle value = (.error e, bridge)) ∨
    ∃ publisher payload, bridge.findPublisher handle = .ok publisher ∧
      publisher.codec.encode value = .ok payload ∧
      bridge.publishValue handle value = (.ok (), bridge.send publisher payload) := by
  unfold publishValue
  cases bridge.findPublisher handle with
  | error e => exact Or.inl ⟨e, rfl⟩
  | ok publisher =>
      dsimp only
      cases encoded : publisher.codec.encode value with
      | error e => exact Or.inl ⟨.unwritable e, rfl⟩
      | ok payload => exact Or.inr ⟨publisher, payload, rfl, encoded, rfl⟩

end Publishing

/-! ## All operations -/

section Performing

variable [Middleware μ]

/-- What an operation does, told by what it leaves behind. -/
inductive Performs (bridge : Bridge μ) : Operation → Bridge μ → Prop
  | refused {operation : Operation} {after : Bridge μ} (keeps : operation.flushes = false)
      (refuses : bridge.Refuses after) : Performs bridge operation after
  | openedPublisher {owner : ScriptId} {topic typeName : String} {options : AdvertiseOptions}
      {handle : Handle} {allocator : Allocator} {codec : Codec} {publication : PublicationId}
      {middleware : μ} (known : bridge.types.lookup typeName = .ok codec)
      (allocated : bridge.table.allocator.allocate? = some (handle, allocator))
      (advertised : Middleware.advertise bridge.middleware topic codec.typeName options =
        .ok (publication, middleware))
      (answer : (bridge.createPublisher owner topic typeName options).1 = .ok handle) :
      Performs bridge (.createPublisher owner topic typeName options)
        (bridge.opened handle allocator middleware
          (.publisher ⟨topic, codec.typeName, owner, codec, publication⟩) bridge.targets)
  | openedSubscriber {hasEntryPoint : Callback → Bool} {topic typeName : String}
      {callback : Callback} {options : SubscribeOptions} {handle : Handle}
      {allocator : Allocator} {codec : Codec} {subscription : SubscriptionId} {middleware : μ}
      (known : bridge.types.lookup typeName = .ok codec)
      (allocated : bridge.table.allocator.allocate? = some (handle, allocator))
      (subscribed : Middleware.subscribe bridge.middleware topic codec.typeName options =
        .ok (subscription, middleware))
      (answer :
        (bridge.createSubscriber hasEntryPoint topic typeName callback options).1 = .ok handle) :
      Performs bridge (.createSubscriber hasEntryPoint topic typeName callback options)
        (bridge.opened handle allocator middleware
          (.subscriber ⟨topic, codec.typeName, callback, subscription⟩)
          (Dict.insert bridge.targets subscription
            ⟨handle, bridge.table.nextGeneration, codec⟩))
  | dropped {operation : Operation} (keeps : operation.flushes = false)
      (handles : List Handle) : Performs bridge operation (bridge.dropAll handles)
  | flushed {operation : Operation} (flushes : operation.flushes = true) (handles : List Handle)
      (isLoaded : Bool) :
      Performs bridge operation { (bridge.dropAll handles).flush with isLoaded }
  | published {operation : Operation} {after : Bridge μ} (keeps : operation.flushes = false)
      (publishes : bridge.Publishes after) : Performs bridge operation after

theorem performs (bridge : Bridge μ) (operation : Operation) :
    bridge.Performs operation (bridge.perform operation) := by
  cases operation with
  | createPublisher owner topic typeName options =>
      rcases bridge.createPublisher_cases owner topic typeName options with
        ⟨e, after, equal, refuses⟩ |
        ⟨handle, allocator, codec, publication, middleware, known, allocated, advertised, equal⟩
      · simp only [perform, equal]
        exact .refused rfl refuses
      · simp only [perform, equal]
        exact .openedPublisher known allocated advertised (by rw [equal])
  | createSubscriber hasEntryPoint topic typeName callback options =>
      rcases bridge.createSubscriber_cases hasEntryPoint topic typeName callback options with
        ⟨e, after, equal, refuses⟩ |
        ⟨handle, allocator, codec, subscription, middleware, known, _, allocated, subscribed, equal⟩
      · simp only [perform, equal]
        exact .refused rfl refuses
      · simp only [perform, equal]
        exact .openedSubscriber known allocated subscribed (by rw [equal])
  | destroy handle =>
      simp only [perform, destroy_snd]
      exact .dropped rfl [handle]
  | destroyKind handle kind =>
      obtain ⟨handles, equal⟩ := bridge.destroyKind_snd handle kind
      simp only [perform, equal]
      exact .dropped rfl handles
  | destroyOwnedBy script => exact .dropped rfl _
  | clear => exact .dropped rfl _
  | shutdown => exact .flushed rfl bridge.handles (bridge.dropAll bridge.handles).flush.isLoaded
  | unload => exact .flushed rfl bridge.handles false
  | publish handle payload => exact .published rfl (bridge.publish_snd handle payload)
  | publishValue handle value => exact .published rfl (bridge.publishValue_snd handle value)

/-- The queue is left alone by every operation that does not drop it. -/
theorem toList_pending_perform (bridge : Bridge μ) (operation : Operation) :
    (bridge.perform operation).pending.toList =
      if operation.flushes then [] else bridge.pending.toList := by
  have effect := bridge.performs operation
  generalize bridge.perform operation = after at effect ⊢
  cases effect with
  | refused keeps refuses =>
      rcases refuses with rfl | ⟨_, _, _, rfl⟩ <;> simp [keeps]
  | openedPublisher => rfl
  | openedSubscriber => rfl
  | dropped keeps handles => simp [keeps]
  | flushed flushes handles isLoaded =>
      rw [if_pos flushes]
      rfl
  | published keeps publishes =>
      obtain ⟨middleware, counters, rfl⟩ := publishes
      simp [keeps]

end Performing

end Bridge

end TopicBridge
