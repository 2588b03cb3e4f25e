import TopicBridge.Proofs.Bus.Worker

/-!
# Runs of a bus

Whoever holds a bus opens and closes publications and subscriptions, sends, holds
delivery back and shuts the bus down, in any order and as often as it likes, and
meanwhile the workers take messages and come back from delivering them.  All of it
is one list of actions.  A moment is a bus together with what happens to it next,
so the moments of a run tell everything that was asked for and everything that was
handed out.
-/

namespace TopicBridge

namespace Bus

/-! ## Actions -/

/-- What happens to a bus. -/
inductive Action where
  | advertise (name typeName : String) (options : AdvertiseOptions)
  | subscribe (name typeName : String) (options : SubscribeOptions)
  | publish (id : PublicationId) (payload : Bytes)
  | withdraw (id : PublicationId)
  | cancel (id : SubscriptionId)
  | hold
  | release
  | shutdown
  /-- The worker of a subscription takes the next message, and is inside its
  delivery then. -/
  | serve (id : SubscriptionId)
  /-- The worker of a subscription comes back from its delivery and waits. -/
  | pause (id : SubscriptionId)
  /-- Every worker takes everything that is ready, and waits then. -/
  | serveAll
  deriving DecidableEq

/-- The bus after an action.  A request that fails leaves it as it was. -/
def act (bus : Bus) : Action → Bus
  | .advertise name typeName options =>
      match bus.advertise name typeName options with
      | .ok (_, after) => after
      | .error _ => bus
  | .subscribe name typeName options =>
      match bus.subscribe name typeName options with
      | .ok (_, after) => after
      | .error _ => bus
  | .publish id payload => bus.publish id payload
  | .withdraw id => bus.withdraw id
  | .cancel id => bus.cancel id
  | .hold => bus.hold
  | .release => bus.release
  | .shutdown => bus.shutdown
  | .serve id =>
      match bus.serve? id with
      | some (_, after) => after
      | none => bus
  | .pause id => bus.pause id
  | .serveAll => bus.arrivals.2

/-- What an action hands out. -/
def handed (bus : Bus) : Action → List Arrival
  | .serve id => (bus.serve? id).toList.map fun (payload, _) => (id, payload)
  | .serveAll => bus.arrivals.1
  | _ => []

/-- How many messages the subscriptions that an action serves skip. -/
def skips (bus : Bus) : Action → List (SubscriptionId × Nat)
  | .serve id =>
      match bus.subscriptions[id.number]? with
      | some subscription =>
          (bus.serve? id).toList.map fun _ => (id, bus.missed subscription)
      | none => []
  | .serveAll =>
      bus.subscriptions.zipIdx.map fun (subscription, number) =>
        (⟨number⟩, bus.overrun subscription)
  | _ => []

/-- The topic and the payload that an action sends on an open publication. -/
def sends? (bus : Bus) : Action → Option (String × Bytes)
  | .publish id payload =>
      match bus.publications[id.number]? with
      | some publication => if publication.isOpen then some (publication.topic, payload) else none
      | none => none
  | _ => none

/-! ## Runs -/

/-- A bus, and what happens to it next. -/
structure Moment where
  bus : Bus
  action : Action

/-- The bus after a list of actions. -/
def acts (bus : Bus) (actions : List Action) : Bus :=
  actions.foldl act bus

/-- The moments of a list of actions. -/
def moments (bus : Bus) : List Action → List Moment
  | [] => []
  | action :: later => ⟨bus, action⟩ :: (bus.act action).moments later

/-- What every action preserves holds after every run. -/
theorem acts_induction (holds : List Moment → Bus → Prop)
    (step : ∀ {past bus} (action), holds past bus → holds (past ++ [⟨bus, action⟩]) (bus.act action))
    (past : List Moment) {bus : Bus} (start : holds past bus) (actions : List Action) :
    holds (past ++ bus.moments actions) (bus.acts actions) := by
  induction actions generalizing past bus with
  | nil => simpa [moments, acts] using start
  | cons action later ih =>
      have continued := ih _ (step action start)
      rwa [List.append_assoc] at continued

theorem acts_append (bus : Bus) (earlier later : List Action) :
    bus.acts (earlier ++ later) = (bus.acts earlier).acts later :=
  List.foldl_append

theorem moments_append (bus : Bus) (earlier later : List Action) :
    bus.moments (earlier ++ later) = bus.moments earlier ++ (bus.acts earlier).moments later := by
  induction earlier generalizing bus with
  | nil => rfl
  | cons action earlier ih =>
      rw [List.cons_append, moments, ih, moments, List.cons_append]
      rfl

theorem moments_actions (bus : Bus) (actions : List Action) :
    (bus.moments actions).map Moment.action = actions := by
  induction actions generalizing bus with
  | nil => rfl
  | cons action later ih => rw [moments, List.map_cons, ih]

/-! ## Opening -/

section Opening

variable {bus bound : Bus} {name typeName : String} {topic : Topic}

theorem bind_of_none {queueSize : Nat} (absent : Dict.get? bus.topics name = none) :
    bus.bind name typeName queueSize =
      .ok ({ typeName, channel := ⟨bus.channels.length⟩ },
        { bus with
          channels :=
            bus.channels ++ [Channel.withRoom (bus.config.topicCapacity queueSize)] }) := by
  rw [bind, absent]

theorem bind_of_some {queueSize : Nat} (found : Dict.get? bus.topics name = some topic) :
    bus.bind name typeName queueSize =
      if topic.typeName = typeName then .ok (topic, bus)
      else .error (.topicConflict name topic.typeName typeName) := by
  rw [bind, found]

theorem advertise_of_closed (closed : bus.isClosed = true) (options : AdvertiseOptions) :
    bus.advertise name typeName options =
      .error (.middlewareUnavailable "bus is shut down") := by
  rw [advertise, checkOpen, closed]
  rfl

theorem subscribe_of_closed (closed : bus.isClosed = true) (options : SubscribeOptions) :
    bus.subscribe name typeName options =
      .error (.middlewareUnavailable "bus is shut down") := by
  rw [subscribe, checkOpen, closed]
  rfl

theorem advertise_of_bind (isOpen : bus.isClosed = false) {options : AdvertiseOptions}
    (bind : bus.bind name typeName options.queueSize = .ok (topic, bound)) :
    bus.advertise name typeName options =
      .ok (⟨bus.publications.length⟩,
        bus.advertised name topic bound.channels options.latch) := by
  rw [advertise, checkOpen, isOpen, bind, (binds_of_bind bind).2]
  rfl

theorem subscribe_of_bind (isOpen : bus.isClosed = false) {options : SubscribeOptions}
    (bind : bus.bind name typeName options.queueSize = .ok (topic, bound)) :
    bus.subscribe name typeName options =
      .ok (⟨bus.subscriptions.length⟩, bus.subscribed name topic bound.channels) := by
  rw [subscribe, checkOpen, isOpen, bind, (binds_of_bind bind).2]
  rfl

theorem advertise_of_refusal (isOpen : bus.isClosed = false) {options : AdvertiseOptions}
    {e : BridgeError} (refused : bus.bind name typeName options.queueSize = .error e) :
    bus.advertise name typeName options = .error e := by
  rw [advertise, checkOpen, isOpen, refused]
  rfl

theorem subscribe_of_refusal (isOpen : bus.isClosed = false) {options : SubscribeOptions}
    {e : BridgeError} (refused : bus.bind name typeName options.queueSize = .error e) :
    bus.subscribe name typeName options = .error e := by
  rw [subscribe, checkOpen, isOpen, refused]
  rfl

theorem isClosed_of_advertise {options : AdvertiseOptions} {answer : PublicationId × Bus}
    (advertise : bus.advertise name typeName options = .ok answer) : bus.isClosed = false := by
  cases closed : bus.isClosed with
  | false => rfl
  | true =>
      rw [advertise_of_closed closed] at advertise
      cases advertise

theorem isClosed_of_subscribe {options : SubscribeOptions} {answer : SubscriptionId × Bus}
    (subscribe : bus.subscribe name typeName options = .ok answer) : bus.isClosed = false := by
  cases closed : bus.isClosed with
  | false => rfl
  | true =>
      rw [subscribe_of_closed closed] at subscribe
      cases subscribe

end Opening

/-! ## What an action does -/

/-- What an action does to a bus. -/
inductive Does (bus : Bus) : Action → Bus → Prop
  | advertised {name typeName : String} {options : AdvertiseOptions} {topic : Topic}
      {channels : List Channel} (isOpen : bus.isClosed = false)
      (answer : bus.advertise name typeName options =
        .ok (⟨bus.publications.length⟩, bus.advertised name topic channels options.latch))
      (binds : bus.Binds name typeName topic channels) :
      Does bus (.advertise name typeName options)
        (bus.advertised name topic channels options.latch)
  | notAdvertised {name typeName : String} {options : AdvertiseOptions} {e : BridgeError}
      (refused : bus.advertise name typeName options = .error e) :
      Does bus (.advertise name typeName options) bus
  | subscribed {name typeName : String} {options : SubscribeOptions} {topic : Topic}
      {channels : List Channel} (isOpen : bus.isClosed = false)
      (answer : bus.subscribe name typeName options =
        .ok (⟨bus.subscriptions.length⟩, bus.subscribed name topic channels))
      (binds : bus.Binds name typeName topic channels) :
      Does bus (.subscribe name typeName options) (bus.subscribed name topic channels)
  | notSubscribed {name typeName : String} {options : SubscribeOptions} {e : BridgeError}
      (refused : bus.subscribe name typeName options = .error e) :
      Does bus (.subscribe name typeName options) bus
  | published {id : PublicationId} {publication : Publication} {payload : Bytes}
      (found : bus.publications[id.number]? = some publication)
      (isOpen : publication.isOpen = true) :
      Does bus (.publish id payload) (bus.sent id publication payload)
  | notPublished {id : PublicationId} {payload : Bytes}
      (closed : ∀ publication, bus.publications[id.number]? = some publication →
        publication.isOpen = false) : Does bus (.publish id payload) bus
  | withdrawn {id : PublicationId} {publication : Publication}
      (found : bus.publications[id.number]? = some publication)
      (isOpen : publication.isOpen = true) : Does bus (.withdraw id) (bus.withdraw id)
  | notWithdrawn {id : PublicationId}
      (closed : ∀ publication, bus.publications[id.number]? = some publication →
        publication.isOpen = false) : Does bus (.withdraw id) bus
  | cancelled {id : SubscriptionId} {subscription : Subscription}
      (found : bus.subscriptions[id.number]? = some subscription)
      (isOpen : subscription.isOpen = true) : Does bus (.cancel id) (bus.cancel id)
  | notCancelled {id : SubscriptionId}
      (closed : ∀ subscription, bus.subscriptions[id.number]? = some subscription →
        subscription.isOpen = false) : Does bus (.cancel id) bus
  | held : Does bus .hold bus.hold
  | released : Does bus .release bus.release
  | ended : Does bus .shutdown bus.shutdown
  | served {id : SubscriptionId} {subscription : Subscription} {payload : Bytes}
      (found : bus.subscriptions[id.number]? = some subscription)
      (attends : bus.attends subscription = true)
      (ready : bus.ready subscription = payload :: bus.ready (bus.passed subscription))
      (served : bus.serve? id =
        some (payload, bus.moved id (bus.lagged + bus.missed subscription) bus.begun)) :
      Does bus (.serve id) (bus.moved id (bus.lagged + bus.missed subscription) bus.begun)
  | notServed {id : SubscriptionId} (none : bus.serve? id = none) : Does bus (.serve id) bus
  | paused {id : SubscriptionId} {subscription : Subscription}
      (found : bus.subscriptions[id.number]? = some subscription) :
      Does bus (.pause id) (bus.moved id bus.lagged Subscription.rested)
  | notPaused {id : SubscriptionId} (none : bus.subscriptions[id.number]? = none) :
      Does bus (.pause id) bus
  | servedAll : Does bus .serveAll bus.arrivals.2

section

variable {bus : Bus}

theorem publish_of_closed {id : PublicationId}
    (closed : ∀ publication, bus.publications[id.number]? = some publication →
      publication.isOpen = false) (payload : Bytes) : bus.publish id payload = bus := by
  unfold publish
  split
  · rfl
  · rename_i publication found
    exact if_neg (by simp [closed publication found])

theorem withdraw_of_closed {id : PublicationId}
    (closed : ∀ publication, bus.publications[id.number]? = some publication →
      publication.isOpen = false) : bus.withdraw id = bus := by
  unfold withdraw
  split
  · rfl
  · rename_i publication found
    exact if_neg (by simp [closed publication found])

theorem cancel_of_closed {id : SubscriptionId}
    (closed : ∀ subscription, bus.subscriptions[id.number]? = some subscription →
      subscription.isOpen = false) : bus.cancel id = bus := by
  unfold cancel
  split
  · rfl
  · rename_i subscription found
    exact if_neg (by simp [closed subscription found])

end

/-- An item of a list is open, or it is not or is not there. -/
theorem open_or_closed {α : Type} (items : List α) (isOpen : α → Bool) (number : Nat) :
    (∃ item, items[number]? = some item ∧ isOpen item = true) ∨
      ∀ item, items[number]? = some item → isOpen item = false := by
  cases found : items[number]? with
  | none => exact Or.inr fun _ there => nomatch there
  | some item =>
      cases there : isOpen item with
      | true => exact Or.inl ⟨item, rfl, there⟩
      | false => exact Or.inr fun _ same => Option.some.inj same ▸ there

/-- Every action does one of these things. -/
theorem does (bus : Bus) (action : Action) : bus.Does action (bus.act action) := by
  cases action with
  | advertise name typeName options =>
      cases answer : bus.advertise name typeName options with
      | error e =>
          rw [act, answer]
          exact .notAdvertised answer
      | ok opened =>
          obtain ⟨id, after⟩ := opened
          obtain ⟨rfl, topic, channels, binds, rfl⟩ := advertise_eq_ok answer
          rw [act, answer]
          exact .advertised (isClosed_of_advertise answer) answer binds
  | subscribe name typeName options =>
      cases answer : bus.subscribe name typeName options with
      | error e =>
          rw [act, answer]
          exact .notSubscribed answer
      | ok opened =>
          obtain ⟨id, after⟩ := opened
          obtain ⟨rfl, topic, channels, binds, rfl⟩ := subscribe_eq_ok answer
          rw [act, answer]
          exact .subscribed (isClosed_of_subscribe answer) answer binds
  | publish id payload =>
      rcases open_or_closed bus.publications (·.isOpen) id.number with ⟨_, found, isOpen⟩ | closed
      · rw [act, publish_of_open found isOpen]
        exact .published found isOpen
      · rw [act, publish_of_closed closed]
        exact .notPublished closed
  | withdraw id =>
      rcases open_or_closed bus.publications (·.isOpen) id.number with ⟨_, found, isOpen⟩ | closed
      · exact .withdrawn found isOpen
      · rw [act, withdraw_of_closed closed]
        exact .notWithdrawn closed
  | cancel id =>
      rcases open_or_closed bus.subscriptions (·.isOpen) id.number with ⟨_, found, isOpen⟩ | closed
      · exact .cancelled found isOpen
      · rw [act, cancel_of_closed closed]
        exact .notCancelled closed
  | hold => exact .held
  | release => exact .released
  | shutdown => exact .ended
  | serve id =>
      cases served : bus.serve? id with
      | none =>
          rw [act, served]
          exact .notServed served
      | some next =>
          obtain ⟨payload, after⟩ := next
          obtain ⟨subscription, found, attends, ready, rfl⟩ := serve?_eq_some served
          rw [act, served]
          exact .served found attends ready served
  | pause id =>
      cases found : bus.subscriptions[id.number]? with
      | none =>
          rw [act, pause_of_none found]
          exact .notPaused found
      | some subscription => exact .paused found
  | serveAll => exact .servedAll

/-! ## What an action leaves as it is -/

/-- Closing a publication touches the topics and the publications. -/
theorem withdraw_frame (bus : Bus) (id : PublicationId) :
    bus.withdraw id = { bus with
      topics := (bus.withdraw id).topics
      publications := (bus.withdraw id).publications } := by
  unfold withdraw releaseTopic
  repeat' first | rfl | split

/-- Closing a subscription touches the topics and the subscriptions. -/
theorem cancel_frame (bus : Bus) (id : SubscriptionId) :
    bus.cancel id = { bus with
      topics := (bus.cancel id).topics
      subscriptions := (bus.cancel id).subscriptions } := by
  unfold cancel releaseTopic
  repeat' first | rfl | split

/-- Sending touches the topics, the channels and one count. -/
theorem sent_frame (bus : Bus) (id : PublicationId) (publication : Publication) (payload : Bytes) :
    bus.sent id publication payload = { bus with
      topics := (bus.sent id publication payload).topics
      channels := (bus.sent id publication payload).channels
      published := bus.published + 1 } := by
  unfold sent leave
  split <;> rfl

/-- The configuration of a bus never changes, and only `shutdown` shuts it down. -/
theorem act_frame (bus : Bus) (action : Action) :
    (bus.act action).config = bus.config ∧
      (bus.act action).isClosed = (bus.isClosed || action == .shutdown) := by
  have does := bus.does action
  generalize bus.act action = after at does ⊢
  cases does with
  | ended => exact ⟨rfl, (Bool.or_true _).symm⟩
  | published found isOpen =>
      rw [sent_frame]
      exact ⟨rfl, (Bool.or_false _).symm⟩
  | withdrawn found isOpen =>
      rw [withdraw_frame]
      exact ⟨rfl, (Bool.or_false _).symm⟩
  | cancelled found isOpen =>
      rw [cancel_frame]
      exact ⟨rfl, (Bool.or_false _).symm⟩
  | _ => exact ⟨rfl, (Bool.or_false _).symm⟩

/-- A bus is shut down once `shutdown` was among the actions. -/
theorem acts_frame (bus : Bus) (actions : List Action) :
    (bus.acts actions).config = bus.config ∧
      (bus.acts actions).isClosed = (bus.isClosed || actions.contains .shutdown) := by
  induction actions generalizing bus with
  | nil => exact ⟨rfl, (Bool.or_false _).symm⟩
  | cons action later ih =>
      obtain ⟨config, isClosed⟩ := bus.act_frame action
      obtain ⟨config', isClosed'⟩ := ih (bus.act action)
      refine ⟨config'.trans config, isClosed'.trans ?_⟩
      rw [isClosed, Bool.or_assoc, List.contains_cons, Bool.beq_comm]

end Bus

end TopicBridge
