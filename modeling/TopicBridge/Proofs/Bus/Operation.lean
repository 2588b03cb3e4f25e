import TopicBridge.Middleware.Bus

/-!
# What the operations of a bus do

Each operation is told by the bus that it leaves behind.  Opening finds the
topic or makes one with a new channel, closing releases the topic, and sending
puts a payload on one channel.
-/

namespace TopicBridge

theorem PublicationId.number_ne {id other : PublicationId} (apart : id ≠ other) :
    id.number ≠ other.number := by
  cases id
  cases other
  exact fun same => apart (congrArg _ same)

theorem SubscriptionId.number_ne {id other : SubscriptionId} (apart : id ≠ other) :
    id.number ≠ other.number := by
  cases id
  cases other
  exact fun same => apart (congrArg _ same)

namespace Bus

/-! ## Opening -/

/-- The topic and the channels that a publication or a subscription finds. -/
inductive Binds (bus : Bus) (name typeName : String) : Topic → List Channel → Prop
  | found {topic : Topic} (found : Dict.get? bus.topics name = some topic)
      (same : topic.typeName = typeName) : Binds bus name typeName topic bus.channels
  | opened {channel : Channel} (absent : Dict.get? bus.topics name = none)
      (room : 0 < channel.capacity) (silent : channel.history = []) :
      Binds bus name typeName { typeName, channel := ⟨bus.channels.length⟩ }
        (bus.channels ++ [channel])

theorem binds_of_bind {bus bound : Bus} {name typeName : String} {queueSize : Nat} {topic : Topic}
    (bind : bus.bind name typeName queueSize = .ok (topic, bound)) :
    bus.Binds name typeName topic bound.channels ∧ bound = { bus with channels := bound.channels } := by
  unfold Bus.bind at bind
  split at bind
  · rename_i topic found
    split at bind
    · rename_i same
      cases bind
      exact ⟨.found found same, rfl⟩
    · cases bind
  · rename_i absent
    cases bind
    have room : 0 < (Channel.withRoom (bus.config.topicCapacity queueSize)).capacity := by
      apply Nat.lt_of_lt_of_le _ (Channel.le_powerOfTwoFrom _)
      exact Nat.lt_of_lt_of_le Nat.zero_lt_one (Nat.le_max_right _ _)
    exact ⟨.opened absent room rfl, rfl⟩

/-- The bus after a publication was opened. -/
def advertised (bus : Bus) (name : String) (topic : Topic) (channels : List Channel)
    (latch : Bool) : Bus :=
  { bus with
    channels
    topics := Dict.insert bus.topics name { topic with publishers := topic.publishers + 1 }
    publications := bus.publications ++ [{ topic := name, channel := topic.channel, latch }] }

/-- The bus after a subscription was opened. -/
def subscribed (bus : Bus) (name : String) (topic : Topic) (channels : List Channel) : Bus :=
  { bus with
    channels
    topics := Dict.insert bus.topics name { topic with subscribers := topic.subscribers + 1 }
    subscriptions := bus.subscriptions ++
      [{ topic := name
         channel := topic.channel
         replay := topic.latched.map (·.2)
         position := (channels.getD topic.channel.number (.ofCapacity 0)).sent }] }

theorem advertise_eq_ok {bus after : Bus} {name typeName : String} {options : AdvertiseOptions}
    {id : PublicationId} (advertise : bus.advertise name typeName options = .ok (id, after)) :
    id = ⟨bus.publications.length⟩ ∧ ∃ topic channels,
      bus.Binds name typeName topic channels ∧
        after = bus.advertised name topic channels options.latch := by
  unfold Bus.advertise at advertise
  cases checked : bus.checkOpen with
  | error e =>
      rw [checked] at advertise
      cases advertise
  | ok =>
      rw [checked] at advertise
      cases bound : bus.bind name typeName options.queueSize with
      | error e =>
          rw [bound] at advertise
          cases advertise
      | ok binding =>
          obtain ⟨topic, middle⟩ := binding
          rw [bound] at advertise
          obtain ⟨binds, same⟩ := binds_of_bind bound
          generalize middle.channels = channels at binds same
          subst same
          cases advertise
          exact ⟨rfl, topic, channels, binds, rfl⟩

theorem subscribe_eq_ok {bus after : Bus} {name typeName : String} {options : SubscribeOptions}
    {id : SubscriptionId} (subscribe : bus.subscribe name typeName options = .ok (id, after)) :
    id = ⟨bus.subscriptions.length⟩ ∧ ∃ topic channels,
      bus.Binds name typeName topic channels ∧ after = bus.subscribed name topic channels := by
  unfold Bus.subscribe at subscribe
  cases checked : bus.checkOpen with
  | error e =>
      rw [checked] at subscribe
      cases subscribe
  | ok =>
      rw [checked] at subscribe
      cases bound : bus.bind name typeName options.queueSize with
      | error e =>
          rw [bound] at subscribe
          cases subscribe
      | ok binding =>
          obtain ⟨topic, middle⟩ := binding
          rw [bound] at subscribe
          obtain ⟨binds, same⟩ := binds_of_bind bound
          generalize middle.channels = channels at binds same
          subst same
          cases subscribe
          exact ⟨rfl, topic, channels, binds, rfl⟩

namespace Binds

variable {bus : Bus} {name typeName : String} {topic : Topic} {channels : List Channel}

theorem typeName_eq (binds : bus.Binds name typeName topic channels) :
    topic.typeName = typeName := by
  cases binds with
  | found found same => exact same
  | opened absent room silent => rfl

/-- The channels that are there stay as they are. -/
theorem channels_keep (binds : bus.Binds name typeName topic channels) :
    ∃ more, channels = bus.channels ++ more ∧
      ∀ channel ∈ more, 0 < channel.capacity ∧ channel.history = [] := by
  cases binds with
  | found found same => exact ⟨[], by simp, by simp⟩
  | opened absent room silent => exact ⟨[_], rfl, by simpa using ⟨room, silent⟩⟩

end Binds

theorem channel_append (channels more : List Channel) {number : Nat}
    (there : number < channels.length) :
    (channels ++ more).getD number (.ofCapacity 0) = channels.getD number (.ofCapacity 0) := by
  rw [List.getD_eq_getElem?_getD, List.getD_eq_getElem?_getD, List.getElem?_append_left there]

/-! ## Closing -/

/-- A topic stays the same topic, and is left no other message. -/
structure Topic.Remains (before after : Topic) : Prop where
  channel : after.channel = before.channel
  typeName : after.typeName = before.typeName
  latched : ∀ {left}, after.latched = some left → before.latched = some left

theorem Topic.remains_unlatch (topic : Topic) (id : PublicationId) (publishers : Nat) :
    topic.Remains { topic.unlatch id with publishers } ∧
      (topic.unlatch id).subscribers = topic.subscribers := by
  unfold unlatch
  split
  · rename_i owner payload latched
    split
    · exact ⟨⟨rfl, rfl, fun left => nomatch left⟩, rfl⟩
    · exact ⟨⟨rfl, rfl, fun left => left⟩, rfl⟩
  · exact ⟨⟨rfl, rfl, fun left => left⟩, rfl⟩

/-- What closing a publication that is open does. -/
theorem withdraw_of_open {bus : Bus} {id : PublicationId} {publication : Publication}
    (found : bus.publications[id.number]? = some publication)
    (isOpen : publication.isOpen = true) :
    bus.withdraw id =
      { bus.releaseTopic publication.topic
          (fun topic => { topic.unlatch id with publishers := topic.publishers - 1 }) with
        publications := bus.publications.modify id.number fun p => { p with isOpen := false } } := by
  rw [withdraw, found]
  exact if_pos isOpen

/-- What closing a subscription that is open does. -/
theorem cancel_of_open {bus : Bus} {id : SubscriptionId} {subscription : Subscription}
    (found : bus.subscriptions[id.number]? = some subscription)
    (isOpen : subscription.isOpen = true) :
    bus.cancel id =
      { bus.releaseTopic subscription.topic
          (fun topic => { topic with subscribers := topic.subscribers - 1 }) with
        subscriptions :=
          bus.subscriptions.modify id.number fun s => { s with isOpen := false } } := by
  rw [cancel, found]
  exact if_pos isOpen

theorem Topic.isUnused_iff (topic : Topic) :
    topic.isUnused = true ↔ topic.publishers = 0 ∧ topic.subscribers = 0 := by
  simp [isUnused]

/-! ## Sending -/

/-- The bus after a payload was sent on an open publication. -/
def sent (bus : Bus) (id : PublicationId) (publication : Publication) (payload : Bytes) : Bus :=
  { (if publication.latch then bus.leave publication.topic id payload else bus) with
    published := bus.published + 1
    channels := bus.channels.modify publication.channel.number (·.send payload) }

theorem publish_of_open {bus : Bus} {id : PublicationId} {publication : Publication}
    (found : bus.publications[id.number]? = some publication)
    (isOpen : publication.isOpen = true) (payload : Bytes) :
    bus.publish id payload = bus.sent id publication payload := by
  rw [publish, found]
  exact if_pos isOpen

section

variable (bus : Bus) (id : PublicationId) (publication : Publication) (payload : Bytes)

/-- Sending opens and closes nothing. -/
theorem publications_sent : (bus.sent id publication payload).publications = bus.publications := by
  unfold sent
  split <;> rfl

theorem subscriptions_sent :
    (bus.sent id publication payload).subscriptions = bus.subscriptions := by
  unfold sent
  split <;> rfl

theorem channels_sent : (bus.sent id publication payload).channels =
    bus.channels.modify publication.channel.number (·.send payload) := by
  unfold sent
  split <;> rfl

/-- A payload is sent on the channel of its publication alone. -/
theorem channel_sent {channel : ChannelId} (there : channel.number < bus.channels.length) :
    (bus.sent id publication payload).channel channel =
      if publication.channel = channel then (bus.channel channel).send payload
      else bus.channel channel := by
  rw [Bus.channel, channels_sent, List.getD_eq_getElem?_getD, List.getElem?_modify,
    List.getElem?_eq_getElem there, Bus.channel, List.getD_eq_getElem?_getD,
    List.getElem?_eq_getElem there]
  obtain ⟨number⟩ := channel
  obtain ⟨own⟩ := publication.channel
  by_cases same : own = number <;> simp [same]

/-- A topic changes by the message that is left with it. -/
theorem topics_sent (name : String) :
    Dict.get? (bus.sent id publication payload).topics name =
      (Dict.get? bus.topics name).map fun topic =>
        if publication.latch ∧ publication.topic = name then
          { topic with latched := some (id, payload) }
        else topic := by
  unfold sent
  cases publication.latch with
  | false => simp
  | true => simp [leave, Dict.get?_modify]

end

/-! ## Going on -/

/-- The bus is open, and delivery is not held back. -/
def goesOn (bus : Bus) : Bool :=
  !(bus.isHeld || bus.isClosed)

section

variable (bus : Bus)

/-- Nobody can stop delivery by closing something. -/
theorem goesOn_releaseTopic (name : String) (change : Topic → Topic) :
    (bus.releaseTopic name change).goesOn = bus.goesOn := by
  unfold releaseTopic
  split
  · rfl
  · split <;> rfl

theorem goesOn_withdraw (id : PublicationId) : (bus.withdraw id).goesOn = bus.goesOn := by
  unfold withdraw
  split
  · rfl
  · split
    · exact bus.goesOn_releaseTopic _ _
    · rfl

theorem goesOn_cancel (id : SubscriptionId) : (bus.cancel id).goesOn = bus.goesOn := by
  unfold cancel
  split
  · rfl
  · split
    · exact bus.goesOn_releaseTopic _ _
    · rfl

theorem goesOn_publish (id : PublicationId) (payload : Bytes) :
    (bus.publish id payload).goesOn = bus.goesOn := by
  unfold publish
  split
  · rfl
  · split
    · dsimp only
      split <;> rfl
    · rfl

theorem goesOn_arrivals : bus.arrivals.2.goesOn = bus.goesOn :=
  rfl

end

end Bus

end TopicBridge
