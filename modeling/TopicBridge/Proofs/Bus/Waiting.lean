import TopicBridge.Proofs.Bus.Worker

/-!
# What waits for a subscription

What waits for a subscription is a queue.  Sending on its topic adds to the end,
unless the channel overflows, and its worker takes from the front.  Nothing else
touches it as long as the subscription is open: not what is opened or closed beside
it, even on its own topic.  Once it is closed nothing waits for it any more, unless
its worker is inside a delivery and goes on.
-/

namespace TopicBridge

namespace Bus

/-- What can still come to a subscription: what is ready for its worker, unless it was
closed and the worker has come to wait. -/
def outstanding (bus : Bus) (subscription : Subscription) : List Bytes :=
  if subscription.isOpen || subscription.isDelivering then bus.ready subscription else []

/-- What waits for a subscription. -/
def waiting (bus : Bus) (id : SubscriptionId) : List Bytes :=
  match bus.subscriptions[id.number]? with
  | some subscription => bus.outstanding subscription
  | none => []

/-- The channel of a subscription keeps one more message for it. -/
def hasRoom (bus : Bus) (id : SubscriptionId) : Prop :=
  ∀ subscription, bus.subscriptions[id.number]? = some subscription →
    (bus.channel subscription.channel).behind subscription.position <
      (bus.channel subscription.channel).capacity

/-- A subscription stays bound to its topic and its channel, and nothing comes to wait for
it. -/
structure Dwindles (before after : Bus) (subscription later : Subscription) : Prop where
  topic : later.topic = subscription.topic
  channel : later.channel = subscription.channel
  fewer : (after.outstanding later).Sublist (before.outstanding subscription)

/-- Nothing comes to wait for any subscription, and as long as one is open the same
messages wait for it. -/
def Keeps (before after : Bus) : Prop :=
  ∀ (number : Nat) (subscription : Subscription),
    before.subscriptions[number]? = some subscription →
    ∃ later : Subscription, after.subscriptions[number]? = some later ∧
      before.Dwindles after subscription later ∧
      (later.isOpen = true → subscription.isOpen = true ∧
        after.outstanding later = before.outstanding subscription)

theorem waiting_of_some {bus : Bus} {id : SubscriptionId} {subscription : Subscription}
    (found : bus.subscriptions[id.number]? = some subscription) :
    bus.waiting id = bus.outstanding subscription := by
  rw [waiting, found]

theorem outstanding_of_open (bus : Bus) {subscription : Subscription}
    (isOpen : subscription.isOpen = true) : bus.outstanding subscription = bus.ready subscription := by
  rw [outstanding, isOpen]
  rfl

/-- On a bus that goes on, everything that can come to a subscription is taken by its
worker before it waits. -/
theorem taken_eq_outstanding {bus : Bus} (goesOn : bus.goesOn = true)
    (subscription : Subscription) : bus.taken subscription = bus.outstanding subscription := by
  rw [taken, attends_of_goesOn goesOn, outstanding]

/-- A worker takes only what can still come to its subscription. -/
theorem outstanding_of_attends {bus : Bus} {subscription : Subscription}
    (attends : bus.attends subscription = true) :
    bus.outstanding subscription = bus.ready subscription := by
  rw [Bus.attends, Bool.and_eq_true, Bool.or_eq_true, Bool.and_eq_true] at attends
  refine if_pos (Bool.or_eq_true_iff.mpr ?_)
  exact attends.2.symm.imp_left And.right

namespace Keeps

variable {bus middle after : Bus}

/-- A subscription for which the same messages wait. -/
theorem unchanged {subscription later : Subscription} (topic : later.topic = subscription.topic)
    (channel : later.channel = subscription.channel)
    (isOpen : later.isOpen = subscription.isOpen)
    (same : after.outstanding later = bus.outstanding subscription) :
    bus.Dwindles after subscription later ∧
      (later.isOpen = true → subscription.isOpen = true ∧
        after.outstanding later = bus.outstanding subscription) :=
  ⟨⟨topic, channel, same ▸ List.Sublist.refl _⟩, fun still => ⟨isOpen ▸ still, same⟩⟩

theorem refl (bus : Bus) : bus.Keeps bus :=
  fun _ _ found => ⟨_, found, unchanged rfl rfl rfl rfl⟩

theorem dwindles (keeps : bus.Keeps after) {number : Nat} {subscription : Subscription}
    (found : bus.subscriptions[number]? = some subscription) :
    ∃ later : Subscription, after.subscriptions[number]? = some later ∧
      bus.Dwindles after subscription later := by
  obtain ⟨later, found, dwindles, _⟩ := keeps _ _ found
  exact ⟨later, found, dwindles⟩

theorem trans (first : bus.Keeps middle) (second : middle.Keeps after) : bus.Keeps after := by
  intro number subscription found
  obtain ⟨between, found, first, open₁⟩ := first _ _ found
  obtain ⟨later, found, second, open₂⟩ := second _ _ found
  refine ⟨later, found, ⟨second.topic.trans first.topic, second.channel.trans first.channel,
    second.fewer.trans first.fewer⟩, fun isOpen => ?_⟩
  obtain ⟨isOpen, same'⟩ := open₂ isOpen
  obtain ⟨isOpen, same⟩ := open₁ isOpen
  exact ⟨isOpen, same'.trans same⟩

/-- Channels that are added hold nothing for the subscriptions there are. -/
theorem of_append (bound : bus.Bound) {more : List Channel}
    (channels : after.channels = bus.channels ++ more)
    (subscriptions : bus.subscriptions <+: after.subscriptions) : bus.Keeps after := by
  intro number subscription found
  obtain ⟨others, same⟩ := subscriptions
  have there := (List.getElem?_eq_some_iff.mp found).1
  refine ⟨subscription, ?_, unchanged rfl rfl rfl ?_⟩
  · rw [← same, List.getElem?_append_left there]
    exact found
  · have below := (bound.subscriptions subscription (List.mem_of_getElem? found)).1
    rw [outstanding, outstanding, ready, ready, channel, channel, channels,
      channel_append _ _ below]

theorem advertised (bound : bus.Bound) {name typeName : String} {topic : Topic}
    {channels : List Channel} (binds : bus.Binds name typeName topic channels) (latch : Bool) :
    bus.Keeps (bus.advertised name topic channels latch) := by
  obtain ⟨more, longer, _⟩ := binds.channels_keep
  exact of_append bound longer (List.prefix_refl _)

theorem subscribed (bound : bus.Bound) {name typeName : String} {topic : Topic}
    {channels : List Channel} (binds : bus.Binds name typeName topic channels) :
    bus.Keeps (bus.subscribed name topic channels) := by
  obtain ⟨more, longer, _⟩ := binds.channels_keep
  exact of_append bound longer (List.prefix_append _ _)

theorem withdraw (bound : bus.Bound) {id : PublicationId} {publication : Publication}
    (found : bus.publications[id.number]? = some publication)
    (isOpen : publication.isOpen = true) : bus.Keeps (bus.withdraw id) := by
  obtain ⟨topics, _, closed, _⟩ := bound.withdraw found isOpen
  rw [closed]
  exact fun _ _ found => ⟨_, found, unchanged rfl rfl rfl rfl⟩

/-- Only the subscription that is closed is lost, and not even that one if its worker
is inside a delivery. -/
theorem cancel (bound : bus.Bound) {id : SubscriptionId} {subscription : Subscription}
    (found : bus.subscriptions[id.number]? = some subscription)
    (isOpen : subscription.isOpen = true) : bus.Keeps (bus.cancel id) := by
  obtain ⟨topics, _, closed, _⟩ := bound.cancel found isOpen
  rw [closed]
  intro number other found'
  by_cases own : id.number = number
  · subst own
    cases found.symm.trans found'
    refine ⟨{ subscription with isOpen := false }, by simp [found], ⟨rfl, rfl, ?_⟩,
      fun isOpen => nomatch isOpen⟩
    rw [outstanding_of_open _ isOpen, outstanding]
    split
    · exact List.Sublist.refl _
    · exact List.nil_sublist _
  · exact ⟨other, by simp [own, found'], unchanged rfl rfl rfl rfl⟩

/-- A worker that waits takes nothing any more if its subscription was closed. -/
theorem pause (bus : Bus) (id : SubscriptionId) : bus.Keeps (bus.pause id) := by
  intro number other found
  by_cases own : id.number = number
  · subst own
    refine ⟨other.rested, by simp [Bus.pause, found, Subscription.rested], ⟨rfl, rfl, ?_⟩, ?_⟩
    · unfold outstanding
      cases isOpen : other.isOpen with
      | true => simp [Subscription.rested, isOpen, ready, Bus.pause, channel]
      | false => simp [Subscription.rested, isOpen]
    · intro still
      have isOpen : other.isOpen = true := still
      refine ⟨isOpen, ?_⟩
      rw [outstanding_of_open _ still, outstanding_of_open _ isOpen]
      rfl
  · exact ⟨other, by simp [Bus.pause, own, found], unchanged rfl rfl rfl rfl⟩

end Keeps

/-- A new subscription waits for the message that was left with its topic. -/
theorem waiting_subscribed (bus : Bus) (name : String) (topic : Topic) (channels : List Channel) :
    (bus.subscribed name topic channels).waiting ⟨bus.subscriptions.length⟩ =
      (topic.latched.map (·.2)).toList := by
  have found : (bus.subscribed name topic channels).subscriptions[
      bus.subscriptions.length]? = some _ := List.getElem?_concat_length
  have level : (channels.getD topic.channel.number (.ofCapacity 0)).behind
      (channels.getD topic.channel.number (.ofCapacity 0)).sent = 0 := Nat.sub_self _
  rw [waiting_of_some found, outstanding_of_open _ rfl, ready, Bus.channel, Bus.subscribed,
    Channel.outstandingFrom, level]
  simp

section Serving

variable {bus after : Bus} {id : SubscriptionId} {payload : Bytes}

/-- What a worker takes is taken from the front. -/
theorem outstanding_serve (served : bus.serve? id = some (payload, after)) :
    ∃ subscription later, bus.subscriptions[id.number]? = some subscription ∧
      after.subscriptions[id.number]? = some later ∧ bus.Moves subscription later ∧
      bus.outstanding subscription = payload :: after.outstanding later := by
  obtain ⟨subscription, found, attends, ready, rfl⟩ := serve?_eq_some served
  refine ⟨subscription, bus.begun subscription, found, by simp [moved, found],
    moves_begun ready, ?_⟩
  rw [outstanding_of_attends attends, ready, outstanding, begun, Bool.or_true, if_pos rfl]
  rfl

theorem waiting_serve (served : bus.serve? id = some (payload, after)) :
    bus.waiting id = payload :: after.waiting id := by
  obtain ⟨subscription, later, found, found', _, front⟩ := outstanding_serve served
  rw [waiting_of_some found, waiting_of_some found', front]

/-- A worker takes nothing that waits for another subscription. -/
theorem waiting_serve_of_ne (served : bus.serve? id = some (payload, after))
    {other : SubscriptionId} (apart : id ≠ other) : after.waiting other = bus.waiting other := by
  obtain ⟨subscription, found, _, _, rfl⟩ := serve?_eq_some served
  have elsewhere := SubscriptionId.number_ne apart
  have same : (bus.moved id (bus.lagged + bus.missed subscription) bus.begun).subscriptions[
      other.number]? = bus.subscriptions[other.number]? := by
    simp [moved, elsewhere]
  rw [waiting, waiting, same]
  rfl

/-- Nothing comes to wait for any subscription when a worker takes a message. -/
theorem dwindles_serve (served : bus.serve? id = some (payload, after)) {number : Nat}
    {subscription : Subscription} (found : bus.subscriptions[number]? = some subscription) :
    ∃ later : Subscription, after.subscriptions[number]? = some later ∧
      bus.Dwindles after subscription later := by
  by_cases same : id.number = number
  · subst same
    obtain ⟨_, later, there, found', moves, front⟩ := outstanding_serve served
    cases there.symm.trans found
    exact ⟨later, found', moves.topic, moves.channel, front ▸ List.sublist_cons_self _ _⟩
  · obtain ⟨_, _, _, _, rfl⟩ := serve?_eq_some served
    exact ⟨subscription, by simp [moved, same, found], rfl, rfl, List.Sublist.refl _⟩

/-- On a bus that goes on, a worker can take what waits for its subscription. -/
theorem serve?_isSome (goesOn : bus.goesOn = true) (waits : bus.waiting id ≠ []) :
    (bus.serve? id).isSome = true := by
  unfold waiting at waits
  split at waits
  · rename_i subscription found
    rw [← taken_eq_outstanding goesOn] at waits
    have first : ((bus.serve? id).map (·.1)).isSome = true := by
      rw [serve?_of_found found]
      exact List.isSome_head?.mpr waits
    rwa [Option.isSome_map] at first
  · exact absurd rfl waits

end Serving

/-- What is sent goes to the end of what waits on its channel, and nowhere else. -/
theorem outstanding_sent {bus : Bus} (bound : bus.Bound) (id : PublicationId)
    (publication : Publication) (payload : Bytes) {subscription : Subscription}
    (member : subscription ∈ bus.subscriptions) :
    if publication.channel = subscription.channel then
      ((bus.sent id publication payload).outstanding subscription).Sublist
          (bus.outstanding subscription ++ [payload]) ∧
        (subscription.isOpen = true →
          (bus.channel subscription.channel).behind subscription.position <
            (bus.channel subscription.channel).capacity →
          (bus.sent id publication payload).outstanding subscription =
            bus.outstanding subscription ++ [payload])
    else (bus.sent id publication payload).outstanding subscription =
      bus.outstanding subscription := by
  obtain ⟨there, passed⟩ := bound.subscriptions subscription member
  unfold outstanding ready
  rw [channel_sent _ _ _ _ there]
  by_cases shared : publication.channel = subscription.channel
  · obtain ⟨fits, exact⟩ := Channel.outstandingFrom_send
      (bus.channel subscription.channel) payload passed
    rw [if_pos shared, if_pos shared]
    constructor
    · split
      · rw [List.append_assoc]
        exact fits.append_left _
      · exact List.nil_sublist _
    · intro isOpen room
      rw [isOpen, Bool.true_or, if_pos rfl, if_pos rfl, List.append_assoc, exact room]
  · rw [if_neg shared, if_neg shared]

/-- An open publication on the channel of a subscription is on its topic. -/
theorem Bound.topic_eq {bus : Bus} (bound : bus.Bound) {publication : Publication}
    (member : publication ∈ bus.publications) (isOpen : publication.isOpen = true)
    {subscription : Subscription} (member' : subscription ∈ bus.subscriptions)
    (shared : publication.channel = subscription.channel) :
    publication.topic = subscription.topic := by
  obtain ⟨topic, found, uses⟩ := bound.publication_topic member isOpen
  exact bound.own subscription member' found (uses.trans shared)

/-- Every subscription stays bound to its topic, and what is sent on the topic
comes after everything that waits for it.  Nothing is lost while the channel has
room. -/
def Carries (before after : Bus) (sent : String → List Bytes) : Prop :=
  ∀ (id : SubscriptionId) (subscription : Subscription),
    before.subscriptions[id.number]? = some subscription →
    ∃ later : Subscription, after.subscriptions[id.number]? = some later ∧
      later.topic = subscription.topic ∧
      (after.waiting id).Sublist (before.waiting id ++ sent subscription.topic) ∧
      (later.isOpen = true → subscription.isOpen = true ∧
        ((sent subscription.topic ≠ [] → before.hasRoom id) →
          after.waiting id = before.waiting id ++ sent subscription.topic))

/-- Where nothing is sent, nothing is added. -/
theorem Keeps.carries {bus after : Bus} (keeps : bus.Keeps after) :
    bus.Carries after fun _ => [] := by
  intro id subscription found
  obtain ⟨later, found', dwindles, same⟩ := keeps _ _ found
  rw [waiting_of_some found, waiting_of_some found', List.append_nil]
  exact ⟨later, found', dwindles.topic, dwindles.fewer,
    fun isOpen => (same isOpen).imp_right fun same _ => same⟩

/-- A payload that is sent on an open publication reaches the subscriptions to
its topic. -/
theorem Bound.carries_sent {bus : Bus} (bound : bus.Bound) (id : PublicationId)
    {publication : Publication} (member : publication ∈ bus.publications)
    (isOpen : publication.isOpen = true) (payload : Bytes) :
    bus.Carries (bus.sent id publication payload) fun topic =>
      if publication.topic = topic then [payload] else [] := by
  intro receiver subscription found
  have found' : (bus.sent id publication payload).subscriptions[receiver.number]? =
      some subscription := by
    rwa [subscriptions_sent]
  have member' := List.mem_of_getElem? found
  have added := outstanding_sent bound id publication payload member'
  rw [waiting_of_some found, waiting_of_some found']
  refine ⟨subscription, found', rfl, ?_⟩
  dsimp only
  by_cases shared : publication.channel = subscription.channel
  · rw [if_pos shared] at added
    rw [if_pos (bound.topic_eq member isOpen member' shared)]
    exact ⟨added.1, fun isOpen' => ⟨isOpen', fun room =>
      added.2 isOpen' (room (List.cons_ne_nil _ _) _ found)⟩⟩
  · -- a subscription that was closed may be to a topic that was opened again
    rw [if_neg shared] at added
    rw [added]
    refine ⟨List.sublist_append_left _ _, fun isOpen' => ⟨isOpen', fun _ => ?_⟩⟩
    have other := mt (bound.channel_eq_iff member isOpen member' isOpen').mpr shared
    rw [if_neg other, List.append_nil]

end Bus

end TopicBridge
