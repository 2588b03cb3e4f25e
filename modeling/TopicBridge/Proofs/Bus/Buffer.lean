import Mathlib.Data.List.Infix
import Mathlib.Data.List.Induction
import TopicBridge.Proofs.Bus.Streams

/-!
# The buffer of a subscription

A subscription asks for a buffer when it is opened, but it listens to the channel of
its topic, and that was made for whoever opened the topic.  As long as the messages
that are outstanding for it fit into the channel, none of them is skipped.  So a
buffer that was asked for is to be had if and only if the channel has as much room,
as it does for the one who opened the topic.
-/

namespace TopicBridge

namespace Bus

/-! ## While everything fits -/

section Fitting

variable {id : SubscriptionId} {name : String} {catchup : List Bytes} {capacity : Nat}
  {past : List Moment} {bus : Bus}

/-- Nothing is lost as long as the channel keeps everything that is outstanding. -/
theorem Stream.waits_of_fits (stream : Stream id name catchup capacity past bus)
    (fits : (unserved id name catchup past).length ≤ capacity) (listens : bus.listens id = true) :
    bus.waiting id =
      catchup.drop (delivered id past).length ++ unserved id name catchup past := by
  rw [stream.waits listens, stream.ready (hears_of_listens listens), Nat.sub_eq_zero_of_le fits,
    List.drop_zero]

/-- Nothing is skipped either, whatever happens next. -/
theorem Stream.skips_of_fits (stream : Stream id name catchup capacity past bus)
    (fits : (unserved id name catchup past).length ≤ capacity) (action : Action) :
    (ofSubscription id (bus.skips action)).sum = 0 := by
  have none := Nat.sub_eq_zero_of_le fits
  by_cases served : action = .serveAll ∨ action = .serve id
  · cases attends : !bus.isHeld && bus.hears id with
    | false => exact (stream.silent action fun _ => attends).2
    | true =>
        obtain ⟨goesOn, hears⟩ := Bool.and_eq_true_iff.mp attends
        rw [Bool.not_eq_true'] at goesOn
        rcases served with rfl | rfl
        · rw [(stream.all hears goesOn).2, none]
        · rw [(stream.next hears goesOn).2, none, ite_self]
  · exact (stream.silent action fun own => absurd own served).2

end Fitting

/-- A subscription has a buffer for a number of messages: it skips nothing as long as
no more than that are outstanding for it.  The bus is the one on which it was just
opened. -/
def Buffers (opened : Bus) (id : SubscriptionId) (name : String) (catchup : List Bytes)
    (room : Nat) : Prop :=
  ∀ later, (∀ sooner, sooner <+: later →
      (unserved id name catchup (opened.moments sooner)).length ≤ room) →
    skippedBy id (opened.moments later) = 0

section Room

variable {opened : Bus} {id : SubscriptionId} {name : String} {catchup : List Bytes}
  {capacity : Nat}

/-- The channel is a buffer for as many messages as it keeps, and for fewer. -/
theorem buffers_of_le (streams : ∀ later,
      Stream id name catchup capacity (opened.moments later) (opened.acts later))
    {room : Nat} (fits : room ≤ capacity) : opened.Buffers id name catchup room := by
  intro later within
  induction later using List.reverseRecOn with
  | nil => rfl
  | append_singleton earlier action ih =>
      have before := within earlier (List.prefix_append _ _)
      rw [moments_append, moments, moments, skippedBy_append,
        ih fun sooner ahead => within sooner (ahead.trans (List.prefix_append _ _)), Nat.zero_add]
      exact (streams earlier).skips_of_fits (Nat.le_trans before fits) action

/-- What was sent for a subscription only grows. -/
theorem length_window_le {bus : Bus} {sooner later : List Action} (ahead : sooner <+: later) :
    (window id name (bus.moments sooner)).length ≤ (window id name (bus.moments later)).length := by
  obtain ⟨rest, rfl⟩ := ahead
  rw [moments_append, window, window, List.flatMap_append, List.length_append]
  exact Nat.le_add_right _ _

/-- What is sent one after the other on an open publication is outstanding for a
subscription that is not served. -/
theorem outstanding_replicate {bus : Bus} {subscription : Subscription}
    (found : bus.subscriptions[id.number]? = some subscription) (listens : bus.listens id = true)
    {publisher : PublicationId} {publication : Publication}
    (found' : bus.publications[publisher.number]? = some publication)
    (isOpen : publication.isOpen = true) (payload : Bytes) (count : Nat) :
    delivered id (bus.moments (List.replicate count (.publish publisher payload))) = [] ∧
      skippedBy id (bus.moments (List.replicate count (.publish publisher payload))) = 0 ∧
      window id publication.topic
          (bus.moments (List.replicate count (.publish publisher payload))) =
        List.replicate count payload := by
  induction count generalizing bus with
  | zero => exact ⟨rfl, rfl, rfl⟩
  | succ count ih =>
      have acted : bus.act (.publish publisher payload) =
          bus.sent publisher publication payload := publish_of_open found' isOpen payload
      have reaching : Moment.reaching ⟨bus, .publish publisher payload⟩ id publication.topic =
          [payload] := by
        rw [Moment.reaching, Moment.heard, Moment.overheard, Moment.sends?,
          sends?_of_open found' isOpen]
        simp [listens]
      have still : (bus.sent publisher publication payload).listens id = true := by
        rw [← acted, bus.listens_act _ found, listens]
        rfl
      obtain ⟨delivered_eq, skipped_eq, window_eq⟩ :=
        @ih (bus.sent publisher publication payload) (by rw [subscriptions_sent, found]) still
          (by rw [publications_sent, found'])
      rw [List.replicate_succ, moments, acted]
      refine ⟨delivered_eq, skipped_eq, ?_⟩
      rw [window, List.flatMap_cons, reaching, List.replicate_succ]
      exact congrArg (payload :: ·) window_eq

/-- A publication is opened on a topic and sends a number of messages, and then
nothing is held back. -/
def burst (bus : Bus) (name typeName : String) (count : Nat) : List Action :=
  .advertise name typeName {} :: List.replicate count (.publish ⟨bus.publications.length⟩ []) ++
    [.release]

/-- Everything that is sent in a burst is outstanding after it. -/
theorem outstanding_burst {bus : Bus} (listens : bus.listens id = true) {topic : Topic}
    (held : Dict.get? bus.topics name = some topic) (count : Nat) :
    delivered id (bus.moments (bus.burst name topic.typeName count)) = [] ∧
      skippedBy id (bus.moments (bus.burst name topic.typeName count)) = 0 ∧
      window id name (bus.moments (bus.burst name topic.typeName count)) =
        List.replicate count [] := by
  have ⟨running, open'⟩ := Bool.and_eq_true_iff.mp listens
  have isOpen : bus.isClosed = false := by simpa using running
  obtain ⟨subscription, found, _⟩ := (Option.any_eq_true _ _).mp open'
  have bind : bus.bind name topic.typeName ({} : AdvertiseOptions).queueSize = .ok (topic, bus) :=
    (bind_of_some held).trans (if_pos rfl)
  have acted : bus.act (.advertise name topic.typeName {}) =
      bus.advertised name topic bus.channels false := by
    rw [act, advertise_of_bind isOpen bind]
  have sender : (bus.advertised name topic bus.channels false).publications[
      bus.publications.length]? = some ⟨name, topic.channel, false, true⟩ :=
    List.getElem?_concat_length
  have listener : (bus.advertised name topic bus.channels false).subscriptions[id.number]? =
      some subscription := found
  have attends : (bus.advertised name topic bus.channels false).listens id = true := listens
  obtain ⟨delivered_eq, skipped_eq, window_eq⟩ :=
    @outstanding_replicate id _ _ listener attends ⟨bus.publications.length⟩ _ sender rfl [] count
  rw [burst, List.cons_append, moments, acted, moments_append, moments, moments]
  refine ⟨?_, ?_, ?_⟩
  · change delivered id (_ ++ _) = []
    rw [delivered_append, delivered_eq]
    rfl
  · change skippedBy id (_ ++ _) = 0
    rw [skippedBy_append, skipped_eq]
    rfl
  · rw [window, List.flatMap_cons, Follows.reaching_of_none rfl rfl]
    change window id name (_ ++ _) = _
    rw [window_append, window_eq, Follows.reaching_of_none rfl rfl, List.append_nil]

/-- After a burst a subscription is listening still, and it may be served. -/
theorem attends_burst {typeName : String} {count : Nat}
    (stream : Stream id name catchup capacity (opened.moments (opened.burst name typeName count))
      (opened.acts (opened.burst name typeName count))) :
    (opened.acts (opened.burst name typeName count)).hears id = true ∧
      (opened.acts (opened.burst name typeName count)).isHeld = false := by
  have listens : (opened.acts (opened.burst name typeName count)).listens id = true := by
    apply stream.listens.mpr
    rw [moments_actions]
    simp [burst, List.mem_replicate]
  refine ⟨hears_of_listens listens, ?_⟩
  rw [burst, acts_append]
  rfl

/-- One message more than the channel keeps is too many. -/
theorem le_of_buffers (streams : ∀ later,
      Stream id name catchup capacity (opened.moments later) (opened.acts later))
    {topic : Topic} (held : Dict.get? opened.topics name = some topic) {room : Nat}
    (buffers : opened.Buffers id name catchup room) : room ≤ capacity := by
  by_contra small
  have listens : opened.listens id = true :=
    (streams []).listens.mpr ⟨List.not_mem_nil, List.not_mem_nil⟩
  obtain ⟨delivered_eq, skipped_eq, window_eq⟩ := outstanding_burst listens held (capacity + 1)
  have stream := streams (opened.burst name topic.typeName (capacity + 1))
  obtain ⟨attends, goesOn⟩ := attends_burst stream
  generalize opened.burst name topic.typeName (capacity + 1) = flood at *
  have skips := (stream.all attends goesOn).2
  rw [unserved, delivered_eq, skipped_eq, window_eq] at skips
  have within : ∀ sooner, sooner <+: flood ++ [.serveAll] →
      (unserved id name catchup (opened.moments sooner)).length ≤ room := by
    intro sooner ahead
    have longest : (window id name (opened.moments sooner)).length ≤
        (window id name (opened.moments (flood ++ [.serveAll]))).length := length_window_le ahead
    rw [moments_append, moments, moments, window_append, window_eq, Follows.reaching_of_none rfl rfl,
      List.append_nil, List.length_replicate] at longest
    rw [unserved, List.length_drop]
    omega
  have nothing := buffers _ within
  rw [moments_append, moments, moments, skippedBy_append, skipped_eq, Moment.skips, skips]
    at nothing
  simp [live] at nothing

end Room

/-! ## Every run -/

/-- A topic that was not in the table is opened with the queue size of the subscription
that comes first. -/
theorem opens?_subscribe {bus opened : Bus} {name typeName : String} {options : SubscribeOptions}
    {id : SubscriptionId} (absent : bus.topicType? name = none)
    (subscribed : bus.subscribe name typeName options = .ok (id, opened)) :
    Moment.opens? ⟨bus, .subscribe name typeName options⟩ name = some options.queueSize := by
  have there : (opened.topicType? name).isSome = true := by
    obtain ⟨_, topic, channels, _, rfl⟩ := subscribe_eq_ok subscribed
    rw [topicType?, Bus.subscribed, Dict.get?_insert_self]
    rfl
  rw [Moment.opens?, act, subscribed, if_pos ⟨by rw [absent]; rfl, there⟩]
  rfl

/-- A subscription has the buffer that it asks for if and only if the channel of its
topic has as much room.  That is decided by the queue size with which the topic was
opened, which is its own if it opened the topic. -/
theorem buffers_iff (config : BusConfig) {earlier : List Action} {name typeName : String}
    {options : SubscribeOptions} {id : SubscriptionId} {opened : Bus}
    (subscribed : (acts { config } earlier).subscribe name typeName options = .ok (id, opened)) :
    ∃ opener capacity,
      openedWith? (moments { config } (earlier ++ [.subscribe name typeName options])) name =
        some opener ∧
      ((acts { config } earlier).topicType? name = none → opener = options.queueSize) ∧
      IsLeastPowerOfTwo (max (max opener config.minTopicCapacity) 1) capacity ∧
      (∀ room, opened.Buffers id name ((acts { config } earlier).latched? name).toList room ↔
        room ≤ capacity) ∧
      ∀ later, (unserved id name ((acts { config } earlier).latched? name).toList
          (opened.moments later)).length ≤ capacity →
        ((opened.acts later).listens id = true → (opened.acts later).waiting id =
          ((acts { config } earlier).latched? name).toList.drop
              (delivered id (opened.moments later)).length ++
            unserved id name ((acts { config } earlier).latched? name).toList
              (opened.moments later)) ∧
          ∀ action, (ofSubscription id ((opened.acts later).skips action)).sum = 0 := by
  obtain ⟨opener, openedWith, streams⟩ := streams_of_subscribed config subscribed
  obtain ⟨topic, held, _, _⟩ :=
    (orderly_roomy_acts config earlier).1.follows_subscribed subscribed
  refine ⟨opener, _, openedWith, fun absent => ?_, Channel.isLeastPowerOfTwo _, fun room =>
    ⟨le_of_buffers streams held, buffers_of_le streams⟩, fun later fits =>
      ⟨(streams later).waits_of_fits fits, (streams later).skips_of_fits fits⟩⟩
  have opens := opens?_subscribe absent subscribed
  rw [moments_append, moments, moments, openedWith?_append, opens] at openedWith
  exact (Option.some.inj openedWith).symm

/-- A publication opens a topic with a channel for one message, and a subscription that
asks for a buffer for two messages joins it. -/
def joined : Bus :=
  acts { config := { minTopicCapacity := 1 } }
    [.advertise "/t" "A" {}, .subscribe "/t" "A" { queueSize := 2 }]

theorem subscribed_joined :
    (acts { config := { minTopicCapacity := 1 } } [.advertise "/t" "A" {}]).subscribe "/t" "A"
      { queueSize := 2 } = .ok (⟨0⟩, joined) := by
  rfl

/-- The subscription has a buffer for one message only. -/
theorem buffers_iff_joined :
    (acts { config := { minTopicCapacity := 1 } } [.advertise "/t" "A" {}]).subscribe "/t" "A"
        { queueSize := 2 } = .ok (⟨0⟩, joined) ∧
      joined.Buffers ⟨0⟩ "/t" [] 1 ∧ ¬ joined.Buffers ⟨0⟩ "/t" [] 2 := by
  obtain ⟨opener, capacity, openedWith, _, least, buffers, _⟩ :=
    buffers_iff { minTopicCapacity := 1 } subscribed_joined
  have own : openedWith? (moments { config := { minTopicCapacity := 1 } }
      [.advertise "/t" "A" {}, .subscribe "/t" "A" { queueSize := 2 }]) "/t" = some 1 := by
    decide +kernel
  cases openedWith.symm.trans own
  have single : capacity = 1 := Nat.le_antisymm (least.least 0 (Nat.le_refl _)) least.fits
  refine ⟨subscribed_joined, (buffers 1).mpr (Nat.le_of_eq single.symm), fun two => ?_⟩
  have fits := (buffers 2).mp two
  omega

/-- Two messages come in before the subscription is served, and it skips one of them
though it asked for a buffer for two. -/
theorem not_buffers_joined :
    (acts { config := { minTopicCapacity := 1 } } [.advertise "/t" "A" {}]).subscribe "/t" "A"
        { queueSize := 2 } = .ok (⟨0⟩, joined) ∧
      ¬ joined.Buffers ⟨0⟩ "/t" [] 2 := by
  refine ⟨subscribed_joined, fun buffers => ?_⟩
  have within : ∀ sooner ∈ List.inits [.publish ⟨0⟩ [1], .publish ⟨0⟩ [2], .serveAll],
      (unserved ⟨0⟩ "/t" [] (joined.moments sooner)).length ≤ 2 := by decide +kernel
  have nothing := buffers _ fun sooner ahead => within sooner ((List.mem_inits _ _).mpr ahead)
  have one : skippedBy ⟨0⟩
      (joined.moments [.publish ⟨0⟩ [1], .publish ⟨0⟩ [2], .serveAll]) = 1 := by decide +kernel
  cases nothing.symm.trans one

end Bus

end TopicBridge
