import TopicBridge.Proofs.Bus.Hearing
import TopicBridge.Proofs.Bus.Stream

/-!
# What a subscription is delivered over its life

From the moment at which it is opened until its worker ends, a subscription is
handed first the message that was left with its topic, and then messages that were
sent for it meanwhile, in the order in which they were sent.  What it is not handed
it skips, and it skips only what its channel no longer keeps.
-/

namespace TopicBridge

namespace Bus

/-! ## Staying in place -/

/-- A subscription stays where it is in its channel, and nothing is sent there. -/
def Stays (bus after : Bus) (id : SubscriptionId) : Prop :=
  ∀ subscription : Subscription, bus.subscriptions[id.number]? = some subscription →
    ∃ later : Subscription, after.subscriptions[id.number]? = some later ∧
      later.replay = subscription.replay ∧ later.position = subscription.position ∧
      after.channel later.channel = bus.channel subscription.channel

namespace Stays

variable {bus after : Bus} {id : SubscriptionId}

/-- What happens beside the subscriptions and the channels moves nobody. -/
theorem of_same (subscriptions : after.subscriptions = bus.subscriptions)
    (channels : after.channels = bus.channels) : Stays bus after id := by
  intro subscription found
  exact ⟨subscription, by rw [subscriptions, found], rfl, rfl, by rw [channel, channel, channels]⟩

/-- A change to one subscription that leaves it in place moves nobody. -/
theorem of_modify {own : SubscriptionId} {change : Subscription → Subscription}
    (subscriptions : after.subscriptions = bus.subscriptions.modify own.number change)
    (channels : after.channels = bus.channels)
    (stays : own = id → ∀ s : Subscription, (change s).replay = s.replay ∧
      (change s).position = s.position ∧ (change s).channel = s.channel) :
    Stays bus after id := by
  intro subscription found
  rw [subscriptions, List.getElem?_modify, found]
  by_cases here : own = id
  · obtain ⟨replay, position, same⟩ := stays here subscription
    refine ⟨change subscription, by simp [here], replay, position, ?_⟩
    rw [same, channel, channel, channels]
  · refine ⟨subscription, by simp [SubscriptionId.number_ne here], rfl, rfl, ?_⟩
    rw [channel, channel, channels]

/-- Channels and subscriptions that are added move nobody. -/
theorem of_append {more : List Channel} (channels : after.channels = bus.channels ++ more)
    (subscriptions : bus.subscriptions <+: after.subscriptions)
    (there : ∀ subscription, bus.subscriptions[id.number]? = some subscription →
      subscription.channel.number < bus.channels.length) : Stays bus after id := by
  intro subscription found
  obtain ⟨others, same⟩ := subscriptions
  refine ⟨subscription, ?_, rfl, rfl, ?_⟩
  · rw [← same, List.getElem?_append_left (List.getElem?_eq_some_iff.mp found).1, found]
  · rw [channel, channel, channels, channel_append _ _ (there subscription found)]

end Stays

/-- No channel is ever taken away. -/
theorem length_channels_act (bus : Bus) (action : Action) :
    bus.channels.length ≤ (bus.act action).channels.length := by
  have does := bus.does action
  generalize bus.act action = after at does ⊢
  cases does with
  | advertised isOpen answer binds | subscribed isOpen answer binds =>
      obtain ⟨more, longer, _⟩ := binds.channels_keep
      refine Nat.le_trans ?_ (Nat.le_of_eq (congrArg List.length longer).symm)
      exact List.length_append ▸ Nat.le_add_right _ _
  | published found isOpen => exact Nat.le_of_eq (by rw [channels_sent, List.length_modify])
  | withdrawn found isOpen => exact Nat.le_of_eq (by rw [withdraw_frame])
  | cancelled found isOpen => exact Nat.le_of_eq (by rw [cancel_frame])
  | _ => exact Nat.le_refl _

namespace Level

variable {catchup delivered window : List Bytes} {capacity skipped : Nat} {channel : Channel}
  {subscription later : Subscription}

theorem sent (level : Level catchup capacity delivered skipped window channel subscription)
    (payload : Bytes) :
    Level catchup capacity delivered skipped (window ++ [payload]) (channel.send payload)
      subscription where
  replay := level.replay
  capacity := level.capacity
  place := by
    obtain ⟨earlier, history, position⟩ := level.place
    refine ⟨earlier, ?_, position⟩
    change payload :: channel.history = _
    rw [List.reverse_append, history]
    rfl

/-- All that counts is the place. -/
theorem congr (level : Level catchup capacity delivered skipped window channel subscription)
    (replay : later.replay = subscription.replay)
    (position : later.position = subscription.position) :
    Level catchup capacity delivered skipped window channel later where
  replay := replay ▸ level.replay
  capacity := level.capacity
  place := position ▸ level.place

end Level

/-! ## Every step and every run -/

/-- A subscription and what it was handed, what it skipped, and what was sent for
it since it was opened. -/
structure Follows (id : SubscriptionId) (name : String) (catchup : List Bytes) (capacity : Nat)
    (past : List Moment) (bus : Bus) : Prop where
  streamed : Streamed catchup (delivered id past) (skippedBy id past) (window id name past)
  listener : ∃ subscription, bus.subscriptions[id.number]? = some subscription ∧
    subscription.topic = name ∧ subscription.channel.number < bus.channels.length ∧
    (bus.hears id = true → Level catchup capacity (delivered id past) (skippedBy id past)
      (window id name past) (bus.channel subscription.channel) subscription)

namespace Follows

variable {id : SubscriptionId} {name : String} {catchup : List Bytes} {capacity : Nat}
  {past : List Moment} {bus after : Bus} {action : Action}

/-- What is recorded at a moment is added to what was recorded before. -/
theorem advance (follows : Follows id name catchup capacity past bus)
    (acted : bus.act action = after) {messages sent : List Bytes} {more : Nat}
    (handed : ofSubscription id (bus.handed action) = messages)
    (skips : (ofSubscription id (bus.skips action)).sum = more)
    (sends : Moment.reaching ⟨bus, action⟩ id name = sent)
    (streamed : Streamed catchup (delivered id past ++ messages) (skippedBy id past + more)
      (window id name past ++ sent))
    (level : ∀ later, after.subscriptions[id.number]? = some later → after.hears id = true →
      Level catchup capacity (delivered id past ++ messages) (skippedBy id past + more)
        (window id name past ++ sent) (after.channel later.channel) later) :
    Follows id name catchup capacity (past ++ [⟨bus, action⟩]) after := by
  subst handed skips sends acted
  obtain ⟨subscription, found, topic, there, _⟩ := follows.listener
  obtain ⟨later, found', topic', channel, _⟩ := bus.subscription_act action found
  rw [← window_append] at streamed level
  refine ⟨by rw [delivered_append, skippedBy_append]; exact streamed, later, found',
    topic'.trans topic, ?_, fun hears => ?_⟩
  · rw [channel]
    exact Nat.lt_of_lt_of_le there (bus.length_channels_act action)
  · rw [delivered_append, skippedBy_append]
    exact level later found' hears

/-- Nothing happens to a subscription. -/
theorem quiet (follows : Follows id name catchup capacity past bus)
    (acted : bus.act action = after)
    (handed : ofSubscription id (bus.handed action) = [])
    (skips : (ofSubscription id (bus.skips action)).sum = 0)
    (sends : Moment.reaching ⟨bus, action⟩ id name = [])
    (stays : bus.hears id = true → Stays bus after id) :
    Follows id name catchup capacity (past ++ [⟨bus, action⟩]) after := by
  refine follows.advance acted handed skips sends ?_ fun later found hears => ?_
  · simpa using follows.streamed
  · obtain ⟨subscription, found', _, _, level⟩ := follows.listener
    have heard := bus.hears_act action found' (acted ▸ hears)
    obtain ⟨same, there, replay, position, channel⟩ := stays heard subscription found'
    cases found.symm.trans there
    rw [channel]
    simpa using (level heard).congr replay position

theorem reaching_of_none {id : SubscriptionId} {name : String} (none : bus.sends? action = none)
    (feeds : bus.feeds id action = []) : Moment.reaching ⟨bus, action⟩ id name = [] := by
  rw [Moment.reaching, Moment.heard, Moment.sends?, Moment.overheard, none, feeds]
  simp

section Hearing

variable {subscription : Subscription}
  (follows : Follows id subscription.topic catchup capacity past bus)
  (found : bus.subscriptions[id.number]? = some subscription) (hears : bus.hears id = true)

include found

/-- What is sent reaches a subscription on its channel. -/
theorem reaching_of_published (orderly : bus.Orderly) (hears : bus.hears id = true)
    {publisher : PublicationId} {publication : Publication}
    (found' : bus.publications[publisher.number]? = some publication)
    (sending : publication.isOpen = true) (payload : Bytes) :
    Moment.reaching ⟨bus, .publish publisher payload⟩ id subscription.topic =
      if publication.channel = subscription.channel then [payload] else [] := by
  rw [Moment.reaching, Moment.heard, Moment.overheard]
  cases listens : bus.listens id with
  | true =>
      obtain ⟨running, isOpen⟩ := open_of_listens found listens
      have share := (orderly.bound running).channel_eq_iff (List.mem_of_getElem? found') sending
        (List.mem_of_getElem? found) isOpen
      rw [Moment.sends?, sends?_of_open found' sending]
      by_cases same : publication.topic = subscription.topic <;> simp [same, share]
  | false =>
      have delivering : bus.isDelivering id = true := by
        rwa [Bus.hears, listens, Bool.false_or] at hears
      simp [delivering, feeds, found, found', sending]

include follows

/-- A payload that is sent on the channel comes to the end of the window. -/
theorem published (orderly : bus.Orderly) (hears : bus.hears id = true)
    {publisher : PublicationId} {publication : Publication}
    (found' : bus.publications[publisher.number]? = some publication)
    (sending : publication.isOpen = true) {payload : Bytes}
    (acted : bus.act (.publish publisher payload) = bus.sent publisher publication payload) :
    Follows id subscription.topic catchup capacity
      (past ++ [⟨bus, .publish publisher payload⟩]) (bus.sent publisher publication payload) := by
  obtain ⟨_, there', _, there, level⟩ := follows.listener
  cases found.symm.trans there'
  have handed : ofSubscription id (bus.handed (.publish publisher payload)) = [] := rfl
  have skips : (ofSubscription id (bus.skips (.publish publisher payload))).sum = 0 := rfl
  have sends := reaching_of_published found orderly hears found' sending payload
  have channel := bus.channel_sent publisher publication payload there
  by_cases same : publication.channel = subscription.channel
  · rw [if_pos same] at sends channel
    refine follows.advance acted handed skips sends ?_ fun later there' _ => ?_
    · simpa using follows.streamed.sent [payload]
    · rw [subscriptions_sent, found] at there'
      cases there'
      rw [channel]
      simpa using (level hears).sent payload
  · rw [if_neg same] at sends channel
    refine follows.quiet acted handed skips sends fun _ own found'' => ?_
    cases found.symm.trans found''
    exact ⟨subscription, by rw [subscriptions_sent, found], rfl, rfl, channel⟩

variable (level : Level catchup capacity (delivered id past) (skippedBy id past)
    (window id subscription.topic past) (bus.channel subscription.channel) subscription)

include level

/-- The next message is handed out. -/
theorem served (single : catchup.length ≤ 1) {payload : Bytes} {rest : List Bytes}
    (attends : bus.attends subscription = true)
    (ready : bus.ready subscription = payload :: rest)
    (acted : bus.act (.serve id) =
      bus.moved id (bus.lagged + bus.missed subscription) bus.begun) :
    Follows id subscription.topic catchup capacity (past ++ [⟨bus, .serve id⟩])
      (bus.moved id (bus.lagged + bus.missed subscription) bus.begun) := by
  obtain ⟨handed, skips⟩ := served_of_subscription found
  obtain ⟨streamed, place⟩ := level.passed follows.streamed single ready
  rw [taken, if_pos attends, ready] at handed skips
  rw [if_neg (List.cons_ne_nil _ _)] at skips
  refine follows.advance acted handed (congrArg List.sum skips) (reaching_of_none rfl rfl) ?_ ?_
  · simpa using streamed
  · intro later found' _
    have moves := moves_begun ready
    have same : (bus.moved id (bus.lagged + bus.missed subscription)
        bus.begun).subscriptions[id.number]? = some (bus.begun subscription) := by
      simp [moved, found]
    cases same.symm.trans found'
    rw [moves.channel]
    change Level _ _ _ _ _ (bus.channel subscription.channel) _
    simpa using (place.congr rfl rfl : Level _ _ _ _ _ _ (bus.begun subscription))

/-- Everything that is ready is handed out. -/
theorem servedAll (single : catchup.length ≤ 1) (attends : bus.attends subscription = true) :
    Follows id subscription.topic catchup capacity (past ++ [⟨bus, .serveAll⟩])
      bus.arrivals.2 := by
  obtain ⟨handed, skips⟩ := arrivals_of_subscription found
  obtain ⟨streamed, place⟩ := level.caughtUp follows.streamed single
  rw [taken, if_pos attends] at handed
  rw [overrun, if_pos attends] at skips
  refine follows.advance rfl handed (congrArg List.sum skips) (reaching_of_none rfl rfl) ?_ ?_
  · simpa using streamed
  · intro later found' _
    have same : bus.arrivals.2.subscriptions[id.number]? = some (bus.caughtUp subscription) := by
      refine (List.getElem?_map ..).trans ?_
      rw [found, Option.map_some, settled, if_pos attends]
    cases same.symm.trans found'
    change Level _ _ _ _ _ (bus.channel subscription.channel) _
    simpa using place

end Hearing

/-- The records follow the subscription through every action. -/
theorem step (follows : Follows id name catchup capacity past bus) (orderly : bus.Orderly)
    (single : catchup.length ≤ 1) (action : Action) :
    Follows id name catchup capacity (past ++ [⟨bus, action⟩]) (bus.act action) := by
  obtain ⟨subscription, found, rfl, there, level⟩ := follows.listener
  cases hears : bus.hears id with
  | false =>
      obtain ⟨handed, skips, sends⟩ := silent_of_not_hears found hears subscription.topic action
      refine follows.quiet rfl handed skips sends fun still => ?_
      cases hears.symm.trans still
  | true =>
      have level := level hears
      have there : ∀ own, bus.subscriptions[id.number]? = some own →
          own.channel.number < bus.channels.length := by
        intro own found'
        cases found.symm.trans found'
        exact there
      have does := bus.does action
      generalize acted : bus.act action = after at does ⊢
      cases does with
      | advertised going answer binds =>
          obtain ⟨more, longer, _⟩ := binds.channels_keep
          exact follows.quiet acted rfl rfl (reaching_of_none rfl rfl) fun _ =>
            .of_append longer (List.prefix_refl _) there
      | subscribed going answer binds =>
          obtain ⟨more, longer, _⟩ := binds.channels_keep
          exact follows.quiet acted rfl rfl (reaching_of_none rfl rfl) fun _ =>
            .of_append longer (List.prefix_append _ _) there
      | published found' sending =>
          exact follows.published found orderly hears found' sending acted
      | notPublished closed =>
          exact follows.quiet acted rfl rfl
            (reaching_of_none (sends?_of_closed closed _) (feeds_of_closed closed _ _)) fun _ =>
              .of_same rfl rfl
      | withdrawn found' sending =>
          rw [withdraw_frame] at acted ⊢
          exact follows.quiet acted rfl rfl (reaching_of_none rfl rfl) fun _ => .of_same rfl rfl
      | @cancelled other listener found' isOpen' =>
          have channels : (bus.cancel other).channels = bus.channels := by rw [cancel_frame]
          have closes : (bus.cancel other).subscriptions =
              bus.subscriptions.modify other.number fun s => { s with isOpen := false } := by
            rw [cancel_of_open found' isOpen']
          exact follows.quiet acted rfl rfl (reaching_of_none rfl rfl) fun _ =>
            .of_modify closes channels fun _ _ => ⟨rfl, rfl, rfl⟩
      | @served other listener payload found' attends ready served =>
          by_cases own : other = id
          · subst own
            cases found.symm.trans found'
            exact follows.served found level single attends ready acted
          · obtain ⟨handed, skips⟩ := served_of_other own
            exact follows.quiet acted handed (congrArg List.sum skips) (reaching_of_none rfl rfl)
              fun _ => .of_modify rfl rfl fun same => absurd same own
      | @notServed other none =>
          have handed : bus.handed (.serve other) = [] := by rw [handed, none]; rfl
          have skips : bus.skips (.serve other) = [] := by rw [skips, none]; split <;> rfl
          exact follows.quiet acted (by rw [handed]; rfl) (by rw [skips]; rfl)
            (reaching_of_none rfl rfl) fun _ => .of_same rfl rfl
      | paused found' =>
          exact follows.quiet acted rfl rfl (reaching_of_none rfl rfl) fun _ =>
            .of_modify rfl rfl fun _ _ => ⟨rfl, rfl, rfl⟩
      | servedAll =>
          cases attends : bus.attends subscription with
          | true => exact follows.servedAll found level single attends
          | false =>
              obtain ⟨handed, skips⟩ := handed_of_idle found .serveAll fun _ => attends
              refine follows.quiet acted handed skips (reaching_of_none rfl rfl) fun _ own found' => ?_
              cases found.symm.trans found'
              refine ⟨subscription, (List.getElem?_map ..).trans ?_, rfl, rfl, rfl⟩
              rw [found, Option.map_some, settled, attends]
              rfl
      | _ =>
          exact follows.quiet acted rfl rfl (reaching_of_none rfl rfl) fun _ => .of_same rfl rfl

end Follows

end Bus

end TopicBridge
