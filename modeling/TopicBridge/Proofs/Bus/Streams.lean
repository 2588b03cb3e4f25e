import TopicBridge.Proofs.Bus.Delivered

/-!
# The streams of a bus

For every list of actions and every subscription in it, what the subscription is
handed is accounted for, message by message, and the counts of the bus are the
sums over all of them.
-/

namespace TopicBridge

namespace Bus

/-! ## From the opening on -/

/-- The message that was left with a topic. -/
def latched? (bus : Bus) (name : String) : Option Bytes :=
  ((Dict.get? bus.topics name).bind (·.latched)).map (·.2)

theorem Binds.latched?_eq {bus : Bus} {name typeName : String} {topic : Topic}
    {channels : List Channel} (binds : bus.Binds name typeName topic channels) :
    bus.latched? name = topic.latched.map (·.2) := by
  cases binds with
  | found found _ => rw [latched?, found]; rfl
  | opened absent _ _ => rw [latched?, absent]; rfl

/-- A subscription starts with nothing but the message that was left with its
topic. -/
theorem Follows.start {bus : Bus} (placed : Placed bus.topics bus.channels)
    {name typeName : String} {topic : Topic} {channels : List Channel}
    (binds : bus.Binds name typeName topic channels) :
    Follows ⟨bus.subscriptions.length⟩ name (bus.latched? name).toList
      ((bus.subscribed name topic channels).channel topic.channel).capacity []
      (bus.subscribed name topic channels) := by
  have there := (binds.placed placed (rfl : topic.channel = topic.channel)).there
    (Dict.get?_insert_self _ _ _)
  refine ⟨Streamed.start _, ?_⟩
  refine ⟨_, List.getElem?_concat_length, rfl, there, fun _ => ⟨?_, rfl, _, rfl, ?_⟩⟩
  · rw [binds.latched?_eq]
    rfl
  · refine (Channel.sent_eq _).trans ?_
    simp only [live, delivered, skippedBy, ofSubscription, List.flatMap_nil, List.filterMap_nil,
      List.drop_nil, List.sum_nil, List.length_nil, Nat.add_zero]
    rfl

theorem Follows.acts {id : SubscriptionId} {name : String} {catchup : List Bytes} {capacity : Nat}
    {opened : Bus} (start : Follows id name catchup capacity [] opened) (orderly : opened.Orderly)
    (single : catchup.length ≤ 1) (later : List Action) :
    Follows id name catchup capacity (opened.moments later) (opened.acts later) :=
  (acts_induction (fun past bus => bus.Orderly ∧ Follows id name catchup capacity past bus)
    (fun action holds => ⟨holds.1.act action, holds.2.step holds.1 single action⟩) []
    ⟨orderly, start⟩ later).2

/-- The records follow a subscription from its opening on, whatever happens later. -/
theorem Orderly.follows_subscribed {bus opened : Bus} (orderly : bus.Orderly)
    {name typeName : String} {options : SubscribeOptions} {id : SubscriptionId}
    (subscribed : bus.subscribe name typeName options = .ok (id, opened)) :
    ∃ topic, Dict.get? opened.topics name = some topic ∧ topic.typeName = typeName ∧
      ∀ later, Follows id name (bus.latched? name).toList (opened.channel topic.channel).capacity
        (opened.moments later) (opened.acts later) := by
  have after := orderly.act (.subscribe name typeName options)
  rw [Bus.act, subscribed] at after
  obtain ⟨rfl, topic, channels, binds, rfl⟩ := subscribe_eq_ok subscribed
  have single : (bus.latched? name).toList.length ≤ 1 := by
    cases bus.latched? name <;> simp
  exact ⟨_, Dict.get?_insert_self bus.topics name _, binds.typeName_eq,
    (Follows.start orderly.placed binds).acts after single⟩

/-- A subscription listens until it is closed or the bus is shut down. -/
theorem listens_acts {bus : Bus} {id : SubscriptionId} {subscription : Subscription}
    (found : bus.subscriptions[id.number]? = some subscription) (actions : List Action) :
    (bus.acts actions).listens id = true ↔
      bus.listens id = true ∧ .cancel id ∉ actions ∧ .shutdown ∉ actions := by
  induction actions generalizing bus subscription with
  | nil => simp [Bus.acts]
  | cons action later ih =>
      obtain ⟨after, found', _⟩ := bus.subscription_act action found
      change ((bus.act action).acts later).listens id = true ↔ _
      rw [ih found', bus.listens_act action found]
      simp only [Bool.and_eq_true, bne_iff_ne, ne_eq, List.mem_cons, not_or]
      constructor
      · rintro ⟨⟨listens, kept, open_⟩, cancel, shutdown⟩
        exact ⟨listens, ⟨fun same => kept same.symm, cancel⟩,
          fun same => open_ same.symm, shutdown⟩
      · rintro ⟨listens, ⟨kept, cancel⟩, open_, shutdown⟩
        exact ⟨⟨listens, fun same => kept same.symm, fun same => open_ same.symm⟩, cancel,
          shutdown⟩

/-- Before it is opened, a subscription is handed nothing. -/
theorem delivered_of_unopened (bus : Bus) (actions : List Action) {id : SubscriptionId}
    (unopened : (bus.acts actions).subscriptions[id.number]? = none) :
    delivered id (bus.moments actions) = [] := by
  refine acts_induction (fun past bus => bus.subscriptions[id.number]? = none →
    delivered id past = []) ?_ [] (fun _ => rfl) actions unopened
  intro past bus action ih later
  have before : bus.subscriptions[id.number]? = none := by
    cases found : bus.subscriptions[id.number]? with
    | none => rfl
    | some subscription =>
        obtain ⟨after, found', _⟩ := bus.subscription_act action found
        cases later.symm.trans found'
  rw [delivered_append, ih before]
  exact handed_of_unopened before action

/-! ## The account of one subscription -/

/-- What was sent for a subscription and was neither handed out nor skipped. -/
def unserved (id : SubscriptionId) (name : String) (catchup : List Bytes) (past : List Moment) :
    List Bytes :=
  (window id name past).drop ((live catchup (delivered id past)).length + skippedBy id past)

/-- What is ready for a subscription. -/
def readyFor (bus : Bus) (id : SubscriptionId) : List Bytes :=
  match bus.subscriptions[id.number]? with
  | some subscription => bus.ready subscription
  | none => []

theorem readyFor_of_found {bus : Bus} {id : SubscriptionId} {subscription : Subscription}
    (found : bus.subscriptions[id.number]? = some subscription) :
    bus.readyFor id = bus.ready subscription := by
  rw [readyFor, found]

/-- The stream of a subscription: what it was handed and what it skipped in the
moments since it was opened, and what comes next. -/
structure Stream (id : SubscriptionId) (name : String) (catchup : List Bytes) (capacity : Nat)
    (past : List Moment) (bus : Bus) : Prop where
  /-- It listens until it is closed or the bus is shut down. -/
  listens : bus.listens id = true ↔
    .cancel id ∉ past.map Moment.action ∧ .shutdown ∉ past.map Moment.action
  /-- If that happens between two deliveries, then what was sent for it is what was
  sent on its topic while it listened, and from there on it gets nothing. -/
  stopped : StopsAtRest id past →
    window id name past = listened id name past ∧
      (bus.listens id = false → ∀ action, ofSubscription id (bus.handed action) = [] ∧
        (ofSubscription id (bus.skips action)).sum = 0)
  /-- It was handed the message that was left, and then messages that were sent for
  it, in order and each at most once. -/
  streamed : Streamed catchup (delivered id past) (skippedBy id past) (window id name past)
  /-- What is ready is the rest of what was left, and the most recent messages that
  its channel keeps. -/
  ready : bus.hears id = true → bus.readyFor id =
    catchup.drop (delivered id past).length ++ (unserved id name catchup past).drop
      ((unserved id name catchup past).length - capacity)
  /-- This is what waits for it as long as it listens. -/
  waits : bus.listens id = true → bus.waiting id = bus.readyFor id
  /-- Once nothing is ready, everything that was sent was handed out or skipped. -/
  level : bus.hears id = true → bus.readyFor id = [] →
    (live catchup (delivered id past)).length + skippedBy id past = (window id name past).length
  /-- When everything is handed out, it gets everything that is ready, and skips what
  its channel did not keep. -/
  all : bus.hears id = true → bus.isHeld = false →
    ofSubscription id (bus.handed .serveAll) = bus.readyFor id ∧
      (ofSubscription id (bus.skips .serveAll)).sum =
        (unserved id name catchup past).length - capacity
  /-- When it is its turn, it gets the first message that is ready.  If it has caught
  up, it skips before that what its channel did not keep. -/
  next : bus.hears id = true → bus.isHeld = false →
    ofSubscription id (bus.handed (.serve id)) = (bus.readyFor id).head?.toList ∧
      (ofSubscription id (bus.skips (.serve id))).sum =
        if (delivered id past).length < catchup.length then 0
        else (unserved id name catchup past).length - capacity
  /-- Nothing else hands it anything or makes it skip anything, and nothing at all
  while delivery is held back or once its worker has come to wait after it was
  stopped. -/
  silent : ∀ action,
    (action = .serveAll ∨ action = .serve id → (!bus.isHeld && bus.hears id) = false) →
    ofSubscription id (bus.handed action) = [] ∧ (ofSubscription id (bus.skips action)).sum = 0

/-- The account follows from where the subscription is in its channel. -/
theorem Follows.stream {id : SubscriptionId} {name : String} {catchup : List Bytes}
    {capacity : Nat} {past : List Moment} {bus : Bus}
    (follows : Follows id name catchup capacity past bus) (room : 0 < capacity)
    (listens : bus.listens id = true ↔
      .cancel id ∉ past.map Moment.action ∧ .shutdown ∉ past.map Moment.action)
    (heard : StopsAtRest id past → bus.hears id = bus.listens id ∧
      window id name past = listened id name past) :
    Stream id name catchup capacity past bus := by
  obtain ⟨streamed, subscription, found, rfl, _, level⟩ := follows
  have within := streamed.within
  have readyFor := readyFor_of_found found
  have attends := attends_eq found
  have rest : (unserved id subscription.topic catchup past).length =
      (window id subscription.topic past).length -
        ((live catchup (delivered id past)).length + skippedBy id past) := List.length_drop
  have ahead : bus.hears id = true →
      bus.ready subscription = catchup.drop (delivered id past).length ++
        (unserved id subscription.topic catchup past).drop
          ((unserved id subscription.topic catchup past).length - capacity) ∧
      bus.skipped subscription =
        (unserved id subscription.topic catchup past).length - capacity := by
    intro hears
    obtain ⟨outstanding_eq, skipped_eq⟩ := (level hears).ahead within
    rw [Bus.ready, skipped, (level hears).replay, outstanding_eq, skipped_eq, rest]
    exact ⟨rfl, rfl⟩
  have silent : ∀ action,
      (action = .serveAll ∨ action = .serve id → (!bus.isHeld && bus.hears id) = false) →
      ofSubscription id (bus.handed action) = [] ∧
        (ofSubscription id (bus.skips action)).sum = 0 := by
    intro action quiet
    exact handed_of_idle found action fun own => attends.trans (quiet own)
  refine ⟨listens, ?_, streamed, ?_, ?_, ?_, ?_, ?_, silent⟩
  · intro stops
    obtain ⟨hears, same⟩ := heard stops
    refine ⟨same, fun deaf action => silent action fun _ => ?_⟩
    rw [hears, deaf, Bool.and_false]
  · intro hears
    rw [readyFor, (ahead hears).1]
  · intro listens
    rw [readyFor, waiting_of_some found, outstanding_of_open _ (open_of_listens found listens).2]
  · intro hears nothing
    rw [readyFor, (ahead hears).1] at nothing
    have none := congrArg List.length (List.append_eq_nil_iff.mp nothing).2
    rw [List.length_drop, List.length_nil] at none
    omega
  · intro hears goesOn
    have attends : bus.attends subscription = true := by rw [attends, hears, goesOn]; rfl
    obtain ⟨handed, skips⟩ := arrivals_of_subscription found
    rw [handed, skips, taken, overrun, if_pos attends, if_pos attends, readyFor, (ahead hears).2]
    exact ⟨rfl, Nat.add_zero _⟩
  · intro hears goesOn
    have attends : bus.attends subscription = true := by rw [attends, hears, goesOn]; rfl
    obtain ⟨handed, skips⟩ := served_of_subscription found
    rw [taken, if_pos attends] at handed skips
    refine ⟨by rw [handed, readyFor], ?_⟩
    rw [skips, (level hears).missed_eq, ← (ahead hears).2]
    split
    · rename_i nothing
      rw [(ahead hears).1] at nothing
      have none := congrArg List.length (List.append_eq_nil_iff.mp nothing).2
      rw [List.length_drop, List.length_nil] at none
      rw [(ahead hears).2]
      split
      · rfl
      · exact (Nat.sub_eq_zero_of_le (by omega)).symm
    · exact Nat.add_zero _

/-! ## Every run -/

theorem orderly_roomy_acts (config : BusConfig) (actions : List Action) :
    (acts { config } actions).Orderly ∧
      Roomy config (moments { config } actions) (acts { config } actions) :=
  acts_induction (fun past bus => bus.Orderly ∧ Roomy config past bus)
    (fun action holds => ⟨holds.1.act action, holds.2.step holds.1 action⟩) []
    ⟨Orderly.fresh config, Roomy.fresh config⟩ actions

/-- From its opening on, a subscription streams from a channel with the capacity that
the one who opened the topic asked for. -/
theorem streams_of_subscribed (config : BusConfig) {earlier : List Action}
    {name typeName : String} {options : SubscribeOptions} {id : SubscriptionId} {opened : Bus}
    (subscribed : (acts { config } earlier).subscribe name typeName options = .ok (id, opened)) :
    ∃ opener,
      openedWith? (moments { config } (earlier ++ [.subscribe name typeName options])) name =
        some opener ∧
      ∀ later, Stream id name ((acts { config } earlier).latched? name).toList
        (Channel.powerOfTwoFrom (config.topicCapacity opener)) (opened.moments later)
        (opened.acts later) := by
  obtain ⟨orderly, _⟩ := orderly_roomy_acts config earlier
  obtain ⟨_, roomy⟩ :=
    orderly_roomy_acts config (earlier ++ [.subscribe name typeName options])
  rw [acts_append, acts, List.foldl_cons, List.foldl_nil, act, subscribed] at roomy
  obtain ⟨topic, held, _, follows⟩ := orderly.follows_subscribed subscribed
  obtain ⟨opener, openedWith, capacity⟩ := roomy.capacity name topic held
  refine ⟨opener, openedWith, fun later => ?_⟩
  rw [← capacity]
  have room : 0 < (opened.channel topic.channel).capacity := by
    rw [capacity]
    exact Nat.lt_of_lt_of_le (Nat.le_max_right _ _) (Channel.le_powerOfTwoFrom _)
  have isOpen := isClosed_of_subscribe subscribed
  obtain ⟨rfl, topic, channels, binds, rfl⟩ := subscribe_eq_ok subscribed
  have listener : ((acts { config } earlier).subscribed name topic channels).subscriptions[
      (acts { config } earlier).subscriptions.length]? = some _ := List.getElem?_concat_length
  have listens : ((acts { config } earlier).subscribed name topic channels).listens
      ⟨(acts { config } earlier).subscriptions.length⟩ = true := by
    rw [listens_of_found listener]
    simp [Bus.subscribed, isOpen]
  refine (follows later).stream room ?_ (heard_of_stopsAtRest listener (fun _ => listens) name later)
  rw [listens_acts listener, moments_actions, listens, eq_self, true_and]

/-- A bus with small channels on which a message is left with a topic. -/
def latchedBus : List Action :=
  [.advertise "/t" "A" { latch := true }, .publish ⟨0⟩ [1]]

/-- Three messages come in for a subscription while delivery is held back, and one
after it was closed. -/
def heldBack : List Action :=
  [.hold, .publish ⟨0⟩ [2], .publish ⟨0⟩ [3], .publish ⟨0⟩ [4], .release, .serveAll,
    .cancel ⟨0⟩, .publish ⟨0⟩ [5], .serveAll]

end Bus

end TopicBridge
