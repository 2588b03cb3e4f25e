import TopicBridge.Proofs.Bus.Operation

/-!
# What binds a bus together

A topic is in the table exactly as long as a publication or a subscription on it
is open.  So the table counts the open publications and subscriptions of every
topic right, all of them use the channel of their topic, and no two topics share
a channel.  A topic that is closed and opened again gets a new channel, which
nobody uses yet, so the channel of a subscription belongs to its topic for good.
-/

namespace TopicBridge

namespace Bus

/-! ## Counting -/

/-- The channels of the open publications on a topic. -/
def publishing (bus : Bus) (name : String) : List ChannelId :=
  (bus.publications.filter fun p => p.isOpen && p.topic = name).map (·.channel)

/-- The channels of the open subscriptions to a topic. -/
def subscribing (bus : Bus) (name : String) : List ChannelId :=
  (bus.subscriptions.filter fun s => s.isOpen && s.topic = name).map (·.channel)

/-- The channel of a topic, as often as the table counts a use of it. -/
def counted (count : Topic → Nat) (topics : Dict String Topic) (name : String) : List ChannelId :=
  match Dict.get? topics name with
  | some topic => List.replicate (count topic) topic.channel
  | none => []

/-- Every topic has a channel of its own. -/
structure Placed (topics : Dict String Topic) (channels : List Channel) : Prop where
  there : ∀ {name topic}, Dict.get? topics name = some topic →
    topic.channel.number < channels.length
  apart : ∀ {name other topic another}, Dict.get? topics name = some topic →
    Dict.get? topics other = some another → topic.channel = another.channel → name = other

/-- The table knows of every open publication and subscription, and of no other
one. -/
structure Bound (bus : Bus) : Prop where
  publishing : ∀ name, bus.publishing name = counted Topic.publishers bus.topics name
  subscribing : ∀ name, bus.subscribing name = counted Topic.subscribers bus.topics name
  placed : Placed bus.topics bus.channels
  subscriptions : ∀ subscription ∈ bus.subscriptions,
    subscription.channel.number < bus.channels.length ∧
      subscription.position ≤ (bus.channel subscription.channel).sent
  /-- No other topic ever has the channel of a subscription, open or not. -/
  own : ∀ subscription ∈ bus.subscriptions, ∀ {name topic},
    Dict.get? bus.topics name = some topic → topic.channel = subscription.channel →
      name = subscription.topic
  capacity : ∀ channel ∈ bus.channels, 0 < channel.capacity

theorem counted_insert (count : Topic → Nat) (topics : Dict String Topic) (name other : String)
    (topic : Topic) :
    counted count (Dict.insert topics name topic) other =
      if name = other then List.replicate (count topic) topic.channel
      else counted count topics other := by
  unfold counted
  rw [Dict.get?_insert]
  by_cases same : name = other <;> simp [same]

theorem counted_erase (count : Topic → Nat) (topics : Dict String Topic) (name other : String) :
    counted count (Dict.erase topics name) other =
      if name = other then [] else counted count topics other := by
  unfold counted
  rw [Dict.get?_erase]
  by_cases same : name = other <;> simp [same]

namespace Binds

variable {bus : Bus} {name typeName : String} {topic : Topic} {channels : List Channel}

/-- The topic that is found is counted as it says, also if it is new. -/
theorem counted (binds : bus.Binds name typeName topic channels) :
    counted Topic.publishers bus.topics name = List.replicate topic.publishers topic.channel ∧
      counted Topic.subscribers bus.topics name =
        List.replicate topic.subscribers topic.channel := by
  unfold Bus.counted
  cases binds with
  | found found same =>
      rw [found]
      exact ⟨rfl, rfl⟩
  | opened absent room silent =>
      rw [absent]
      exact ⟨rfl, rfl⟩

/-- A topic that is found keeps its channel, and a new one has one of its own. -/
theorem placed (binds : bus.Binds name typeName topic channels)
    (placed : Placed bus.topics bus.channels) {changed : Topic}
    (same : changed.channel = topic.channel) :
    Placed (Dict.insert bus.topics name changed) channels := by
  obtain ⟨more, longer, _⟩ := binds.channels_keep
  have own : topic.channel.number < channels.length ∧
      ∀ {other another}, Dict.get? bus.topics other = some another →
        another.channel = topic.channel → other = name := by
    cases binds with
    | found found same =>
        exact ⟨placed.there found, fun found' same => placed.apart found' found same⟩
    | opened absent room silent =>
        refine ⟨by simp, ?_⟩
        intro other another found same
        have below := placed.there found
        rw [same] at below
        exact absurd below (Nat.lt_irrefl _)
  constructor
  · intro other another found
    rw [Dict.get?_insert] at found
    split at found
    · cases found
      rw [same]
      exact own.1
    · have below := placed.there found
      rw [longer, List.length_append]
      exact Nat.lt_of_lt_of_le below (Nat.le_add_right _ _)
  · intro one other first second found found' shared
    rw [Dict.get?_insert] at found found'
    split at found
    · rename_i isOne
      split at found'
      · rename_i isOther
        exact isOne.symm.trans isOther
      · cases found
        exact isOne.symm.trans (own.2 found' (shared.symm.trans same)).symm
    · split at found'
      · rename_i isOther
        cases found'
        exact (own.2 found (shared.trans same)).trans isOther
      · exact placed.apart found found' shared

end Binds

namespace Bound

variable {bus : Bus}

/-- The topic of an open publication is in the table, and uses its channel. -/
theorem publication_topic (bound : bus.Bound) {publication : Publication}
    (member : publication ∈ bus.publications) (isOpen : publication.isOpen = true) :
    ∃ topic, Dict.get? bus.topics publication.topic = some topic ∧
      topic.channel = publication.channel := by
  have used : publication.channel ∈ bus.publishing publication.topic := by
    apply List.mem_map_of_mem
    simp [member, isOpen]
  rw [bound.publishing, counted] at used
  split at used
  · rename_i topic found
    exact ⟨topic, found, (List.eq_of_mem_replicate used).symm⟩
  · cases used

/-- The topic of an open subscription is in the table, and uses its channel. -/
theorem subscription_topic (bound : bus.Bound) {subscription : Subscription}
    (member : subscription ∈ bus.subscriptions) (isOpen : subscription.isOpen = true) :
    ∃ topic, Dict.get? bus.topics subscription.topic = some topic ∧
      topic.channel = subscription.channel := by
  have used : subscription.channel ∈ bus.subscribing subscription.topic := by
    apply List.mem_map_of_mem
    simp [member, isOpen]
  rw [bound.subscribing, counted] at used
  split at used
  · rename_i topic found
    exact ⟨topic, found, (List.eq_of_mem_replicate used).symm⟩
  · cases used

/-- An open publication and an open subscription share their channel if and only
if they share their topic. -/
theorem channel_eq_iff (bound : bus.Bound) {publication : Publication}
    (member : publication ∈ bus.publications) (isOpen : publication.isOpen = true)
    {subscription : Subscription} (member' : subscription ∈ bus.subscriptions)
    (isOpen' : subscription.isOpen = true) :
    publication.channel = subscription.channel ↔ publication.topic = subscription.topic := by
  obtain ⟨topic, found, uses⟩ := bound.publication_topic member isOpen
  obtain ⟨topic', found', uses'⟩ := bound.subscription_topic member' isOpen'
  constructor
  · intro same
    exact bound.placed.apart found found' (by rw [uses, uses', same])
  · intro same
    rw [same, found'] at found
    rw [← uses, ← uses', Option.some.inj found]

theorem fresh (config : BusConfig) : Bound { config } where
  publishing := fun _ => rfl
  subscribing := fun _ => rfl
  placed := ⟨fun found => (nomatch found), fun found => (nomatch found)⟩
  subscriptions := fun _ member => nomatch member
  own := fun _ member => nomatch member
  capacity := fun _ member => nomatch member

/-- Channels that are added do not touch the subscriptions there are. -/
theorem subscription_keep (bound : bus.Bound) (more : List Channel) {subscription : Subscription}
    (member : subscription ∈ bus.subscriptions) :
    subscription.channel.number < (bus.channels ++ more).length ∧
      subscription.position ≤
        ((bus.channels ++ more).getD subscription.channel.number (.ofCapacity 0)).sent := by
  obtain ⟨below, passed⟩ := bound.subscriptions subscription member
  rw [channel_append _ _ below]
  exact ⟨Nat.lt_of_lt_of_le below (by simp), passed⟩

/-- A topic that is opened does not have the channel of a subscription there is. -/
theorem own_insert (bound : bus.Bound) {name typeName : String} {topic changed : Topic}
    {channels : List Channel} (binds : bus.Binds name typeName topic channels)
    {subscription : Subscription} (member : subscription ∈ bus.subscriptions) {other : String}
    {after : Topic} (found : Dict.get? (Dict.insert bus.topics name changed) other = some after)
    (same : changed.channel = topic.channel) (shared : after.channel = subscription.channel) :
    other = subscription.topic := by
  rw [Dict.get?_insert] at found
  split at found
  · rename_i here
    cases found
    rw [same] at shared
    subst here
    cases binds with
    | found found _ => exact bound.own subscription member found shared
    | opened absent room silent =>
        have below := (bound.subscriptions subscription member).1
        rw [← shared] at below
        exact absurd below (Nat.lt_irrefl _)
  · exact bound.own subscription member found shared

/-- A publication is opened, and its topic counts it. -/
theorem advertised (bound : bus.Bound) {name typeName : String} {topic : Topic}
    {channels : List Channel} (binds : bus.Binds name typeName topic channels) (latch : Bool) :
    (bus.advertised name topic channels latch).Bound := by
  obtain ⟨publishers, subscribers⟩ := binds.counted
  have placed {changed : Topic} (same : changed.channel = topic.channel) :
      Placed (Dict.insert bus.topics name changed) channels := binds.placed bound.placed same
  obtain ⟨more, longer, empty⟩ := binds.channels_keep
  refine ⟨?_, ?_, placed rfl, ?_, fun _ member _ _ found => bound.own_insert binds member found rfl,
    ?_⟩
  · intro other
    change (List.filter _ (bus.publications ++ [_])).map _ = counted _ (Dict.insert _ _ _) other
    rw [counted_insert, List.filter_append, List.map_append]
    change bus.publishing other ++ _ = _
    rw [bound.publishing]
    by_cases same : name = other
    · subst same
      rw [if_pos rfl, publishers]
      simp [List.replicate_succ']
    · simp [same]
  · intro other
    change bus.subscribing other = counted _ (Dict.insert _ _ _) other
    rw [counted_insert, bound.subscribing]
    by_cases same : name = other
    · subst same
      rw [if_pos rfl, subscribers]
    · rw [if_neg same]
  · exact fun _ member => longer ▸ bound.subscription_keep more member
  · intro channel member
    rcases List.mem_append.mp (longer ▸ member) with before | new
    · exact bound.capacity channel before
    · exact (empty channel new).1

/-- A subscription is opened, and its topic counts it. -/
theorem subscribed (bound : bus.Bound) {name typeName : String} {topic : Topic}
    {channels : List Channel} (binds : bus.Binds name typeName topic channels) :
    (bus.subscribed name topic channels).Bound := by
  obtain ⟨publishers, subscribers⟩ := binds.counted
  have placed {changed : Topic} (same : changed.channel = topic.channel) :
      Placed (Dict.insert bus.topics name changed) channels := binds.placed bound.placed same
  have there := (placed (rfl : topic.channel = topic.channel)).there (Dict.get?_insert_self _ _ _)
  have places : Placed (bus.subscribed name topic channels).topics channels := placed rfl
  obtain ⟨more, longer, empty⟩ := binds.channels_keep
  refine ⟨?_, ?_, places, ?_, ?_, ?_⟩
  · intro other
    change bus.publishing other = counted _ (Dict.insert _ _ _) other
    rw [counted_insert, bound.publishing]
    by_cases same : name = other
    · subst same
      rw [if_pos rfl, publishers]
    · rw [if_neg same]
  · intro other
    change (List.filter _ (bus.subscriptions ++ [_])).map _ = counted _ (Dict.insert _ _ _) other
    rw [counted_insert, List.filter_append, List.map_append]
    change bus.subscribing other ++ _ = _
    rw [bound.subscribing]
    by_cases same : name = other
    · subst same
      rw [if_pos rfl, subscribers]
      simp [List.replicate_succ']
    · simp [same]
  · intro subscription member
    rcases List.mem_append.mp member with before | new
    · exact longer ▸ bound.subscription_keep more before
    · cases List.mem_singleton.mp new
      exact ⟨there, Nat.le_refl _⟩
  · intro subscription member other after found shared
    rcases List.mem_append.mp member with before | new
    · exact bound.own_insert binds before found rfl shared
    · cases List.mem_singleton.mp new
      exact places.apart found (Dict.get?_insert_self _ _ _) shared
  · intro channel member
    rcases List.mem_append.mp (longer ▸ member) with before | new
    · exact bound.capacity channel before
    · exact (empty channel new).1

end Bound

/-! ## Closing -/

/-- A topic that is released keeps its new state unless nothing uses it any
more.  The other topics stay. -/
theorem releaseTopic_spec {bus : Bus} {name : String} {topic : Topic} (change : Topic → Topic)
    (found : Dict.get? bus.topics name = some topic) (remains : topic.Remains (change topic)) :
    bus.releaseTopic name change = { bus with topics := (bus.releaseTopic name change).topics } ∧
      (∀ count : Topic → Nat, ((change topic).isUnused = true → count (change topic) = 0) →
        ∀ other, counted count (bus.releaseTopic name change).topics other =
          if name = other then List.replicate (count (change topic)) topic.channel
          else counted count bus.topics other) ∧
      ∀ {other after}, Dict.get? (bus.releaseTopic name change).topics other = some after →
        ∃ before, Dict.get? bus.topics other = some before ∧ before.Remains after := by
  have stays (same : Topic) : same.Remains same := ⟨rfl, rfl, id⟩
  rw [← remains.channel]
  unfold releaseTopic
  rw [found]
  dsimp only
  cases unused : (change topic).isUnused with
  | true =>
      rw [if_pos rfl]
      refine ⟨rfl, ?_, ?_⟩
      · intro count none other
        rw [counted_erase, none rfl]
        rfl
      · intro other after found'
        rw [Dict.get?_erase] at found'
        split at found'
        · cases found'
        · exact ⟨after, found', stays after⟩
  | false =>
      rw [if_neg Bool.false_ne_true]
      refine ⟨rfl, ?_, ?_⟩
      · exact fun count _ other => counted_insert count _ _ _ _
      · intro other after found'
        change Dict.get? (Dict.insert _ _ _) _ = _ at found'
        rw [Dict.get?_insert] at found'
        split at found'
        · rename_i same
          cases found'
          exact ⟨topic, same ▸ found, remains⟩
        · exact ⟨after, found', stays after⟩

/-- A list around one of its items, before and after the item is changed. -/
theorem modify_split {α : Type} {items : List α} {position : Nat} {item : α} (change : α → α)
    (found : items[position]? = some item) :
    ∃ before after, items = before ++ item :: after ∧
      items.modify position change = before ++ change item :: after := by
  induction items generalizing position with
  | nil => cases found
  | cons first rest ih =>
      cases position with
      | zero =>
          cases found
          exact ⟨[], rest, rfl, rfl⟩
      | succ position =>
          obtain ⟨before, after, same, changed⟩ := ih found
          refine ⟨first :: before, after, by rw [same]; rfl, ?_⟩
          rw [List.modify_succ_cons, changed]
          rfl

/-- An item is as it was, or it is the one that was changed. -/
theorem mem_modify {α : Type} {items : List α} {position : Nat} {change : α → α} {item : α}
    (member : item ∈ items.modify position change) :
    item ∈ items ∨ ∃ before, items[position]? = some before ∧ item = change before := by
  obtain ⟨place, found⟩ := List.mem_iff_getElem?.mp member
  rw [List.getElem?_modify] at found
  obtain ⟨before, was, same⟩ := Option.map_eq_some_iff.mp found
  by_cases here : position = place
  · rw [if_pos here] at same
    exact Or.inr ⟨before, here ▸ was, same.symm⟩
  · rw [if_neg here] at same
    exact Or.inl (same ▸ List.mem_of_getElem? was)

/-- Two changes that agree on an item change it alike. -/
theorem modify_congr {α : Type} {items : List α} {position : Nat} {item : α} {change other : α → α}
    (found : items[position]? = some item) (agree : change item = other item) :
    items.modify position change = items.modify position other := by
  apply List.ext_getElem?
  intro place
  rw [List.getElem?_modify, List.getElem?_modify]
  by_cases here : position = place
  · subst here
    rw [found]
    simp [agree]
  · simp [here]

/-- One of several equal items is taken out. -/
theorem replicate_without {α : Type} {before after : List α} {item : α} {number : Nat}
    (same : before ++ item :: after = List.replicate number item) :
    before ++ after = List.replicate (number - 1) item := by
  rw [List.eq_replicate_iff] at same ⊢
  obtain ⟨length, items⟩ := same
  constructor
  · rw [← length, List.length_append, List.length_append, List.length_cons]
    omega
  · intro other member
    apply items
    rcases List.mem_append.mp member with earlier | later
    · exact List.mem_append_left _ earlier
    · exact List.mem_append_right _ (List.mem_cons_of_mem _ later)

/-- What leaves with a use that is closed is its own channel. -/
theorem used_without {α : Type} {items : List α} {position : Nat} {item : α} (change : α → α)
    {isOpen : α → Bool} {topic : α → String} {channel : α → ChannelId}
    (found : items[position]? = some item) (wasOpen : isOpen item = true)
    (closes : isOpen (change item) = false) (name : String) {number : Nat}
    (used : topic item = name →
      (items.filter fun use => isOpen use && topic use = name).map channel =
        List.replicate number (channel item)) :
    ((items.modify position change).filter fun use => isOpen use && topic use = name).map channel =
      if topic item = name then List.replicate (number - 1) (channel item)
      else (items.filter fun use => isOpen use && topic use = name).map channel := by
  obtain ⟨before, after, same, changed⟩ := modify_split change found
  clear found
  subst same
  rw [changed, List.filter_append, List.filter_cons_of_neg (by simp [closes]), List.map_append]
  by_cases own : topic item = name
  · have held := used own
    rw [List.filter_append, List.filter_cons_of_pos (by simp [wasOpen, own]), List.map_append,
      List.map_cons] at held
    rw [if_pos own]
    exact replicate_without held
  · rw [if_neg own, List.filter_append, List.filter_cons_of_neg (by simp [own]), List.map_append]

/-- The topics that remain are among those of the bus. -/
def Remaining (bus : Bus) (topics : Dict String Topic) : Prop :=
  ∀ {name after}, Dict.get? topics name = some after →
    ∃ before, Dict.get? bus.topics name = some before ∧ before.Remains after

theorem Remaining.placed {bus : Bus} {topics : Dict String Topic} (remaining : bus.Remaining topics)
    {channels : List Channel} (placed : Placed bus.topics channels) : Placed topics channels where
  there := by
    intro name after found
    obtain ⟨before, found, remains⟩ := remaining found
    rw [remains.channel]
    exact placed.there found
  apart := by
    intro name other after another found found' shared
    obtain ⟨before, found, remains⟩ := remaining found
    obtain ⟨before', found', remains'⟩ := remaining found'
    exact placed.apart found found' (by rw [← remains.channel, ← remains'.channel, shared])

/-- A topic that remains has the channel of no subscription to another one. -/
theorem Remaining.own {bus : Bus} {topics : Dict String Topic} (remaining : bus.Remaining topics)
    (bound : bus.Bound) {subscription : Subscription} (member : subscription ∈ bus.subscriptions)
    {name : String} {after : Topic} (found : Dict.get? topics name = some after)
    (shared : after.channel = subscription.channel) : name = subscription.topic := by
  obtain ⟨before, found, remains⟩ := remaining found
  exact bound.own subscription member found (remains.channel ▸ shared)

namespace Bound

variable {bus : Bus}

/-- What is left of a bus when a publication that is open is closed. -/
theorem withdraw (bound : bus.Bound) {id : PublicationId} {publication : Publication}
    (found : bus.publications[id.number]? = some publication)
    (isOpen : publication.isOpen = true) :
    ∃ topics, bus.Remaining topics ∧
      bus.withdraw id = { bus with
        topics
        publications := bus.publications.modify id.number fun p => { p with isOpen := false } } ∧
      (bus.withdraw id).Bound := by
  obtain ⟨topic, there, uses⟩ := bound.publication_topic (List.mem_of_getElem? found) isOpen
  obtain ⟨remains, subscribers⟩ := topic.remains_unlatch id (topic.publishers - 1)
  obtain ⟨released, count, remaining⟩ := releaseTopic_spec
    (fun topic => { topic.unlatch id with publishers := topic.publishers - 1 }) there remains
  have closed := withdraw_of_open found isOpen
  rw [released] at closed
  refine ⟨_, remaining, closed, ?_⟩
  rw [closed]
  refine ⟨?_, ?_, Remaining.placed remaining bound.placed, bound.subscriptions,
    fun _ member _ _ => Remaining.own remaining bound member, bound.capacity⟩
  · intro name
    have used : publication.topic = name →
        bus.publishing name = List.replicate topic.publishers publication.channel := by
      rintro rfl
      rw [bound.publishing, counted, there, ← uses]
    rw [count Topic.publishers fun unused => ((Topic.isUnused_iff _).mp unused).1,
      ← bound.publishing, uses]
    exact used_without (fun p : Publication => { p with isOpen := false }) found isOpen rfl name used
  · intro name
    rw [count Topic.subscribers fun unused => ((Topic.isUnused_iff _).mp unused).2]
    change bus.subscribing name = _
    rw [bound.subscribing, subscribers]
    by_cases own : publication.topic = name
    · rw [if_pos own, ← own, counted, there]
    · rw [if_neg own]

/-- What is left of a bus when a subscription that is open is closed. -/
theorem cancel (bound : bus.Bound) {id : SubscriptionId} {subscription : Subscription}
    (found : bus.subscriptions[id.number]? = some subscription)
    (isOpen : subscription.isOpen = true) :
    ∃ topics, bus.Remaining topics ∧
      bus.cancel id = { bus with
        topics
        subscriptions := bus.subscriptions.modify id.number fun s => { s with isOpen := false } } ∧
      (bus.cancel id).Bound := by
  obtain ⟨topic, there, uses⟩ := bound.subscription_topic (List.mem_of_getElem? found) isOpen
  obtain ⟨released, count, remaining⟩ := releaseTopic_spec
    (fun topic => { topic with subscribers := topic.subscribers - 1 }) there ⟨rfl, rfl, fun left => left⟩
  have closed := cancel_of_open found isOpen
  rw [released] at closed
  refine ⟨_, remaining, closed, ?_⟩
  rw [closed]
  refine ⟨?_, ?_, Remaining.placed remaining bound.placed, ?_, ?_, bound.capacity⟩
  · intro name
    rw [count Topic.publishers fun unused => ((Topic.isUnused_iff _).mp unused).1]
    change bus.publishing name = _
    rw [bound.publishing]
    by_cases own : subscription.topic = name
    · rw [if_pos own, ← own, counted, there]
    · rw [if_neg own]
  · intro name
    have used : subscription.topic = name →
        bus.subscribing name = List.replicate topic.subscribers subscription.channel := by
      rintro rfl
      rw [bound.subscribing, counted, there, ← uses]
    rw [count Topic.subscribers fun unused => ((Topic.isUnused_iff _).mp unused).2,
      ← bound.subscribing, uses]
    exact used_without (fun s : Subscription => { s with isOpen := false }) found isOpen rfl name
      used
  · intro other member
    rcases mem_modify member with before | ⟨before, there, rfl⟩
    · exact bound.subscriptions other before
    · exact bound.subscriptions before (List.mem_of_getElem? there)
  · intro other member name after held shared
    rcases mem_modify member with before | ⟨before, there, rfl⟩
    · exact Remaining.own remaining bound before held shared
    · exact Remaining.own remaining bound (List.mem_of_getElem? there) held shared

end Bound

/-- What is sent does not change who uses a topic. -/
theorem Bound.sent {bus : Bus} (bound : bus.Bound) (id : PublicationId) (publication : Publication)
    (payload : Bytes) : (bus.sent id publication payload).Bound := by
  have topics (name : String) := topics_sent bus id publication payload name
  have channels : (bus.sent id publication payload).channels =
      bus.channels.modify publication.channel.number (·.send payload) := channels_sent ..
  refine ⟨?_, ?_, ⟨?_, ?_⟩, ?_, ?_, ?_⟩
  · intro name
    rw [Bus.publishing, publications_sent, counted, topics]
    change bus.publishing name = _
    rw [bound.publishing, counted]
    cases Dict.get? bus.topics name with
    | none => rfl
    | some topic =>
        dsimp only [Option.map_some]
        split <;> rfl
  · intro name
    rw [Bus.subscribing, subscriptions_sent, counted, topics]
    change bus.subscribing name = _
    rw [bound.subscribing, counted]
    cases Dict.get? bus.topics name with
    | none => rfl
    | some topic =>
        dsimp only [Option.map_some]
        split <;> rfl
  · intro name topic found
    obtain ⟨before, found, same⟩ := Option.map_eq_some_iff.mp ((topics name).symm.trans found)
    rw [channels, List.length_modify, ← same]
    have there := bound.placed.there found
    split <;> exact there
  · intro name other topic another found found' shared
    obtain ⟨before, found, same⟩ := Option.map_eq_some_iff.mp ((topics name).symm.trans found)
    obtain ⟨before', found', same'⟩ := Option.map_eq_some_iff.mp ((topics other).symm.trans found')
    apply bound.placed.apart found found'
    subst same same'
    split at shared <;> split at shared <;> exact shared
  · intro subscription member
    rw [subscriptions_sent] at member
    obtain ⟨there, passed⟩ := bound.subscriptions subscription member
    refine ⟨by rw [channels, List.length_modify]; exact there, ?_⟩
    rw [channel_sent _ _ _ _ there]
    split
    · exact Nat.le_succ_of_le passed
    · exact passed
  · intro subscription member name topic found shared
    rw [subscriptions_sent] at member
    obtain ⟨before, found, same⟩ := Option.map_eq_some_iff.mp ((topics name).symm.trans found)
    apply bound.own subscription member found
    subst same
    split at shared <;> exact shared
  · intro channel member
    rw [channels] at member
    rcases mem_modify member with before | ⟨before, there, rfl⟩
    · exact bound.capacity channel before
    · exact bound.capacity before (List.mem_of_getElem? there)

end Bus

end TopicBridge
