import TopicBridge.Proofs.Bus.Orderly

/-!
# Channel capacities

Whoever opens a topic that nobody uses decides the capacity of its channel.  The
channel keeps that capacity for as long as the topic is open, whoever joins it
later and whoever leaves it, also if the one who opened it leaves first.
-/

namespace TopicBridge

/-- A capacity is the least power of two that is not below the room asked for. -/
structure IsLeastPowerOfTwo (room capacity : Nat) : Prop where
  power : ∃ exponent, capacity = 2 ^ exponent
  fits : room ≤ capacity
  least : ∀ exponent, room ≤ 2 ^ exponent → capacity ≤ 2 ^ exponent

theorem Channel.isLeastPowerOfTwo (room : Nat) :
    IsLeastPowerOfTwo room (Channel.powerOfTwoFrom room) where
  power := by
    unfold Channel.powerOfTwoFrom
    split
    · exact ⟨0, rfl⟩
    · exact ⟨_, rfl⟩
  fits := Channel.le_powerOfTwoFrom room
  least := by
    intro exponent fits
    unfold Channel.powerOfTwoFrom
    split
    · exact Nat.one_le_two_pow
    · have below : room - 1 < 2 ^ exponent := by omega
      apply Nat.pow_le_pow_right (Nat.zero_lt_succ 1)
      exact (Nat.log2_lt (by omega)).mpr below

namespace Bus

/-- The queue size that a request to open names. -/
def Action.queueSize? : Action → Option Nat
  | .advertise _ _ options => some options.queueSize
  | .subscribe _ _ options => some options.queueSize
  | _ => none

/-- The queue size with which a topic is opened that was not in the table. -/
def Moment.opens? (moment : Moment) (name : String) : Option Nat :=
  if (moment.bus.topicType? name).isNone ∧
      ((moment.bus.act moment.action).topicType? name).isSome then moment.action.queueSize?
  else none

/-- The queue size with which a topic was opened most recently. -/
def openedWith? (past : List Moment) (name : String) : Option Nat :=
  (past.filterMap (·.opens? name)).getLast?

theorem openedWith?_append (past : List Moment) (moment : Moment) (name : String) :
    openedWith? (past ++ [moment]) name =
      (moment.opens? name).or (openedWith? past name) := by
  rw [openedWith?, List.filterMap_append]
  cases opens : moment.opens? name <;> simp [opens, openedWith?]

/-- The topic was last opened with a queue size that asks for this capacity. -/
def AskedFor (config : BusConfig) (past : List Moment) (name : String) (capacity : Nat) : Prop :=
  ∃ queueSize, openedWith? past name = some queueSize ∧
    capacity = Channel.powerOfTwoFrom (config.topicCapacity queueSize)

/-- Every topic has a channel of the capacity that its opening asked for. -/
structure Roomy (config : BusConfig) (past : List Moment) (bus : Bus) : Prop where
  config_eq : bus.config = config
  capacity : ∀ name topic, Dict.get? bus.topics name = some topic →
    AskedFor config past name (bus.channel topic.channel).capacity

theorem topicType?_isSome {bus : Bus} {name : String} {topic : Topic}
    (found : Dict.get? bus.topics name = some topic) : (bus.topicType? name).isSome = true := by
  rw [topicType?, found]
  rfl

namespace Roomy

variable {config : BusConfig} {past : List Moment} {bus : Bus} {action : Action} {name : String}

theorem fresh (config : BusConfig) : Roomy config [] { config } where
  config_eq := rfl
  capacity := fun _ _ found => nomatch found

/-- A topic that stays keeps its capacity. -/
theorem stays (roomy : Roomy config past bus) {topic : Topic}
    (found : Dict.get? bus.topics name = some topic) :
    AskedFor config (past ++ [⟨bus, action⟩]) name (bus.channel topic.channel).capacity := by
  obtain ⟨queueSize, opened, capacity⟩ := roomy.capacity name topic found
  have there := topicType?_isSome found
  have none : Moment.opens? ⟨bus, action⟩ name = none := by
    rw [Moment.opens?, if_neg]
    rintro ⟨absent, _⟩
    simp [Option.isNone_iff_eq_none.mp absent] at there
  exact ⟨queueSize, by rw [openedWith?_append, none]; exact opened, capacity⟩

section Step

variable {after : Bus} (acted : bus.act action = after)

include acted

/-- Nothing but opening a topic touches capacities. -/
theorem remain (roomy : Roomy config past bus)
    (remain : ∀ name topic, Dict.get? after.topics name = some topic →
      ∃ before, Dict.get? bus.topics name = some before ∧
        (after.channel topic.channel).capacity = (bus.channel before.channel).capacity) :
    Roomy config (past ++ [⟨bus, action⟩]) after where
  config_eq := acted ▸ (bus.act_frame action).1.trans roomy.config_eq
  capacity := by
    intro name topic found
    obtain ⟨before, there, same⟩ := remain name topic found
    rw [same]
    exact roomy.stays there

/-- A topic that is opened gets the capacity that it asks for. -/
theorem bound (roomy : Roomy config past bus) (placed : Placed bus.topics bus.channels)
    {queueSize : Nat} (asks : action.queueSize? = some queueSize) {typeName : String}
    {topic changed : Topic} {channels : List Channel}
    (binds : bus.Binds name typeName topic channels)
    (grown : Dict.get? bus.topics name = none →
      channels = bus.channels ++ [Channel.withRoom (bus.config.topicCapacity queueSize)])
    (topics : after.topics = Dict.insert bus.topics name changed)
    (same : changed.channel = topic.channel) (channels_eq : after.channels = channels) :
    Roomy config (past ++ [⟨bus, action⟩]) after where
  config_eq := acted ▸ (bus.act_frame action).1.trans roomy.config_eq
  capacity := by
    obtain ⟨more, longer, _⟩ := binds.channels_keep
    have old : ∀ {other another}, Dict.get? bus.topics other = some another →
        AskedFor config (past ++ [⟨bus, action⟩]) other
          (after.channel another.channel).capacity := by
      intro other another found
      rw [channel, channels_eq, longer, channel_append _ _ (placed.there found)]
      exact roomy.stays found
    intro other found there
    have opened := topicType?_isSome there
    rw [topics, Dict.get?_insert] at there
    split at there
    · rename_i own
      cases there
      subst own
      rw [same]
      cases found : Dict.get? bus.topics name with
      | some known =>
          cases binds with
          | found found' _ => exact old found'
          | opened absent _ _ => cases absent.symm.trans found
      | none =>
          have opens : Moment.opens? ⟨bus, action⟩ name = some queueSize := by
            rw [Moment.opens?, acted, if_pos ⟨by rw [topicType?, found]; rfl, opened⟩]
            exact asks
          have last : topic.channel.number = bus.channels.length := by
            cases binds with
            | found found' _ => cases found'.symm.trans found
            | opened absent _ _ => rfl
          refine ⟨queueSize, by rw [openedWith?_append, opens]; rfl, ?_⟩
          rw [channel, channels_eq, grown found, last, roomy.config_eq]
          simp [Channel.withRoom, Channel.ofCapacity]
    · exact old there

end Step

theorem step (roomy : Roomy config past bus) (orderly : bus.Orderly) (action : Action) :
    Roomy config (past ++ [⟨bus, action⟩]) (bus.act action) := by
  have does := bus.does action
  generalize acted : bus.act action = after at does
  cases does with
  | @advertised name typeName options topic channels isOpen answer binds =>
      refine roomy.bound acted orderly.placed rfl binds (fun absent => ?_) rfl rfl rfl
      rw [advertise_of_bind isOpen (bind_of_none absent)] at answer
      exact (congrArg Bus.channels (Prod.mk.inj (Except.ok.inj answer)).2).symm
  | @subscribed name typeName options topic channels isOpen answer binds =>
      refine roomy.bound acted orderly.placed rfl binds (fun absent => ?_) rfl rfl rfl
      rw [subscribe_of_bind isOpen (bind_of_none absent)] at answer
      exact (congrArg Bus.channels (Prod.mk.inj (Except.ok.inj answer)).2).symm
  | @published id publication payload found isOpen =>
      refine roomy.remain acted fun name topic there => ?_
      rw [topics_sent] at there
      obtain ⟨before, there, same⟩ := Option.map_eq_some_iff.mp there
      have channel_eq : topic.channel = before.channel := by
        rw [← same]
        split <;> rfl
      refine ⟨before, there, ?_⟩
      rw [channel_eq, channel_sent _ _ _ _ (orderly.placed.there there)]
      split <;> rfl
  | @withdrawn id publication found isOpen =>
      refine roomy.remain acted fun name topic there => ?_
      obtain ⟨before, there, remains⟩ := remains_withdraw found isOpen there
      refine ⟨before, there, ?_⟩
      rw [remains.channel, withdraw_frame]
      rfl
  | @cancelled id subscription found isOpen =>
      refine roomy.remain acted fun name topic there => ?_
      obtain ⟨before, there, remains⟩ := remains_cancel found isOpen there
      refine ⟨before, there, ?_⟩
      rw [remains.channel, cancel_frame]
      rfl
  | ended => exact roomy.remain acted fun _ _ found => nomatch found
  | _ => exact roomy.remain acted fun _ topic found => ⟨topic, found, rfl⟩

end Roomy

end Bus

end TopicBridge
