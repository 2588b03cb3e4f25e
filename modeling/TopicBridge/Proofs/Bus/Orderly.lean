import TopicBridge.Proofs.Bus.Run

/-!
# Bookkeeping along a run

As long as a bus is not shut down, its table counts who uses each topic and keeps
no topic that nobody uses.  When it is shut down the table is emptied, and it
stays empty: nothing can be opened any more.
-/

namespace TopicBridge

namespace Bus

/-- Holding delivery back and letting it go on binds and unbinds nothing. -/
theorem Bound.steered {bus : Bus} (bound : bus.Bound) (isHeld : Bool) :
    Bound { bus with isHeld } :=
  ⟨bound.publishing, bound.subscribing, bound.placed, bound.subscriptions, bound.own,
    bound.capacity⟩

/-- Every subscription may move on at once. -/
theorem Bound.movedAll {bus : Bus} (bound : bus.Bound) (lagged : Nat)
    {change : Subscription → Subscription} (moves : ∀ s, bus.Moves s (change s)) :
    Bound { bus with lagged, subscriptions := bus.subscriptions.map change } where
  publishing := bound.publishing
  subscribing := by
    intro name
    refine Eq.trans ?_ (bound.subscribing name)
    rw [Bus.subscribing, Bus.subscribing, List.filter_map, List.map_map]
    simp only [Function.comp_def, (moves _).isOpen, (moves _).topic, (moves _).channel]
  placed := bound.placed
  subscriptions := by
    intro subscription member
    obtain ⟨before, there, rfl⟩ := List.mem_map.mp member
    obtain ⟨below, passed⟩ := bound.subscriptions before there
    rw [(moves before).channel]
    exact ⟨below, (moves before).position passed⟩
  own := by
    intro subscription member name topic found shared
    obtain ⟨before, there, rfl⟩ := List.mem_map.mp member
    rw [(moves before).topic]
    exact bound.own before there found ((moves before).channel ▸ shared)
  capacity := bound.capacity

/-! ## Topics in use -/

/-- Every topic of a table is used. -/
def Used (topics : Dict String Topic) : Prop :=
  ∀ name topic, Dict.get? topics name = some topic → topic.isUnused = false

namespace Used

theorem insert {topics : Dict String Topic} (used : Used topics) {name : String} {topic : Topic}
    (isUsed : topic.isUnused = false) : Used (Dict.insert topics name topic) := by
  intro other found there
  rw [Dict.get?_insert] at there
  split at there
  · exact Option.some.inj there ▸ isUsed
  · exact used _ _ there

/-- A topic that is released is taken out once nobody uses it. -/
theorem releaseTopic {bus : Bus} (used : Used bus.topics) (name : String)
    (change : Topic → Topic) : Used (bus.releaseTopic name change).topics := by
  unfold Bus.releaseTopic
  split
  · exact used
  · rename_i topic found
    split
    · intro other remaining there
      rw [Dict.get?_erase] at there
      split at there
      · cases there
      · exact used _ _ there
    · rename_i isUsed
      exact insert used (Bool.not_eq_true _ ▸ isUsed)

theorem sent {bus : Bus} (used : Used bus.topics) (id : PublicationId) (publication : Publication)
    (payload : Bytes) : Used (bus.sent id publication payload).topics := by
  intro name topic found
  rw [topics_sent] at found
  obtain ⟨before, found, same⟩ := Option.map_eq_some_iff.mp found
  have isUsed := used _ _ found
  subst same
  split <;> exact isUsed

end Used

/-- The topics that remain after a release are the same topics. -/
theorem remains_releaseTopic {bus : Bus} (name : String) {change : Topic → Topic}
    (keeps : ∀ topic : Topic, topic.Remains (change topic)) :
    bus.Remaining (bus.releaseTopic name change).topics := by
  have stays : ∀ {other after}, Dict.get? bus.topics other = some after →
      ∃ before, Dict.get? bus.topics other = some before ∧ before.Remains after :=
    fun found => ⟨_, found, rfl, rfl, id⟩
  intro other after found
  unfold releaseTopic at found
  split at found
  · exact stays found
  · rename_i topic there
    split at found
    · rw [Dict.get?_erase] at found
      split at found
      · cases found
      · exact stays found
    · change Dict.get? (Dict.insert _ _ _) _ = _ at found
      rw [Dict.get?_insert] at found
      split at found
      · rename_i own
        cases found
        exact ⟨topic, own ▸ there, keeps topic⟩
      · exact stays found

theorem remains_withdraw {bus : Bus} {id : PublicationId} {publication : Publication}
    (found : bus.publications[id.number]? = some publication)
    (isOpen : publication.isOpen = true) : bus.Remaining (bus.withdraw id).topics := by
  rw [withdraw_of_open found isOpen]
  exact remains_releaseTopic _ fun topic => (topic.remains_unlatch id _).1

theorem remains_cancel {bus : Bus} {id : SubscriptionId} {subscription : Subscription}
    (found : bus.subscriptions[id.number]? = some subscription)
    (isOpen : subscription.isOpen = true) : bus.Remaining (bus.cancel id).topics := by
  have keeps : ∀ topic : Topic,
      topic.Remains { topic with subscribers := topic.subscribers - 1 } :=
    fun _ => ⟨rfl, rfl, fun left => left⟩
  intro name after remaining
  rw [cancel_of_open found isOpen] at remaining
  exact remains_releaseTopic _ keeps remaining

theorem topics_releaseTopic_nil {bus : Bus} (empty : bus.topics = []) (name : String)
    (change : Topic → Topic) : (bus.releaseTopic name change).topics = [] := by
  rw [Bus.releaseTopic, empty]
  exact empty

/-! ## Every step and every run -/

/-- The table of a bus is right, whether the bus is open or shut down. -/
structure Orderly (bus : Bus) : Prop where
  bound : bus.isClosed = false → bus.Bound
  used : Used bus.topics
  empty : bus.isClosed = true → bus.topics = []

namespace Orderly

theorem fresh (config : BusConfig) : Orderly { config } where
  bound := fun _ => Bound.fresh config
  used := fun _ _ found => nomatch found
  empty := fun closed => nomatch closed

variable {bus : Bus}

theorem act (orderly : bus.Orderly) (action : Action) : (bus.act action).Orderly := by
  have does := bus.does action
  generalize bus.act action = after at does ⊢
  cases does with
  | @advertised name typeName options topic channels isOpen answer binds =>
      refine ⟨fun _ => (orderly.bound isOpen).advertised binds _, orderly.used.insert ?_, ?_⟩
      · simp [Topic.isUnused]
      · exact fun closed => absurd (isOpen.symm.trans closed) Bool.false_ne_true
  | @subscribed name typeName options topic channels isOpen answer binds =>
      refine ⟨fun _ => (orderly.bound isOpen).subscribed binds, orderly.used.insert ?_, ?_⟩
      · simp [Topic.isUnused]
      · exact fun closed => absurd (isOpen.symm.trans closed) Bool.false_ne_true
  | @published id publication payload found isOpen =>
      have frame := bus.sent_frame id publication payload
      refine ⟨fun going => (orderly.bound ?_).sent _ _ _, orderly.used.sent _ _ _, fun closed => ?_⟩
      · rwa [frame] at going
      · rw [frame] at closed
        have empty := orderly.empty closed
        unfold Bus.sent leave
        split <;> simp [empty, Dict.modify]
  | @withdrawn id publication found isOpen =>
      have same := withdraw_of_open found isOpen
      have frame := bus.withdraw_frame id
      refine ⟨fun going => ?_, ?_, fun closed => ?_⟩
      · rw [frame] at going
        obtain ⟨_, _, _, bound⟩ := (orderly.bound going).withdraw found isOpen
        exact bound
      · rw [same]
        exact orderly.used.releaseTopic _ _
      · rw [frame] at closed
        rw [same]
        exact topics_releaseTopic_nil (orderly.empty closed) _ _
  | @cancelled id subscription found isOpen =>
      have same := cancel_of_open found isOpen
      have frame := bus.cancel_frame id
      refine ⟨fun going => ?_, ?_, fun closed => ?_⟩
      · rw [frame] at going
        obtain ⟨_, _, _, bound⟩ := (orderly.bound going).cancel found isOpen
        exact bound
      · rw [same]
        exact orderly.used.releaseTopic _ _
      · rw [frame] at closed
        rw [same]
        exact topics_releaseTopic_nil (orderly.empty closed) _ _
  | held => exact ⟨fun going => (orderly.bound going).steered true, orderly.used, orderly.empty⟩
  | released => exact ⟨fun going => (orderly.bound going).steered false, orderly.used, orderly.empty⟩
  | ended =>
      refine ⟨fun going => ?_, fun _ _ found => ?_, fun _ => rfl⟩
      · cases going
      · cases found
  | served found attends ready served =>
      exact ⟨fun going => (orderly.bound going).moved found (moves_begun ready), orderly.used,
        orderly.empty⟩
  | @paused id subscription found =>
      exact ⟨fun going => (orderly.bound going).moved found (bus.moves_rested subscription),
        orderly.used, orderly.empty⟩
  | servedAll =>
      exact ⟨fun going => (orderly.bound going).movedAll _ bus.moves_settled, orderly.used,
        orderly.empty⟩
  | _ => exact orderly

theorem placed (orderly : bus.Orderly) : Placed bus.topics bus.channels := by
  cases closed : bus.isClosed with
  | false => exact (orderly.bound closed).placed
  | true =>
      rw [orderly.empty closed]
      exact ⟨fun found => (nomatch found), fun found => (nomatch found)⟩

theorem acts (orderly : bus.Orderly) (actions : List Action) : (bus.acts actions).Orderly :=
  acts_induction (fun _ bus => bus.Orderly) (fun action orderly => orderly.act action) [] orderly
    actions

end Orderly

end Bus

end TopicBridge
