import TopicBridge.Proofs.Binding.Book
import TopicBridge.Proofs.Bus.Table

/-!
# Proxies over a bus

A bus keeps its publications and its subscriptions for ever and marks those that
are closed.  Those that are open are the publications and the subscriptions of the
live proxies, so as long as the bus is not shut down its table has the topics of
the live proxies, and counts them.
-/

namespace TopicBridge

namespace Bus

/-! ## What a bus does of its own -/

/-- The action is not one that a bridge asks for. -/
def Action.isOwn : Action → Bool
  | .hold | .release | .shutdown | .serve _ | .pause _ | .serveAll => true
  | _ => false

/-- What a bus does besides the operations of the bridge: it hands messages out,
and an observer holds them back, lets them go or shuts the bus down. -/
def MovesOn (bus after : Bus) : Prop :=
  ∃ actions : List Action, (∀ action ∈ actions, action.isOwn = true) ∧ after = bus.acts actions

theorem MovesOn.steer (bus : Bus) (request : Request) : bus.MovesOn (bus.steer request).2.2 := by
  cases request with
  | stats | topicType | describe => exact ⟨[], by simp, rfl⟩
  | hold => exact ⟨[.hold], by simp [Action.isOwn], rfl⟩
  | release => exact ⟨[.release], by simp [Action.isOwn], rfl⟩
  | shutdown => exact ⟨[.release, .serveAll, .shutdown], by simp [Action.isOwn], rfl⟩

theorem MovesOn.arrivals (bus : Bus) : bus.MovesOn bus.arrivals.2 :=
  ⟨[.serveAll], by simp [Action.isOwn], rfl⟩

/-- What a bus does of its own opens and closes nothing. -/
theorem open_of_own {bus : Bus} {action : Action} (own : action.isOwn = true) :
    (bus.act action).publications = bus.publications ∧
      (bus.act action).openSubscriptions = bus.openSubscriptions := by
  have does := bus.does action
  generalize bus.act action = after at does ⊢
  cases does with
  | served found attends ready served =>
      have moves := moves_begun ready
      exact ⟨rfl, openFrom_modify _ _ _ _ found moves.isOpen moves.topic⟩
  | paused found => exact ⟨rfl, openFrom_modify _ _ _ _ found rfl rfl⟩
  | servedAll => exact ⟨rfl, bus.openSubscriptions_arrivals⟩
  | held | released | ended | notServed | notPaused => exact ⟨rfl, rfl⟩
  | _ => cases own

theorem MovesOn.open {bus after : Bus} (moves : bus.MovesOn after) :
    after.publications = bus.publications ∧ after.openSubscriptions = bus.openSubscriptions := by
  obtain ⟨actions, own, rfl⟩ := moves
  induction actions generalizing bus with
  | nil => exact ⟨rfl, rfl⟩
  | cons action later ih =>
      obtain ⟨publications, subscriptions⟩ := open_of_own (own action List.mem_cons_self)
      obtain ⟨publications', subscriptions'⟩ :=
        ih fun other member => own other (List.mem_cons_of_mem _ member)
      exact ⟨publications'.trans publications, subscriptions'.trans subscriptions⟩

/-! ## The books of a bus -/

theorem openPublications_withdraw (bus : Bus) (id : PublicationId) :
    (bus.withdraw id).openPublications = Dict.erase bus.openPublications id ∧
      (bus.withdraw id).openSubscriptions = bus.openSubscriptions := by
  obtain ⟨number⟩ := id
  have distinct : ∀ n m, PublicationId.mk n = PublicationId.mk m → n = m :=
    fun _ _ => congrArg PublicationId.number
  refine ⟨?_, by rw [openSubscriptions, withdraw_frame]; rfl⟩
  rcases open_or_closed bus.publications (·.isOpen) number with ⟨_, found, isOpen⟩ | closed
  · rw [openPublications, withdraw_of_open found isOpen]
    exact openFrom_zero_close _ _ distinct found rfl
  · have absent := get?_openFrom_of_closed Publication.isOpen Publication.topic distinct closed
    rw [withdraw_of_closed closed]
    exact (Dict.erase_of_get?_eq_none absent).symm

theorem openSubscriptions_cancel (bus : Bus) (id : SubscriptionId) :
    (bus.cancel id).openSubscriptions = Dict.erase bus.openSubscriptions id ∧
      (bus.cancel id).openPublications = bus.openPublications := by
  obtain ⟨number⟩ := id
  have distinct : ∀ n m, SubscriptionId.mk n = SubscriptionId.mk m → n = m :=
    fun _ _ => congrArg SubscriptionId.number
  refine ⟨?_, by rw [openPublications, cancel_frame]; rfl⟩
  rcases open_or_closed bus.subscriptions (·.isOpen) number with ⟨_, found, isOpen⟩ | closed
  · rw [openSubscriptions, cancel_of_open found isOpen]
    exact openFrom_zero_close _ _ distinct found rfl
  · have absent := get?_openFrom_of_closed Subscription.isOpen Subscription.topic distinct closed
    rw [cancel_of_closed closed]
    exact (Dict.erase_of_get?_eq_none absent).symm

theorem open_publish (bus : Bus) (id : PublicationId) (payload : Bytes) :
    (bus.publish id payload).openPublications = bus.openPublications ∧
      (bus.publish id payload).openSubscriptions = bus.openSubscriptions := by
  rcases open_or_closed bus.publications (·.isOpen) id.number with ⟨_, found, isOpen⟩ | closed
  · rw [publish_of_open found isOpen, sent_frame]
    exact ⟨rfl, rfl⟩
  · rw [publish_of_closed closed]
    exact ⟨rfl, rfl⟩

/-- A bus keeps a book of its publications. -/
theorem keepsPublications : KeepsBook Proxy.publication? openPublications where
  distinct := fun bus => nodup_openFrom _ _ (fun _ _ => congrArg PublicationId.number) _ _
  advertised := by
    rintro bus after topic typeName options publisher opens rfl
    obtain ⟨last, _, _, _, rfl⟩ := advertise_eq_ok opens
    rw [openPublications, advertised, openFrom_append _ _ _ _ _ rfl, Nat.zero_add, ← last]
    rfl
  subscribed := by
    intro bus after topic typeName options subscriber opens _
    obtain ⟨_, _, _, _, rfl⟩ := subscribe_eq_ok opens
    exact (List.append_nil _).symm
  published := fun bus id payload => (bus.open_publish id payload).1
  closed := by
    intro bus proxy
    cases proxy with
    | publisher publisher => exact (bus.openPublications_withdraw publisher.publication).1
    | subscriber subscriber => exact (bus.openSubscriptions_cancel subscriber.subscription).2

/-- A bus keeps a book of its subscriptions. -/
theorem keepsSubscriptions : KeepsBook Proxy.subscription? openSubscriptions where
  distinct := fun bus => nodup_openFrom _ _ (fun _ _ => congrArg SubscriptionId.number) _ _
  advertised := by
    intro bus after topic typeName options publisher opens _
    obtain ⟨_, _, _, _, rfl⟩ := advertise_eq_ok opens
    exact (List.append_nil _).symm
  subscribed := by
    rintro bus after topic typeName options subscriber opens rfl
    obtain ⟨last, _, _, _, rfl⟩ := subscribe_eq_ok opens
    rw [openSubscriptions, subscribed, openFrom_append _ _ _ _ _ rfl, Nat.zero_add, ← last]
    rfl
  published := fun bus id payload => (bus.open_publish id payload).2
  closed := by
    intro bus proxy
    cases proxy with
    | publisher publisher => exact (bus.openPublications_withdraw publisher.publication).2
    | subscriber subscriber => exact (bus.openSubscriptions_cancel subscriber.subscription).1

/-! ## Closing again -/

theorem mem_openPublications_iff {bus : Bus} {id : PublicationId} {topic : String} :
    (id, topic) ∈ bus.openPublications ↔
      ∃ publication, bus.publications[id.number]? = some publication ∧
        publication.isOpen = true ∧ publication.topic = topic :=
  mem_openFrom_zero_iff _ _ fun _ _ => congrArg PublicationId.number

theorem mem_openSubscriptions_iff {bus : Bus} {id : SubscriptionId} {topic : String} :
    (id, topic) ∈ bus.openSubscriptions ↔
      ∃ subscription, bus.subscriptions[id.number]? = some subscription ∧
        subscription.isOpen = true ∧ subscription.topic = topic :=
  mem_openFrom_zero_iff _ _ fun _ _ => congrArg SubscriptionId.number

/-- A proxy that has closed what it had open may close it again. -/
theorem close_close (bus : Bus) (proxy : Proxy) :
    Bridge.close (Bridge.close bus proxy) proxy = Bridge.close bus proxy := by
  cases proxy with
  | publisher publisher =>
      refine withdraw_of_closed fun publication found => ?_
      have struck : ((publisher.publication, publication.topic)) ∉
          (bus.withdraw publisher.publication).openPublications := by
        rw [(bus.openPublications_withdraw publisher.publication).1]
        simp [Dict.erase]
      rw [mem_openPublications_iff] at struck
      exact Bool.eq_false_iff.mpr fun isOpen => struck ⟨publication, found, isOpen, rfl⟩
  | subscriber subscriber =>
      refine cancel_of_closed fun subscription found => ?_
      have struck : ((subscriber.subscription, subscription.topic)) ∉
          (bus.cancel subscriber.subscription).openSubscriptions := by
        rw [(bus.openSubscriptions_cancel subscriber.subscription).1]
        simp [Dict.erase]
      rw [mem_openSubscriptions_iff] at struck
      exact Bool.eq_false_iff.mpr fun isOpen => struck ⟨subscription, found, isOpen, rfl⟩

/-! ## The table -/

/-- The table counts what the books of a bus list. -/
theorem Bound.counts_open {bus : Bus} (bound : bus.Bound) (name : String) :
    ((Dict.get? bus.topics name).map Topic.publishers).getD 0 =
        (bus.openPublications.filter fun line => line.2 = name).length ∧
      ((Dict.get? bus.topics name).map Topic.subscribers).getD 0 =
        (bus.openSubscriptions.filter fun line => line.2 = name).length := by
  rw [← bound.publishers_on, ← bound.subscribers_on, openPublications, openSubscriptions,
    length_openFrom, length_openFrom]
  exact ⟨rfl, rfl⟩

/-- A bus on which nothing is open has no topic. -/
theorem Orderly.topics_eq_nil {bus : Bus} (orderly : bus.Orderly)
    (publications : bus.openPublications = []) (subscriptions : bus.openSubscriptions = []) :
    bus.topics = [] := by
  cases isClosed : bus.isClosed with
  | true => exact orderly.empty isClosed
  | false =>
      rw [List.eq_nil_iff_forall_not_mem]
      rintro ⟨name, topic⟩ member
      have there := (Dict.mem_keys_iff bus.topics name).mp (List.mem_map_of_mem member)
      obtain ⟨publishers, subscribers⟩ := (orderly.bound isClosed).counts_open name
      rw [orderly.used.isSome_iff, publishers, subscribers, publications, subscriptions] at there
      cases there

/-- The bookkeeping of a bus outlasts whatever a bridge asks of it. -/
theorem orderly_lasting : Lasting Bus.Orderly where
  advertised := by
    intro bus after topic typeName options id opens orderly
    have opens : bus.advertise topic typeName options = .ok (id, after) := opens
    have acted := orderly.act (.advertise topic typeName options)
    rwa [act, opens] at acted
  subscribed := by
    intro bus after topic typeName options id opens orderly
    have opens : bus.subscribe topic typeName options = .ok (id, after) := opens
    have acted := orderly.act (.subscribe topic typeName options)
    rwa [act, opens] at acted
  published := fun id payload orderly => orderly.act (.publish id payload)
  closed := by
    intro bus proxy orderly
    cases proxy with
    | publisher publisher => exact orderly.act (.withdraw publisher.publication)
    | subscriber subscriber => exact orderly.act (.cancel subscriber.subscription)

end Bus

/-- What is open in a bus is what the live proxies have open. -/
theorem Run.bus_booked {types : Catalog} {config : BridgeConfig} {options : BusConfig}
    {past : List (Moment Bus)} {world : World Bus}
    (run : Run (World.fresh types config ({ config := options } : Bus)) past world)
    (alone : OnlyUser Bus.MovesOn past) :
    world.bridge.Booked Proxy.publication? Bus.openPublications ∧
      world.bridge.Booked Proxy.subscription? Bus.openSubscriptions := by
  refine ⟨run.booked Bus.keepsPublications (fun moves => ?_) rfl alone,
    run.booked Bus.keepsSubscriptions (fun moves => moves.open.2) rfl alone⟩
  rw [Bus.openPublications, Bus.openPublications, moves.open.1]

end TopicBridge
