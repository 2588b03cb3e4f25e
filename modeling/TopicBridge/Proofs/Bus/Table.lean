import TopicBridge.Proofs.Bus.Hearing
import TopicBridge.Proofs.Bus.Register

/-!
# The table of topics

For every list of actions the table follows from the register of the observer.
Before the shutdown every topic in it is used and typed as the register says,
another type is refused, and a topic that nobody uses may be opened with any type.
After the shutdown nothing is open and nothing can be opened, and what is still
closed finds nothing to change.  Nothing is handed out either, apart from what a
worker still takes that was inside a delivery at the shutdown.
-/

namespace TopicBridge

namespace Bus

/-! ## Counts -/

section Counts

variable {bus : Bus} (name : String)

/-- The table counts the open publications on a topic. -/
theorem Bound.publishers_on (bound : bus.Bound) :
    (bus.publications.filter fun p => p.isOpen && p.topic = name).length =
      ((Dict.get? bus.topics name).map Topic.publishers).getD 0 := by
  rw [← List.length_map Publication.channel]
  change (bus.publishing name).length = _
  rw [bound.publishing, counted]
  split <;> rename_i found <;> simp [found]

/-- The table counts the open subscriptions to a topic. -/
theorem Bound.subscribers_on (bound : bus.Bound) :
    (bus.subscriptions.filter fun s => s.isOpen && s.topic = name).length =
      ((Dict.get? bus.topics name).map Topic.subscribers).getD 0 := by
  rw [← List.length_map Subscription.channel]
  change (bus.subscribing name).length = _
  rw [bound.subscribing, counted]
  split <;> rename_i found <;> simp [found]

/-- A topic is in the table as long as something is counted on it. -/
theorem Used.isSome_iff (used : Used bus.topics) :
    (Dict.get? bus.topics name).isSome = true ↔
      0 < ((Dict.get? bus.topics name).map Topic.publishers).getD 0 +
        ((Dict.get? bus.topics name).map Topic.subscribers).getD 0 := by
  cases found : Dict.get? bus.topics name with
  | none => simp
  | some topic =>
      have isUsed := used name topic found
      have inUse : ¬ (topic.publishers = 0 ∧ topic.subscribers = 0) := fun unused => by
        rw [(Topic.isUnused_iff topic).mpr unused] at isUsed
        cases isUsed
      simp only [Option.isSome_some, Option.map_some, Option.getD_some, true_iff]
      omega

end Counts

namespace Register.Mirrors

variable {register : Register} {bus : Bus}

theorem publishers_eq (mirrors : register.Mirrors bus) (bound : bus.Bound) (name : String) :
    register.publishers name =
      ((Dict.get? bus.topics name).map Topic.publishers).getD 0 := by
  rw [publishers, count_of_mirrors mirrors.publications, ← bound.publishers_on]

theorem subscribers_eq (mirrors : register.Mirrors bus) (bound : bus.Bound) (name : String) :
    register.subscribers name =
      ((Dict.get? bus.topics name).map Topic.subscribers).getD 0 := by
  rw [subscribers, count_of_mirrors mirrors.subscriptions, ← bound.subscribers_on]

end Register.Mirrors

/-! ## Before the shutdown -/

/-- How the table of an open bus follows from a register. -/
structure Register.Governs (register : Register) (bus : Bus) : Prop where
  /-- A topic is in the table as long as something is open on it. -/
  topics : ∀ name, (Dict.get? bus.topics name).isSome = true ↔
    0 < register.publishers name + register.subscribers name
  /-- The table counts what is open, so what is open is counted when it closes. -/
  counts : ∀ name topic, Dict.get? bus.topics name = some topic →
    topic.publishers = register.publishers name ∧ topic.subscribers = register.subscribers name
  /-- Everything that is open was opened with the type of its topic. -/
  typed : ∀ opening ∈ register.openings, bus.topicType? opening.topic = some opening.typeName
  /-- An open publication sends to the channel that the open subscriptions to its
  topic listen to, and to no other one. -/
  shared : ∀ {id opening other opened}, (id, opening) ∈ register.publications →
    (other, opened) ∈ register.subscriptions →
    ∃ subscription, bus.subscriptions[other.number]? = some subscription ∧
      ∀ payload, (bus.publish id payload).channel subscription.channel =
        if opening.topic = opened.topic then (bus.channel subscription.channel).send payload
        else bus.channel subscription.channel
  /-- Another type than that of the topic is refused, and nothing changes. -/
  conflict : ∀ {name existing typeName}, bus.topicType? name = some existing →
    existing ≠ typeName →
    (∀ options, bus.advertise name typeName options =
        .error (.topicConflict name existing typeName) ∧
      bus.act (.advertise name typeName options) = bus) ∧
    ∀ options, bus.subscribe name typeName options =
        .error (.topicConflict name existing typeName) ∧
      bus.act (.subscribe name typeName options) = bus
  /-- The type of the topic is accepted, and any type if nothing is open on it. -/
  accepts : ∀ {name typeName}, (∀ existing, bus.topicType? name = some existing →
      existing = typeName) →
    (∀ options, ∃ id after, bus.advertise name typeName options = .ok (id, after) ∧
      after.topicType? name = some typeName) ∧
    ∀ options, ∃ id after, bus.subscribe name typeName options = .ok (id, after) ∧
      after.topicType? name = some typeName

theorem bind_of_accepted {bus : Bus} {name typeName : String}
    (accepted : ∀ existing, bus.topicType? name = some existing → existing = typeName)
    (queueSize : Nat) :
    ∃ topic bound, bus.bind name typeName queueSize = .ok (topic, bound) ∧
      topic.typeName = typeName := by
  cases found : Dict.get? bus.topics name with
  | none => exact ⟨_, _, bind_of_none found, rfl⟩
  | some topic =>
      have same : topic.typeName = typeName := by
        apply accepted
        rw [topicType?, found]
        rfl
      exact ⟨topic, bus, by rw [bind_of_some found, if_pos same], same⟩

theorem bind_of_conflict {bus : Bus} {name existing typeName : String}
    (found : bus.topicType? name = some existing) (other : existing ≠ typeName) (queueSize : Nat) :
    bus.bind name typeName queueSize = .error (.topicConflict name existing typeName) := by
  obtain ⟨topic, there, rfl⟩ := Option.map_eq_some_iff.mp found
  rw [bind_of_some there, if_neg other]

theorem Register.Mirrors.governs {register : Register} {bus : Bus}
    (mirrors : register.Mirrors bus) (orderly : bus.Orderly) (isOpen : bus.isClosed = false) :
    register.Governs bus where
  topics := by
    intro name
    have bound := orderly.bound isOpen
    rw [mirrors.publishers_eq bound, mirrors.subscribers_eq bound]
    exact orderly.used.isSome_iff name
  counts := by
    intro name topic found
    have bound := orderly.bound isOpen
    rw [mirrors.publishers_eq bound, mirrors.subscribers_eq bound, found]
    exact ⟨rfl, rfl⟩
  typed := by
    intro opening member
    obtain ⟨topic, found⟩ :=
      Option.isSome_iff_exists.mp (mirrors.present (orderly.bound isOpen) member)
    rw [topicType?, found, Option.map_some, mirrors.typed opening member topic found]
  shared := by
    intro id opening other opened published listened
    have bound := orderly.bound isOpen
    obtain ⟨publication, found, there, on⟩ := mirrors.publication published
    obtain ⟨subscription, found', there', on'⟩ := mirrors.subscription listened
    have member := List.mem_of_getElem? found'
    have same := bound.channel_eq_iff (List.mem_of_getElem? found) there member there'
    refine ⟨subscription, found', fun payload => ?_⟩
    rw [publish_of_open found there, channel_sent _ _ _ _ (bound.subscriptions _ member).1, on, on']
    simp only [same]
  conflict := by
    intro name existing typeName found other
    constructor <;> intro options
    · have refused := advertise_of_refusal isOpen (bind_of_conflict found other options.queueSize)
      exact ⟨refused, by rw [act, refused]⟩
    · have refused := subscribe_of_refusal isOpen (bind_of_conflict found other options.queueSize)
      exact ⟨refused, by rw [act, refused]⟩
  accepts := by
    intro name typeName accepted
    constructor <;> intro options <;>
      obtain ⟨topic, bound, bind, same⟩ := bind_of_accepted accepted options.queueSize
    · refine ⟨_, _, advertise_of_bind isOpen bind, ?_⟩
      rw [topicType?, advertised, Dict.get?_insert_self, Option.map_some, same]
    · refine ⟨_, _, subscribe_of_bind isOpen bind, ?_⟩
      rw [topicType?, subscribed, Dict.get?_insert_self, Option.map_some, same]

/-! ## After the shutdown -/

/-- What is left of a bus that is shut down. -/
structure Ended (bus : Bus) : Prop where
  /-- No topic is open. -/
  topics : bus.topics = []
  /-- Nothing can be opened. -/
  refuses : ∀ name typeName,
    (∀ options, bus.advertise name typeName options =
      .error (.middlewareUnavailable "bus is shut down")) ∧
    ∀ options, bus.subscribe name typeName options =
      .error (.middlewareUnavailable "bus is shut down")
  /-- Nothing is handed to a subscription whose worker waits. -/
  silent : ∀ {id}, bus.isDelivering id = false →
    ∀ action, ofSubscription id (bus.handed action) = []
  /-- Closing a publication or a subscription marks it, and changes nothing else. -/
  closing : (∀ id, bus.withdraw id =
      { bus with publications := (bus.withdraw id).publications }) ∧
    ∀ id, bus.cancel id = { bus with subscriptions := (bus.cancel id).subscriptions }

theorem Orderly.ended {bus : Bus} (orderly : bus.Orderly) (closed : bus.isClosed = true) :
    bus.Ended where
  topics := orderly.empty closed
  refuses := fun _ _ => ⟨advertise_of_closed closed, subscribe_of_closed closed⟩
  silent := handed_of_closed closed
  closing := by
    constructor <;> intro id
    · have after := (orderly.act (.withdraw id)).empty ((bus.act_frame _).2.trans (by rw [closed]; rfl))
      have frame := bus.withdraw_frame id
      change (bus.withdraw id).topics = [] at after
      rw [frame, after, ← orderly.empty closed]
    · have after := (orderly.act (.cancel id)).empty ((bus.act_frame _).2.trans (by rw [closed]; rfl))
      have frame := bus.cancel_frame id
      change (bus.cancel id).topics = [] at after
      rw [frame, after, ← orderly.empty closed]

/-! ## Every run -/

theorem Register.ofMoments_append (past : List Moment) (moment : Moment) :
    Register.ofMoments (past ++ [moment]) =
      (Register.ofMoments past).note moment.bus moment.action := by
  rw [ofMoments, List.foldl_append]
  rfl

/-- The register of a run agrees with the bus at its end. -/
theorem mirrors_acts (config : BusConfig) (actions : List Action) :
    (acts { config } actions).Orderly ∧
      (Register.ofMoments (moments { config } actions)).Mirrors (acts { config } actions) := by
  refine acts_induction (fun past bus => bus.Orderly ∧ (Register.ofMoments past).Mirrors bus) ?_
    [] ⟨Orderly.fresh config, Register.Mirrors.fresh config⟩ actions
  rintro past bus action ⟨orderly, mirrors⟩
  rw [Register.ofMoments_append]
  exact ⟨orderly.act action, mirrors.step orderly action⟩

/-- Closing what is not open any more changes nothing. -/
structure Register.ClosesOnce (register : Register) (bus : Bus) : Prop where
  publications : ∀ id, Dict.get? register.publications id = none → bus.withdraw id = bus
  subscriptions : ∀ id, Dict.get? register.subscriptions id = none → bus.cancel id = bus

/-- A topic is opened, a subscription of another type is refused, everything is
closed, one of it twice, and the topic is opened with that other type. -/
def reopening : List Action :=
  [.advertise "/t" "A" {}, .subscribe "/t" "A" {}, .subscribe "/t" "B" {}, .withdraw ⟨0⟩,
    .cancel ⟨0⟩, .cancel ⟨0⟩, .subscribe "/t" "B" {}]

/-- A worker that is inside a delivery at the shutdown gets what is sent later. -/
example :
    (acts {} [.advertise "/t" "A" {}, .subscribe "/t" "A" {}, .publish ⟨0⟩ [1], .serve ⟨0⟩,
      .shutdown, .publish ⟨0⟩ [2]]).handed (.serve ⟨0⟩) = [(⟨0⟩, [2])] := by
  decide +kernel

end Bus

end TopicBridge
