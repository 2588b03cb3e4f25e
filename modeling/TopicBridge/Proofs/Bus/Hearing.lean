import TopicBridge.Proofs.Bus.Serving

/-!
# What a subscription hears

A subscription listens until it is closed or the bus is shut down, and hears what is
sent on its topic.  Its worker may be inside a delivery just then.  In that case it
goes on, and hears what is sent on the channel of the subscription, until it comes
to wait.  After that it is handed nothing any more.

So what is sent for a subscription in a run is what was sent on its topic while it
listened, provided that it was stopped between two deliveries.
-/

namespace TopicBridge

namespace Bus

/-! ## The records of a run -/

/-- A subscription is open on a bus that is not shut down. -/
def listens (bus : Bus) (id : SubscriptionId) : Bool :=
  !bus.isClosed && bus.subscriptions[id.number]?.any (·.isOpen)

/-- The worker of a subscription may take messages: the subscription listens, or it
was stopped during a delivery that goes on still. -/
def hears (bus : Bus) (id : SubscriptionId) : Bool :=
  bus.listens id || bus.isDelivering id

/-- What an action sends on the channel of a subscription. -/
def feeds (bus : Bus) (id : SubscriptionId) : Action → List Bytes
  | .publish publisher payload =>
      match bus.publications[publisher.number]?, bus.subscriptions[id.number]? with
      | some publication, some subscription =>
          if publication.isOpen ∧ publication.channel = subscription.channel then [payload] else []
      | _, _ => []
  | _ => []

namespace Moment

/-- What is sent on a topic at a moment at which a subscription listens. -/
def heard (moment : Moment) (id : SubscriptionId) (name : String) : List Bytes :=
  if moment.bus.listens id then
    (moment.sends?.toList.filter fun sent => sent.1 = name).map (·.2)
  else []

/-- What is sent on the channel of a subscription at a moment at which it does not
listen any more, but its worker is inside a delivery still. -/
def overheard (moment : Moment) (id : SubscriptionId) : List Bytes :=
  if !moment.bus.listens id && moment.bus.isDelivering id then moment.bus.feeds id moment.action
  else []

/-- What is sent at a moment for a subscription to a topic. -/
def reaching (moment : Moment) (id : SubscriptionId) (name : String) : List Bytes :=
  moment.heard id name ++ moment.overheard id

end Moment

/-- What a subscription is handed in a run. -/
def delivered (id : SubscriptionId) (past : List Moment) : List Bytes :=
  ofSubscription id (past.flatMap Moment.handed)

/-- How many messages a subscription skips in a run. -/
def skippedBy (id : SubscriptionId) (past : List Moment) : Nat :=
  (ofSubscription id (past.flatMap Moment.skips)).sum

/-- What is sent on a topic in a run while a subscription listens. -/
def listened (id : SubscriptionId) (name : String) (past : List Moment) : List Bytes :=
  past.flatMap (·.heard id name)

/-- What is sent in a run for a subscription to a topic. -/
def window (id : SubscriptionId) (name : String) (past : List Moment) : List Bytes :=
  past.flatMap (·.reaching id name)

section

variable (id : SubscriptionId) (past : List Moment) (moment : Moment)

theorem delivered_append : delivered id (past ++ [moment]) =
    delivered id past ++ ofSubscription id moment.handed := by
  simp [delivered, ofSubscription_append]

theorem skippedBy_append : skippedBy id (past ++ [moment]) =
    skippedBy id past + (ofSubscription id moment.skips).sum := by
  simp [skippedBy, ofSubscription_append]

theorem window_append (name : String) : window id name (past ++ [moment]) =
    window id name past ++ moment.reaching id name := by
  simp [window]

end

theorem listens_of_found {bus : Bus} {id : SubscriptionId} {subscription : Subscription}
    (found : bus.subscriptions[id.number]? = some subscription) :
    bus.listens id = (!bus.isClosed && subscription.isOpen) := by
  rw [listens, found]
  rfl

theorem open_of_listens {bus : Bus} {id : SubscriptionId} {subscription : Subscription}
    (found : bus.subscriptions[id.number]? = some subscription) (listens : bus.listens id = true) :
    bus.isClosed = false ∧ subscription.isOpen = true := by
  rwa [listens_of_found found, Bool.and_eq_true, Bool.not_eq_true'] at listens

theorem hears_of_listens {bus : Bus} {id : SubscriptionId} (listens : bus.listens id = true) :
    bus.hears id = true := by
  rw [hears, listens, Bool.true_or]

/-- A worker takes messages if it may, unless delivery is held back. -/
theorem attends_eq {bus : Bus} {id : SubscriptionId} {subscription : Subscription}
    (found : bus.subscriptions[id.number]? = some subscription) :
    bus.attends subscription = (!bus.isHeld && bus.hears id) := by
  rw [attends, hears, listens_of_found found, isDelivering_of_found found, Bool.or_comm]

/-- Nothing is sent on a publication that is not open. -/
theorem feeds_of_closed {bus : Bus} {publisher : PublicationId}
    (closed : ∀ publication, bus.publications[publisher.number]? = some publication →
      publication.isOpen = false) (id : SubscriptionId) (payload : Bytes) :
    bus.feeds id (.publish publisher payload) = [] := by
  rw [feeds]
  split
  · rename_i publication subscription found _
    exact if_neg (by simp [closed publication found])
  · rfl

/-! ## Listening -/

/-- An action leaves a subscription on its topic and its channel, and only its own
cancellation closes it. -/
theorem subscription_act (bus : Bus) (action : Action) {id : SubscriptionId}
    {subscription : Subscription} (found : bus.subscriptions[id.number]? = some subscription) :
    ∃ after, (bus.act action).subscriptions[id.number]? = some after ∧
      after.topic = subscription.topic ∧ after.channel = subscription.channel ∧
      after.isOpen = (subscription.isOpen && action != .cancel id) := by
  have does := bus.does action
  generalize bus.act action = after at does ⊢
  cases does with
  | subscribed isOpen answer binds =>
      refine ⟨subscription, ?_, rfl, rfl, by simp⟩
      exact (List.getElem?_append_left (List.getElem?_eq_some_iff.mp found).1).trans found
  | @published id publication payload found' isOpen =>
      exact ⟨subscription, by rw [subscriptions_sent]; exact found, rfl, rfl, by simp⟩
  | @withdrawn id publication found' isOpen =>
      exact ⟨subscription, by rw [withdraw_frame]; exact found, rfl, rfl, by simp⟩
  | @cancelled other listener found' isOpen =>
      rw [cancel_of_open found' isOpen]
      by_cases own : other = id
      · subst own
        exact ⟨{ subscription with isOpen := false }, by simp [found], rfl, rfl, by simp⟩
      · refine ⟨subscription, ?_, rfl, rfl, by simp [own]⟩
        simp [SubscriptionId.number_ne own, found]
  | @notCancelled other closed =>
      refine ⟨subscription, found, rfl, rfl, ?_⟩
      by_cases own : other = id
      · subst own
        simp [closed subscription found]
      · simp [own]
  | @served other listener payload found' attends ready served =>
      by_cases own : other = id
      · subst own
        cases found.symm.trans found'
        have moves := moves_begun ready
        refine ⟨bus.begun subscription, by simp [moved, found], moves.topic, moves.channel, ?_⟩
        simp [moves.isOpen]
      · refine ⟨subscription, ?_, rfl, rfl, by simp⟩
        simp [moved, SubscriptionId.number_ne own, found]
  | @paused other listener found' =>
      by_cases own : other = id
      · subst own
        exact ⟨subscription.rested, by simp [moved, found], rfl, rfl, by simp [Subscription.rested]⟩
      · refine ⟨subscription, ?_, rfl, rfl, by simp⟩
        simp [moved, SubscriptionId.number_ne own, found]
  | servedAll =>
      have moves := bus.moves_settled subscription
      refine ⟨bus.settled subscription, ?_, moves.topic, moves.channel, by simp [moves.isOpen]⟩
      exact (List.getElem?_map ..).trans (by rw [found]; rfl)
  | _ => exact ⟨subscription, found, rfl, rfl, by simp⟩

/-- A subscription listens until it is closed or the bus is shut down. -/
theorem listens_act (bus : Bus) (action : Action) {id : SubscriptionId}
    {subscription : Subscription} (found : bus.subscriptions[id.number]? = some subscription) :
    (bus.act action).listens id =
      (bus.listens id && (action != .cancel id && action != .shutdown)) := by
  obtain ⟨after, found', _, _, isOpen⟩ := bus.subscription_act action found
  rw [listens_of_found found', listens_of_found found, isOpen, (bus.act_frame action).2]
  cases bus.isClosed <;> cases subscription.isOpen <;> cases h : action == .shutdown <;>
    simp_all [bne]

/-- Whoever is inside a delivery was so before, or was listening and has been
served. -/
theorem isDelivering_act (bus : Bus) (action : Action) {id : SubscriptionId}
    {subscription : Subscription} (found : bus.subscriptions[id.number]? = some subscription)
    (delivering : (bus.act action).isDelivering id = true) :
    bus.isDelivering id = true ∨ action = .serve id ∧ bus.listens id = true := by
  have does := bus.does action
  generalize bus.act action = after at does delivering
  rw [isDelivering_of_found found]
  have same : after.subscriptions[id.number]? = bus.subscriptions[id.number]? →
      subscription.isDelivering = true := by
    intro same
    rwa [isDelivering_of_found (same.trans found)] at delivering
  cases does with
  | subscribed isOpen answer binds =>
      exact .inl (same (List.getElem?_append_left (List.getElem?_eq_some_iff.mp found).1))
  | published found' isOpen => exact .inl (same (by rw [subscriptions_sent]))
  | withdrawn found' isOpen => exact .inl (same (by rw [withdraw_frame]))
  | @cancelled other listener found' isOpen =>
      rw [cancel_of_open found' isOpen] at delivering
      by_cases own : other = id
      · subst own
        simp only [isDelivering, List.getElem?_modify_eq, found] at delivering
        exact .inl delivering
      · simp [isDelivering, SubscriptionId.number_ne own, found] at delivering
        exact .inl delivering
  | @served other listener payload found' attends ready served =>
      by_cases own : other = id
      · subst own
        cases found.symm.trans found'
        rw [attends_eq found, Bool.and_eq_true, hears, Bool.or_eq_true,
          isDelivering_of_found found] at attends
        exact attends.2.symm.imp_right fun listens => ⟨rfl, listens⟩
      · exact .inl (same (by simp [moved, SubscriptionId.number_ne own]))
  | @paused other listener found' =>
      by_cases own : other = id
      · subst own
        simp [isDelivering, moved, found, Subscription.rested] at delivering
      · exact .inl (same (by simp [moved, SubscriptionId.number_ne own]))
  | servedAll =>
      have later : bus.arrivals.2.subscriptions[id.number]? = some (bus.settled subscription) :=
        (List.getElem?_map ..).trans (by rw [found]; rfl)
      rw [isDelivering_of_found later, settled] at delivering
      split at delivering
      · cases delivering
      · exact .inl delivering
  | _ => exact .inl (same rfl)

/-- A worker that takes no messages any more never takes one again. -/
theorem hears_act (bus : Bus) (action : Action) {id : SubscriptionId}
    {subscription : Subscription} (found : bus.subscriptions[id.number]? = some subscription)
    (hears : (bus.act action).hears id = true) : bus.hears id = true := by
  rw [Bus.hears, Bool.or_eq_true] at hears ⊢
  rcases hears with listens | delivering
  · rw [bus.listens_act action found, Bool.and_eq_true] at listens
    exact .inl listens.1
  · exact (bus.isDelivering_act action found delivering).symm.imp_left And.right

/-- A worker that takes no messages any more is handed nothing and skips nothing, and
nothing is sent for it. -/
theorem silent_of_not_hears {bus : Bus} {id : SubscriptionId} {subscription : Subscription}
    (found : bus.subscriptions[id.number]? = some subscription) (deaf : bus.hears id = false)
    (name : String) (action : Action) :
    ofSubscription id (bus.handed action) = [] ∧
      (ofSubscription id (bus.skips action)).sum = 0 ∧
      Moment.reaching ⟨bus, action⟩ id name = [] := by
  have idle : bus.attends subscription = false := by rw [attends_eq found, deaf, Bool.and_false]
  obtain ⟨handed, skips⟩ := handed_of_idle found action fun _ => idle
  refine ⟨handed, skips, ?_⟩
  rw [hears, Bool.or_eq_false_iff] at deaf
  simp [Moment.reaching, Moment.heard, Moment.overheard, deaf]

/-! ## Stopping between deliveries -/

/-- A subscription is closed, and the bus is shut down, only while its worker waits. -/
def StopsAtRest (id : SubscriptionId) (past : List Moment) : Prop :=
  ∀ moment ∈ past, moment.action = .cancel id ∨ moment.action = .shutdown →
    moment.bus.isDelivering id = false

instance (id : SubscriptionId) (past : List Moment) : Decidable (StopsAtRest id past) :=
  inferInstanceAs (Decidable (∀ moment ∈ past, _))

/-- A subscription that is stopped between two deliveries hears nothing but what is
sent on its topic while it listens. -/
theorem heard_of_stopsAtRest {bus : Bus} {id : SubscriptionId} {subscription : Subscription}
    (found : bus.subscriptions[id.number]? = some subscription)
    (awake : bus.isDelivering id = true → bus.listens id = true) (name : String)
    (actions : List Action) (stops : StopsAtRest id (bus.moments actions)) :
    (bus.acts actions).hears id = (bus.acts actions).listens id ∧
      window id name (bus.moments actions) = listened id name (bus.moments actions) := by
  induction actions generalizing bus subscription with
  | nil =>
      refine ⟨?_, rfl⟩
      change bus.hears id = bus.listens id
      cases delivering : bus.isDelivering id with
      | false => rw [hears, delivering, Bool.or_false]
      | true => rw [awake delivering, hears_of_listens (awake delivering)]
  | cons action later ih =>
      obtain ⟨first, rest⟩ := List.forall_mem_cons.mp stops
      obtain ⟨after, found', _⟩ := bus.subscription_act action found
      -- a delivery that goes on after a step was not cut off by that step
      have awake' : (bus.act action).isDelivering id = true →
          (bus.act action).listens id = true := by
        intro delivering
        rw [bus.listens_act action found]
        rcases bus.isDelivering_act action found delivering with before | ⟨rfl, listens⟩
        · have goesOn : action ≠ .cancel id ∧ action ≠ .shutdown := by
            constructor <;> rintro rfl
            · cases before.symm.trans (first (.inl rfl))
            · cases before.symm.trans (first (.inr rfl))
          simp [awake before, goesOn]
        · simp [listens]
      obtain ⟨hears, same⟩ := ih found' awake' rest
      refine ⟨hears, ?_⟩
      have nothing : Moment.overheard ⟨bus, action⟩ id = [] := by
        refine if_neg fun deaf => ?_
        obtain ⟨stopped, delivering⟩ := Bool.and_eq_true_iff.mp deaf
        rw [awake delivering] at stopped
        cases stopped
      rw [moments, window, listened, List.flatMap_cons, List.flatMap_cons, Moment.reaching, nothing,
        List.append_nil]
      exact congrArg _ same

/-- What is sent after a subscription was closed is handed to a worker that was inside
a delivery then. -/
example :
    delivered ⟨0⟩ (moments {} [.advertise "/t" "A" {}, .subscribe "/t" "A" {}, .publish ⟨0⟩ [1],
      .serve ⟨0⟩, .cancel ⟨0⟩, .publish ⟨0⟩ [2], .serve ⟨0⟩]) = [[1], [2]] := by
  decide +kernel

/-! ## Shutting down between deliveries -/

/-- The bus is shut down only while every worker waits. -/
def ShutsDownAtRest (past : List Moment) : Prop :=
  ∀ moment ∈ past, moment.action = .shutdown → moment.bus.AtRest

instance (past : List Moment) : Decidable (ShutsDownAtRest past) :=
  inferInstanceAs (Decidable (∀ moment ∈ past, _))

/-- Only serving a subscription begins a delivery, and not on a bus that is shut
down. -/
theorem AtRest.act {bus : Bus} (rest : bus.AtRest) {action : Action}
    (idle : ∀ id, action = .serve id → bus.isClosed = true) : (bus.act action).AtRest := by
  have does := bus.does action
  generalize bus.act action = after at does ⊢
  cases does with
  | subscribed isOpen answer binds => exact List.forall_mem_append.mpr ⟨rest, by simp⟩
  | published found isOpen => rwa [AtRest, subscriptions_sent]
  | withdrawn found isOpen => rwa [AtRest, withdraw_frame]
  | cancelled found isOpen =>
      rw [cancel_of_open found isOpen]
      intro subscription member
      rcases mem_modify member with before | ⟨before, there, rfl⟩
      · exact rest subscription before
      · exact rest before (List.mem_of_getElem? there)
  | served found attends ready served =>
      rw [attends_of_waits (rest _ (List.mem_of_getElem? found)), goesOn, idle _ rfl,
        Bool.or_true] at attends
      cases attends
  | paused found =>
      intro subscription member
      rcases mem_modify member with before | ⟨before, _, rfl⟩
      · exact rest subscription before
      · rfl
  | servedAll =>
      intro subscription member
      obtain ⟨before, there, rfl⟩ := List.mem_map.mp member
      unfold settled
      split
      · rfl
      · exact rest before there
  | _ => exact rest

section

variable {bus : Bus} (closed : bus.isClosed = true)

include closed

theorem hears_of_closed (id : SubscriptionId) : bus.hears id = bus.isDelivering id := by
  rw [hears, listens, closed]
  rfl

/-- On a bus that is shut down, no worker starts a delivery any more. -/
theorem AtRest.acts (rest : bus.AtRest) (actions : List Action) :
    (bus.acts actions).isClosed = true ∧ (bus.acts actions).AtRest := by
  refine acts_induction (fun _ bus => bus.isClosed = true ∧ bus.AtRest) ?_ [] ⟨closed, rest⟩ actions
  rintro past bus action ⟨closed, rest⟩
  exact ⟨by rw [(bus.act_frame action).2, closed, Bool.true_or], rest.act fun _ _ => closed⟩

/-- A worker that waits is handed nothing any more. -/
theorem handed_of_closed {id : SubscriptionId} (waits : bus.isDelivering id = false)
    (action : Action) : ofSubscription id (bus.handed action) = [] := by
  cases found : bus.subscriptions[id.number]? with
  | none => exact handed_of_unopened found action
  | some subscription =>
      have deaf : bus.hears id = false := by rw [hears_of_closed closed, waits]
      exact (silent_of_not_hears found deaf subscription.topic action).1

/-- If all workers wait, nothing at all is handed out any more. -/
theorem AtRest.silent (rest : bus.AtRest) (action : Action) : bus.handed action = [] := by
  rw [List.eq_nil_iff_forall_not_mem]
  rintro ⟨id, payload⟩ member
  have handed : payload ∈ ofSubscription id (bus.handed action) :=
    List.mem_filterMap.mpr ⟨_, member, if_pos rfl⟩
  rw [handed_of_closed closed (atRest_iff.mp rest id)] at handed
  cases handed

end

/-- A bus that is shut down while every worker waits hands out nothing any more. -/
theorem handed_of_shutsDownAtRest {bus : Bus} {actions : List Action}
    (ended : .shutdown ∈ actions) (stops : ShutsDownAtRest (bus.moments actions))
    (action : Action) : (bus.acts actions).handed action = [] := by
  obtain ⟨earlier, later, rfl⟩ := List.append_of_mem ended
  rw [moments_append, moments] at stops
  have rest : (bus.acts earlier).shutdown.AtRest :=
    stops _ (List.mem_append_right _ List.mem_cons_self) rfl
  obtain ⟨closed, rest⟩ := rest.acts rfl later
  rw [acts_append]
  exact rest.silent closed action

end Bus

end TopicBridge
