import TopicBridge.Proofs.Traffic.Sound

/-!
# Settling

A bridge that settles takes in everything that the bus can deliver at once, one
subscription after another.  That is one course among many: the workers of the
subscriptions take turns, and each goes on until it comes to wait.  So whatever
holds after every course holds of a bridge that settles.
-/

namespace TopicBridge

namespace Bus

/-- A worker for which nothing is ready has only to wait for the subscription to be
caught up. -/
theorem caughtUp_of_nothing {bus : Bus} (bound : bus.Bound) {subscription : Subscription}
    (member : subscription ∈ bus.subscriptions) (nothing : bus.ready subscription = []) :
    bus.caughtUp subscription = subscription.rested ∧ bus.skipped subscription = 0 := by
  obtain ⟨there, passed⟩ := bound.subscriptions subscription member
  have room : 0 < (bus.channel subscription.channel).capacity := by
    apply bound.capacity
    rw [channel, List.getD_eq_getElem?_getD, List.getElem?_eq_getElem there]
    exact List.getElem_mem there
  obtain ⟨topic, channel, replay, position, isOpen, isDelivering⟩ := subscription
  rw [ready, List.append_eq_nil_iff] at nothing
  obtain ⟨replayed, kept⟩ := nothing
  have length := (bus.channel channel).length_outstandingFrom_add_skippedFrom position
  dsimp only at kept passed room replayed
  rw [kept, List.length_nil, Nat.zero_add] at length
  have none : replay = none := by simpa using replayed
  have level : (bus.channel channel).sent = position := by
    simp only [Channel.skippedFrom, Channel.behind] at length
    omega
  refine ⟨?_, ?_⟩
  · rw [caughtUp, level, none, Subscription.rested]
  · simp [skipped, Channel.skippedFrom, Channel.behind, level]

/-- Catching up after the next message is catching up. -/
theorem begun_caughtUp {bus : Bus} {subscription : Subscription} {payload : Bytes}
    {rest : List Bytes} (waits : bus.ready subscription = payload :: rest) :
    bus.caughtUp (bus.begun subscription) = bus.caughtUp subscription ∧
      bus.missed subscription + bus.skipped (bus.begun subscription) = bus.skipped subscription := by
  obtain ⟨topic, channel, replay, position, isOpen, isDelivering⟩ := subscription
  cases replay with
  | some first => exact ⟨rfl, Nat.zero_add _⟩
  | none =>
      refine ⟨rfl, ?_⟩
      have length := (bus.channel channel).length_outstandingFrom_add_skippedFrom position
      have kept : (bus.channel channel).outstandingFrom position = payload :: rest := waits
      rw [kept, List.length_cons] at length
      simp only [begun, missed, passed, skipped, Channel.skippedFrom, Channel.behind,
        Option.isSome_none, Bool.false_eq_true, if_false] at length ⊢
      omega

/-- A subscription for which nothing is ready catches up when its worker waits. -/
theorem moved_caughtUp_of_nothing {bus : Bus} (bound : bus.Bound) {id : SubscriptionId}
    {subscription : Subscription} (found : bus.subscriptions[id.number]? = some subscription)
    (nothing : bus.ready subscription = []) :
    bus.moved id (bus.lagged + bus.skipped subscription) bus.caughtUp = bus.pause id := by
  obtain ⟨level, none⟩ := caughtUp_of_nothing bound (List.mem_of_getElem? found) nothing
  rw [moved, none, modify_congr found level]
  rfl

/-- A subscription whose worker takes the next message and then catches up has caught
up. -/
theorem moved_begun_caughtUp {bus : Bus} {id : SubscriptionId} {subscription : Subscription}
    (found : bus.subscriptions[id.number]? = some subscription) {payload : Bytes}
    {rest : List Bytes} (waits : bus.ready subscription = payload :: rest) :
    (bus.moved id (bus.lagged + bus.missed subscription) bus.begun).moved id
        (bus.lagged + bus.missed subscription + bus.skipped (bus.begun subscription))
          bus.caughtUp =
      bus.moved id (bus.lagged + bus.skipped subscription) bus.caughtUp := by
  obtain ⟨again, lagged⟩ := begun_caughtUp waits
  simp only [moved, List.modify_modify_eq, Nat.add_assoc, lagged]
  rw [modify_congr found (again : (bus.caughtUp ∘ bus.begun) _ = _)]

/-- Nothing is left of what was delivered. -/
theorem waiting_arrivals {bus : Bus} (goesOn : bus.goesOn = true) (id : SubscriptionId) :
    bus.arrivals.2.waiting id = [] := by
  cases found : bus.subscriptions[id.number]? with
  | none =>
      rw [waiting, arrivals, List.getElem?_map, found]
      rfl
  | some subscription =>
      have later : bus.arrivals.2.subscriptions[id.number]? = some (bus.settled subscription) :=
        (List.getElem?_map ..).trans (by rw [found]; rfl)
      rw [waiting_of_some later]
      cases attends : bus.attends subscription with
      | false =>
          have idle := attends
          rw [attends_of_goesOn goesOn] at idle
          rw [settled, attends, if_neg Bool.false_ne_true, outstanding, idle,
            if_neg Bool.false_ne_true]
      | true =>
          rw [settled, if_pos attends]
          simp [outstanding, ready, caughtUp, arrivals, channel, Channel.outstandingFrom,
            Channel.behind]

end Bus

theorem modify_append_cons {α : Type} (done rest : List α) (item : α) (change : α → α) :
    (done ++ item :: rest).modify done.length change = done ++ change item :: rest := by
  induction done with
  | nil => rfl
  | cons first done ih =>
      rw [List.cons_append, List.length_cons, List.modify_succ_cons, ih]
      rfl

namespace Bridge

/-- A delivery does not look at the bus. -/
theorem deliver_withBus (bridge : Bridge Bus) (middleware : Bus) (id : SubscriptionId)
    (payload : Bytes) :
    ({ bridge with middleware } : Bridge Bus).deliver id payload =
      { bridge.deliver id payload with middleware } := by
  obtain ⟨types, config, _, table, pending, targets, counters, reports, isLoaded⟩ := bridge
  unfold deliver receive
  cases isLoaded with
  | false => rfl
  | true =>
      dsimp only [if_true]
      cases Dict.get? targets id with
      | none => rfl
      | some target =>
          dsimp only [count]
          cases target.codec.decode payload with
          | error e => rfl
          | ok value =>
              dsimp only
              cases table.callbackOf? target.handle target.generation with
              | none => rfl
              | some callback =>
                  dsimp only [enqueue]
                  by_cases space : pending.size < config.queueCapacity
                  · rw [if_pos space, if_pos space]
                    rfl
                  · rw [if_neg space, if_neg space]
                    rfl

theorem deliverAll_withBus (bridge : Bridge Bus) (middleware : Bus) (arrivals : List Arrival) :
    ({ bridge with middleware } : Bridge Bus).deliverAll arrivals =
      { bridge.deliverAll arrivals with middleware } := by
  induction arrivals generalizing bridge with
  | nil => rfl
  | cons arrival rest ih =>
      change Bridge.deliverAll (Bridge.deliver _ _ _) rest = _
      rw [deliver_withBus, ih]
      rfl

theorem sameLinks_settle (bridge : Bridge Bus) :
    SameLinks { bridge with middleware := bridge.middleware.arrivals.2 } bridge.settle :=
  .deliverAll _ _

/-- Nothing waits for any subscription once a bridge has settled whose bus goes
on. -/
theorem waiting_settle (bridge : Bridge Bus) (goesOn : bridge.settle.middleware.goesOn = true)
    (id : SubscriptionId) : bridge.settle.middleware.waiting id = [] := by
  rw [bridge.sameLinks_settle.middleware] at goesOn ⊢
  exact Bus.waiting_arrivals (bridge.middleware.goesOn_arrivals.symm.trans goesOn) id

theorem deliverAll_append {μ : Type} (bridge : Bridge μ) (arrivals later : List Arrival) :
    bridge.deliverAll (arrivals ++ later) = (bridge.deliverAll arrivals).deliverAll later :=
  List.foldl_append

end Bridge

namespace Traffic

/-- The traffic after the bus went on to another state and messages were passed to
the bridge. -/
def served (traffic : Traffic) (bus : Bus) (arrivals : List Arrival) : Traffic :=
  traffic.withBridge { traffic.bridge.deliverAll arrivals with middleware := bus }

variable {types : Catalog} {traffic : Traffic}

/-- A worker takes a message and passes it on. -/
theorem course_next (idle : traffic.inHand = []) {id : SubscriptionId}
    {subscription : Bus.Subscription} {payload : Bytes} {rest : List Bytes}
    (found : traffic.bus.subscriptions[id.number]? = some subscription)
    (attends : traffic.bus.attends subscription = true)
    (ready : traffic.bus.ready subscription = payload :: rest) :
    ∃ past, Course traffic past (traffic.served
      (traffic.bus.moved id (traffic.bus.lagged + traffic.bus.missed subscription)
        traffic.bus.begun) [(id, payload)]) := by
  obtain ⟨world, inHand⟩ := traffic
  cases idle
  have served := Bus.serve?_of_attends found attends ready
  generalize (Traffic.bus ⟨world, []⟩).moved id
    ((Traffic.bus ⟨world, []⟩).lagged + (Traffic.bus ⟨world, []⟩).missed subscription)
    (Traffic.bus ⟨world, []⟩).begun = bus at served ⊢
  have first : Traffic.step ⟨world, []⟩ (.fetch id) =
      some ⟨{ world with bridge := { world.bridge with middleware := bus } }, [(id, payload)]⟩ := by
    simp only [step, Dict.get?_nil, served]
    rfl
  have second : Traffic.step
      ⟨{ world with bridge := { world.bridge with middleware := bus } }, [(id, payload)]⟩
        (.pass id) = some (Traffic.served ⟨world, []⟩ bus [(id, payload)]) := by
    have none : Dict.erase [(id, payload)] id = [] := by simp [Dict.erase]
    simp only [step, Dict.get?_cons, if_true, Option.map_some, none]
    change some (Traffic.mk { world with
      bridge := Bridge.deliver { world.bridge with middleware := bus } id payload } []) = _
    rw [Bridge.deliver_withBus]
    rfl
  exact ⟨_, .next first (.next second (.rest _))⟩

/-- A worker with nothing in hand waits. -/
theorem course_pause (idle : traffic.inHand = []) (id : SubscriptionId) :
    ∃ past, Course traffic past (traffic.served (traffic.bus.pause id) []) := by
  have paused : traffic.step (.pause id) = some (traffic.served (traffic.bus.pause id) []) := by
    simp only [step, idle, Dict.get?_nil]
    rfl
  exact ⟨_, .next paused (.rest _)⟩

theorem served_served (bus last : Bus) (arrivals later : List Arrival) :
    (traffic.served bus arrivals).served last later = traffic.served last (arrivals ++ later) := by
  change traffic.withBridge { Bridge.deliverAll
    { traffic.bridge.deliverAll arrivals with middleware := bus } later with middleware := last } = _
  rw [Bridge.deliverAll_withBus, served, Bridge.deliverAll_append]

/-- A worker that takes messages goes on until nothing is ready, and then waits. -/
theorem course_caughtUp {types : Catalog} (registered : types.Registered)
    (sound : traffic.Sound types) (idle : traffic.inHand = []) {id : SubscriptionId}
    {subscription : Bus.Subscription}
    (found : traffic.bus.subscriptions[id.number]? = some subscription)
    (attends : traffic.bus.attends subscription = true) :
    ∃ past, Course traffic past (traffic.served
      (traffic.bus.moved id (traffic.bus.lagged + traffic.bus.skipped subscription)
        traffic.bus.caughtUp)
      ((traffic.bus.ready subscription).map fun payload => (id, payload))) := by
  generalize ready : traffic.bus.ready subscription = kept
  induction kept generalizing traffic subscription with
  | nil =>
      have bound : traffic.bus.Bound := sound.linked.bound
      rw [Bus.moved_caughtUp_of_nothing bound found ready]
      exact course_pause idle id
  | cons payload rest ih =>
      obtain ⟨_, others⟩ := Bus.moves_passed ready
      obtain ⟨past, first⟩ := course_next idle found attends ready
      have found' : (traffic.bus.moved id (traffic.bus.lagged + traffic.bus.missed subscription)
          traffic.bus.begun).subscriptions[id.number]? = some (traffic.bus.begun subscription) := by
        simp [Bus.moved, found]
      obtain ⟨later, second⟩ := ih (first.sound registered sound) idle found'
        (Bus.attends_begun attends _) others
      rw [served_served] at second
      rw [← Bus.moved_begun_caughtUp found ready]
      exact ⟨_, first.trans second⟩

/-- The worker of a subscription goes on until it waits, and one that was stopped
takes nothing. -/
theorem course_settled {types : Catalog} (registered : types.Registered)
    (sound : traffic.Sound types) (idle : traffic.inHand = []) {id : SubscriptionId}
    {subscription : Bus.Subscription}
    (found : traffic.bus.subscriptions[id.number]? = some subscription) :
    ∃ past, Course traffic past (traffic.served
      (traffic.bus.moved id (traffic.bus.lagged + traffic.bus.overrun subscription)
        traffic.bus.settled)
      ((traffic.bus.taken subscription).map fun payload => (id, payload))) := by
  by_cases attends : traffic.bus.attends subscription = true
  · have settles : traffic.bus.settled subscription = traffic.bus.caughtUp subscription :=
      if_pos attends
    rw [Bus.overrun, if_pos attends, Bus.taken, if_pos attends, Bus.moved,
      Bus.modify_congr found settles]
    exact course_caughtUp registered sound idle found attends
  · have settles : traffic.bus.settled subscription = (fun same => same) subscription :=
      if_neg attends
    have unchanged : traffic.bus.subscriptions.modify id.number traffic.bus.settled =
        traffic.bus.subscriptions :=
      (Bus.modify_congr found settles).trans (List.modify_id _ _)
    rw [Bus.overrun, if_neg attends, Bus.taken, if_neg attends, Bus.moved, unchanged]
    exact ⟨[], .rest _⟩

/-- The workers take turns, each until it waits. -/
theorem course_settledAll {types : Catalog} (registered : types.Registered)
    (sound : traffic.Sound types) (idle : traffic.inHand = []) {done rest : List Bus.Subscription}
    (split : traffic.bus.subscriptions = done ++ rest) :
    ∃ past, Course traffic past (traffic.served
      { traffic.bus with
        lagged := rest.foldl (fun count s => count + traffic.bus.overrun s) traffic.bus.lagged
        subscriptions := done ++ rest.map traffic.bus.settled }
      ((rest.zipIdx done.length).flatMap fun (subscription, number) =>
        (traffic.bus.taken subscription).map fun payload => (⟨number⟩, payload))) := by
  induction rest generalizing traffic done with
  | nil =>
      have same : { traffic.bus with subscriptions := done ++ [] } = traffic.bus := by
        rw [← split]
      refine ⟨[], ?_⟩
      simp only [List.foldl_nil, List.map_nil, List.zipIdx_nil, List.flatMap_nil, same]
      exact .rest _
  | cons subscription rest ih =>
      have found : traffic.bus.subscriptions[(⟨done.length⟩ : SubscriptionId).number]? =
          some subscription := by
        rw [split]
        simp
      obtain ⟨past, first⟩ := course_settled registered sound idle found
      have split' : (traffic.bus.moved ⟨done.length⟩
          (traffic.bus.lagged + traffic.bus.overrun subscription)
          traffic.bus.settled).subscriptions =
            (done ++ [traffic.bus.settled subscription]) ++ rest := by
        rw [Bus.moved, split, modify_append_cons, List.append_assoc]
        rfl
      obtain ⟨later, second⟩ := ih (first.sound registered sound) idle split'
      rw [served_served] at second
      refine ⟨_, first.trans (?_ : Course _ later _)⟩
      rw [List.append_assoc, List.length_append] at second
      exact second

/-- What a bridge that settles has done. -/
theorem withBridge_settle (traffic : Traffic) :
    traffic.withBridge traffic.bridge.settle =
      traffic.served traffic.bus.arrivals.2 traffic.bus.arrivals.1 := by
  change traffic.withBridge
    (Bridge.deliverAll { traffic.bridge with middleware := traffic.bus.arrivals.2 } _) = _
  rw [Bridge.deliverAll_withBus]
  rfl

/-- A bridge that settles with nothing in hand has gone through a course. -/
theorem Sound.settle {types : Catalog} (registered : types.Registered)
    (sound : traffic.Sound types) (idle : traffic.inHand = []) :
    ∃ past, Course traffic past (traffic.withBridge traffic.bridge.settle) := by
  rw [withBridge_settle]
  exact course_settledAll registered sound idle (List.nil_append _).symm

end Traffic

end TopicBridge
