import TopicBridge.Proofs.Traffic.Course
import TopicBridge.Proofs.World.Account

/-!
# Every message can be read

The traffic of a bridge is sound if the bridge is linked to its bus, every
message that a worker has in hand can be read by the target of its subscription,
and no message has been unreadable so far.  Every occurrence keeps it sound.
-/

namespace TopicBridge

namespace Bridge

variable {μ : Type}

/-- No message has been unreadable so far. -/
structure ReadsAll (bridge : Bridge μ) : Prop where
  decodeFailures : bridge.counters.decodeFailures = 0
  reports : ∀ handle cause, BridgeError.unreadable handle cause ∉ bridge.reports

section

variable [Middleware μ]

/-- An operation reports nothing. -/
theorem reports_perform (bridge : Bridge μ) (operation : Operation) :
    (bridge.perform operation).reports = bridge.reports := by
  have effect := bridge.performs operation
  generalize bridge.perform operation = after at effect ⊢
  cases effect with
  | refused keeps refuses => rcases refuses with rfl | ⟨_, _, _, rfl⟩ <;> rfl
  | openedPublisher => rfl
  | openedSubscriber => rfl
  | dropped keeps handles => exact bridge.reports_dropAll handles
  | flushed flushes handles isLoaded => exact bridge.reports_dropAll handles
  | published keeps publishes =>
      obtain ⟨middleware, counters, rfl⟩ := publishes
      rfl

theorem decodeFailures_perform (bridge : Bridge μ) (operation : Operation) :
    (bridge.perform operation).counters.decodeFailures = bridge.counters.decodeFailures := by
  cases flushes : operation.flushes with
  | false =>
      have same := congrArg Counters.decodeFailures (bridge.steady_perform flushes).traffic
      exact same
  | true =>
      have same := congrArg Counters.decodeFailures (bridge.flush_perform flushes).2.2
      exact same

end

namespace ReadsAll

variable {bridge : Bridge μ}

theorem perform [Middleware μ] (readsAll : bridge.ReadsAll) (operation : Operation) :
    (bridge.perform operation).ReadsAll := by
  refine ⟨?_, ?_⟩
  · rw [decodeFailures_perform]
    exact readsAll.decodeFailures
  · rw [reports_perform]
    exact readsAll.reports

theorem takePending (readsAll : bridge.ReadsAll) : bridge.takePending.2.ReadsAll := by
  have found := bridge.taking
  generalize bridge.takePending = taken at found ⊢
  cases found <;> exact ⟨readsAll.decodeFailures, readsAll.reports⟩

theorem report (readsAll : bridge.ReadsAll) {e : BridgeError} {counters : Counters}
    (readable : ∀ handle cause, BridgeError.unreadable handle cause ≠ e)
    (same : counters.decodeFailures = bridge.counters.decodeFailures) :
    ReadsAll { bridge with counters, reports := bridge.reports.push e } := by
  refine ⟨same.trans readsAll.decodeFailures, fun handle cause member => ?_⟩
  rcases Array.mem_push.mp member with before | new
  · exact readsAll.reports handle cause before
  · exact readable handle cause new

theorem finish (readsAll : bridge.ReadsAll) (invocation : Invocation)
    (outcome : Except String Unit) : (bridge.finish invocation outcome).ReadsAll := by
  cases outcome with
  | ok => exact ⟨readsAll.decodeFailures, readsAll.reports⟩
  | error reason => exact readsAll.report (fun _ _ same => nomatch same) rfl

/-- A message that its target can read is no failure. -/
theorem deliver (readsAll : bridge.ReadsAll) {subscription : SubscriptionId} {payload : Bytes}
    (reads : ∀ {target}, Dict.get? bridge.targets subscription = some target →
      ∃ value, target.codec.decode payload = .ok value) :
    (bridge.deliver subscription payload).ReadsAll := by
  have outcome := bridge.delivery subscription payload
  generalize bridge.deliver subscription payload = after at outcome ⊢
  cases outcome with
  | ignored unheard => exact readsAll
  | unreadable loaded found failed =>
      obtain ⟨value, decoded⟩ := reads found
      cases failed.symm.trans decoded
  | gone loaded found decoded absent => exact ⟨readsAll.decodeFailures, readsAll.reports⟩
  | full offer space => exact readsAll.report (fun _ _ same => nomatch same) rfl
  | queued offer space => exact ⟨readsAll.decodeFailures, readsAll.reports⟩

end ReadsAll

end Bridge

/-- A message in hand can be read by the target of its subscription. -/
def Bridge.Takes (types : Catalog) (bridge : Bridge Bus) (id : SubscriptionId) (payload : Bytes) :
    Prop :=
  id.number < bridge.middleware.subscriptions.length ∧
    ∀ {target}, Dict.get? bridge.targets id = some target →
      types.Reads target.codec.typeName payload

/-- No message has been unreadable, and none is going to be. -/
structure Traffic.Sound (types : Catalog) (traffic : Traffic) : Prop where
  linked : Linked types traffic.bridge
  inHand : ∀ {id payload}, Dict.get? traffic.inHand id = some payload →
    traffic.bridge.Takes types id payload
  readsAll : traffic.bridge.ReadsAll

namespace Traffic.Sound

variable {types : Catalog} {traffic after : Traffic}

theorem fresh (types : Catalog) (config : BridgeConfig) (options : BusConfig) :
    Sound types (Traffic.fresh types config options) where
  linked := Linked.fresh types config options
  inHand := fun taken => nomatch taken
  readsAll := ⟨rfl, fun _ _ member => nomatch member⟩

/-- A subscription is opened for a target of its own. -/
theorem targets_perform {bridge : Bridge Bus} {operation : Operation} {id : SubscriptionId}
    {target : Target} (there : id.number < bridge.middleware.subscriptions.length)
    (found : Dict.get? (bridge.perform operation).targets id = some target) :
    Dict.get? bridge.targets id = some target := by
  rcases Bridge.target_perform found with before | ⟨_, subscriber, opens, rfl⟩
  · exact before
  · obtain ⟨_, _, _, _, _, _, _, _, subscribed⟩ := opens
    obtain ⟨same, _⟩ := Bus.subscribe_eq_ok subscribed
    rw [same] at there
    exact absurd there (Nat.lt_irrefl _)

/-- What links the bridge to its bus is as it was. -/
theorem of_same (sound : traffic.Sound types) {bridge : Bridge Bus}
    (same : traffic.bridge.SameLinks bridge) (readsAll : bridge.ReadsAll) {world : World Bus}
    (worldBridge : world.bridge = bridge) : Sound types { traffic with world } := by
  subst worldBridge
  refine ⟨sound.linked.of_same same, fun taken => ?_, readsAll⟩
  obtain ⟨there, reads⟩ := sound.inHand taken
  refine ⟨?_, fun found => ?_⟩
  · change _ < world.bridge.middleware.subscriptions.length
    rw [same.middleware]
    exact there
  · change Dict.get? world.bridge.targets _ = _ at found
    rw [same.targets] at found
    exact reads found

theorem event (sound : traffic.Sound types) (registered : types.Registered) {event : Event Bus}
    {world : World Bus} (admitted : traffic.bridge.admits event = true)
    (happens : traffic.world.step event = some world) : Sound types { traffic with world } := by
  cases event with
  | operation operation =>
      obtain ⟨_, rfl⟩ := World.step_operation happens
      simp only [Bridge.admits, Bool.and_eq_true] at admitted
      obtain ⟨loaded, isTyped⟩ := admitted
      obtain ⟨carries, linked⟩ := sound.linked.perform registered loaded isTyped
      refine ⟨linked, fun taken => ?_, sound.readsAll.perform operation⟩
      obtain ⟨there, reads⟩ := sound.inHand taken
      refine ⟨?_, fun found => reads (targets_perform there found)⟩
      obtain ⟨later, found, _⟩ := carries _ _ (List.getElem?_eq_getElem there)
      exact (List.getElem?_eq_some_iff.mp found).1
  | deliver subscription payload => cases admitted
  | layer middleware => cases admitted
  | beginDrain =>
      obtain ⟨_, rfl⟩ := World.step_beginDrain happens
      exact sound.of_same (.refl _) sound.readsAll rfl
  | take =>
      obtain ⟨budget, report, outer, _, rfl⟩ := World.step_take happens
      exact sound.of_same (.takePending _) sound.readsAll.takePending
        (World.bridge_takeNext _ budget report outer)
  | finish outcome =>
      obtain ⟨_, _, invocation, _, _, rfl⟩ := World.step_finish happens
      exact sound.of_same (.finish _ invocation outcome) (sound.readsAll.finish invocation outcome)
        rfl
  | endDrain =>
      obtain ⟨_, _, _, rfl⟩ := World.step_endDrain happens
      exact sound.of_same (.refl _) sound.readsAll rfl

/-- A subscription moves on. -/
theorem moved (sound : traffic.Sound types) {id : SubscriptionId} {subscription : Bus.Subscription}
    (lagged : Nat) {change : Bus.Subscription → Bus.Subscription}
    (found : traffic.bus.subscriptions[id.number]? = some subscription)
    (moves : traffic.bus.Moves subscription (change subscription))
    (dwindles : ∀ {number : Nat} {other : Bus.Subscription},
      traffic.bus.subscriptions[number]? = some other →
        ∃ later, (traffic.bus.moved id lagged change).subscriptions[number]? = some later ∧
          traffic.bus.Dwindles (traffic.bus.moved id lagged change) other later) :
    Sound types (traffic.withBridge
      { traffic.bridge with middleware := traffic.bus.moved id lagged change }) where
  linked := sound.linked.extend (.moved found moves) (sound.linked.bound.moved found moves)
    sound.linked.readable
    fun isBound => isBound.dwindle sound.linked.bound (.refl _) dwindles
  inHand := by
    intro other payload taken
    obtain ⟨there, reads⟩ := sound.inHand taken
    refine ⟨?_, reads⟩
    change _ < (List.modify _ _ _).length
    rw [List.length_modify]
    exact there
  readsAll := ⟨sound.readsAll.decodeFailures, sound.readsAll.reports⟩

/-- Every occurrence keeps the traffic sound. -/
theorem step (sound : traffic.Sound types) (registered : types.Registered)
    {occurrence : Occurrence} (stepped : traffic.step occurrence = some after) :
    after.Sound types := by
  cases occurrence with
  | event event =>
      obtain ⟨admitted, world, happens, rfl⟩ := Traffic.step_event stepped
      exact sound.event registered admitted happens
  | fetch id =>
      obtain ⟨_, payload, bus, served, rfl⟩ := Traffic.step_fetch stepped
      obtain ⟨subscription, found, attends, ready, moved⟩ := Bus.serve?_eq_some served
      have further := sound.moved (traffic.bus.lagged + traffic.bus.missed subscription) found
        (Bus.moves_begun ready) (moved ▸ Bus.dwindles_serve served)
      rw [← moved] at further
      refine ⟨further.linked, fun taken => ?_, further.readsAll⟩
      rw [Dict.get?_insert] at taken
      split at taken
      · rename_i own
        subst own
        cases taken
        refine ⟨?_, fun targeted => ?_⟩
        · obtain ⟨later, found, _⟩ := Bus.dwindles_serve served found
          exact (List.getElem?_eq_some_iff.mp found).1
        · obtain ⟨_, _, found', _, reads⟩ := sound.linked.target targeted
          cases found.symm.trans found'
          have front : payload ∈ traffic.bus.outstanding subscription := by
            rw [Bus.outstanding_of_attends attends, ready]
            exact List.mem_cons_self
          exact reads payload front
      · exact further.inHand taken
  | pass id =>
      obtain ⟨payload, taken, rfl⟩ := Traffic.step_pass stepped
      have delivered := sound.of_same (.deliver _ id payload)
        (sound.readsAll.deliver fun targeted =>
          (sound.linked.target targeted).1.decode ((sound.inHand taken).2 targeted))
        (rfl : World.bridge { traffic.world with bridge := _ } = _)
      refine ⟨delivered.linked, fun taken => ?_, delivered.readsAll⟩
      rw [Dict.get?_erase] at taken
      split at taken
      · cases taken
      · exact delivered.inHand taken
  | pause id =>
      obtain ⟨_, rfl⟩ := Traffic.step_pause stepped
      cases found : traffic.bus.subscriptions[id.number]? with
      | none =>
          rw [Bus.pause_of_none found]
          exact sound
      | some subscription =>
          exact sound.moved traffic.bus.lagged found (traffic.bus.moves_rested subscription)
            (Bus.Keeps.pause traffic.bus id).dwindles

end Traffic.Sound

/-- No course makes a message unreadable. -/
theorem Course.sound {types : Catalog} (registered : types.Registered) {start now : Traffic}
    {past : List Juncture} (course : Course start past now) (sound : start.Sound types) :
    now.Sound types := by
  induction course with
  | rest => exact sound
  | next stepped _ ih => exact ih (sound.step registered stepped)

end TopicBridge
