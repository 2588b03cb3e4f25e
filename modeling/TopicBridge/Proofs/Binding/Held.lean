import TopicBridge.Proofs.Binding.Bus
import TopicBridge.Proofs.Binding.Recorder
import TopicBridge.Proofs.Binding.Session

/-!
# No binding outlives its proxy

In every run of a bridge that is the only user of its messaging layer, what is
open in the layer is what the live proxies have open: after creations that fail,
after every kind of removal, and in the middle of a callback.  Once every proxy
is removed nothing is left open.
-/

namespace TopicBridge

/-! ## Over a recorder -/

/-- What is open in a recorder is what the live subscribers have open. -/
structure Recorder.HeldBy (past : List (Moment Recorder)) (world : World Recorder) : Prop where
  /-- As many subscriptions listen to a topic as there are live subscribers on it. -/
  listening : ∀ topic, (world.bridge.middleware.listening topic).length =
    world.bridge.table.liveOn .subscriber topic
  /-- They are the subscriptions of those subscribers. -/
  own : ∀ topic id, id ∈ world.bridge.middleware.listening topic ↔
    ∃ handle entry, world.bridge.table.get? handle = some entry ∧
      entry.proxy.subscription? = some id ∧ entry.proxy.topic = topic
  cancelled : world.bridge.middleware.cancelledCount = subscribersDestroyedIn past
  /-- A subscriber that is gone may cancel again. -/
  again : ∀ handle entry, world.bridge.table.get? handle = some entry →
    Bridge.close (world.bridge.drop handle).middleware entry.proxy =
      (world.bridge.drop handle).middleware
  /-- Nothing listens once every proxy is removed. -/
  cleared : ∀ operation, operation.clears = true →
    ∀ topic, (world.bridge.perform operation).middleware.listening topic = []

/-- Removing every proxy leaves no line in a book. -/
theorem KeepsBook.cleared {μ κ : Type} [Middleware μ] [DecidableEq κ] {id? : Proxy → Option κ}
    {book : μ → Dict κ String} (keeps : KeepsBook id? book) {bridge : Bridge μ}
    (consistent : bridge.table.Consistent) (booked : bridge.Booked id? book)
    {operation : Operation} (clears : operation.clears = true) :
    book (bridge.perform operation).middleware = [] := by
  have after := keeps.perform consistent booked operation
  rw [Bridge.Booked, Table.lines, bridge.entries_of_clears clears] at after
  exact after.nil_eq.symm

/-- In every run over a recorder that nobody else uses, what is open in it is what
the live subscribers have open. -/
theorem Run.recorder_heldBy {types : Catalog} {config : BridgeConfig} {past : List (Moment Recorder)}
    {world : World Recorder} (run : Run (World.fresh types config ({} : Recorder)) past world)
    (alone : OnlyUser Recorder.MovesOn past) : Recorder.HeldBy past world := by
  have consistent := run.consistent_mirrors.1
  have booked := Recorder.booked run alone
  constructor
  · intro topic
    rw [Recorder.listening_eq, List.length_map, ← Table.length_lines Proxy.isSome_subscription?]
    exact (booked.symm.filter _).length_eq
  · intro topic id
    rw [Recorder.listening_eq, ← consistent.mem_lines_iff, booked.mem_iff]
    simp
  · exact Recorder.cancelledCount_eq run alone
  · intro handle entry found
    rw [Bridge.middleware_drop found]
    cases entry.proxy with
    | publisher publisher => rfl
    | subscriber subscriber => exact Recorder.cancel_cancel _ _
  · intro operation clears topic
    rw [Recorder.listening_eq, Recorder.keepsBook.cleared consistent booked clears]
    rfl

/-! ## Over a bus -/

/-- What is open in a bus is what the live proxies have open. -/
structure Bus.HeldBy (world : World Bus) : Prop where
  /-- The topics of a bus that is not shut down are those of the live proxies. -/
  topics : world.bridge.middleware.isClosed = false → ∀ name,
    (Dict.get? world.bridge.middleware.topics name).isSome = true ↔
      ∃ handle entry, world.bridge.table.get? handle = some entry ∧ entry.proxy.topic = name
  /-- The live proxies of each kind are counted on their topic. -/
  counts : ∀ name topic, Dict.get? world.bridge.middleware.topics name = some topic →
    topic.publishers = world.bridge.table.liveOn .publisher name ∧
      topic.subscribers = world.bridge.table.liveOn .subscriber name
  /-- The open publications are those of the live publishers. -/
  publications : ∀ id topic,
    (∃ publication, world.bridge.middleware.publications[id.number]? = some publication ∧
      publication.isOpen = true ∧ publication.topic = topic) ↔
    ∃ handle entry, world.bridge.table.get? handle = some entry ∧
      entry.proxy.publication? = some id ∧ entry.proxy.topic = topic
  /-- The open subscriptions are those of the live subscribers. -/
  subscriptions : ∀ id topic,
    (∃ subscription, world.bridge.middleware.subscriptions[id.number]? = some subscription ∧
      subscription.isOpen = true ∧ subscription.topic = topic) ↔
    ∃ handle entry, world.bridge.table.get? handle = some entry ∧
      entry.proxy.subscription? = some id ∧ entry.proxy.topic = topic
  /-- A proxy that is gone may close again what it had open. -/
  again : ∀ handle entry, world.bridge.table.get? handle = some entry →
    Bridge.close (world.bridge.drop handle).middleware entry.proxy =
      (world.bridge.drop handle).middleware
  /-- Nothing is open once every proxy is removed. -/
  cleared : ∀ operation, operation.clears = true →
    let after := (world.bridge.perform operation).middleware
    after.topics = [] ∧ (∀ publication ∈ after.publications, publication.isOpen = false) ∧
      ∀ subscription ∈ after.subscriptions, subscription.isOpen = false

/-- In every run over a bus that nobody else uses, what is open in it is what the
live proxies have open. -/
theorem Run.bus_heldBy {types : Catalog} {config : BridgeConfig} {options : BusConfig}
    {past : List (Moment Bus)} {world : World Bus}
    (run : Run (World.fresh types config ({ config := options } : Bus)) past world)
    (alone : OnlyUser Bus.MovesOn past) : Bus.HeldBy world := by
  have consistent := run.consistent_mirrors.1
  obtain ⟨published, subscribed⟩ := run.bus_booked alone
  have orderly : world.bridge.middleware.Orderly := by
    refine Bus.orderly_lasting.run (fun moves orderly => ?_) (Bus.Orderly.fresh options) run alone
    obtain ⟨actions, _, rfl⟩ := moves
    exact orderly.acts actions
  have counted (isOpen : world.bridge.middleware.isClosed = false) (name : String) :
      ((Dict.get? world.bridge.middleware.topics name).map Bus.Topic.publishers).getD 0 =
          world.bridge.table.liveOn .publisher name ∧
        ((Dict.get? world.bridge.middleware.topics name).map Bus.Topic.subscribers).getD 0 =
          world.bridge.table.liveOn .subscriber name := by
    obtain ⟨publishers, subscribers⟩ := (orderly.bound isOpen).counts_open name
    rw [publishers, subscribers, ← Table.length_lines Proxy.isSome_publication?,
      ← Table.length_lines Proxy.isSome_subscription?]
    exact ⟨(published.symm.filter _).length_eq, (subscribed.symm.filter _).length_eq⟩
  constructor
  · intro isOpen name
    obtain ⟨publishers, subscribers⟩ := counted isOpen name
    rw [orderly.used.isSome_iff, publishers, subscribers]
    exact consistent.liveOn_add_pos_iff
  · intro name topic found
    cases isClosed : world.bridge.middleware.isClosed with
    | true =>
        rw [orderly.empty isClosed] at found
        cases found
    | false => simpa [found] using counted isClosed name
  · intro id topic
    rw [← Bus.mem_openPublications_iff, ← published.mem_iff, consistent.mem_lines_iff]
  · intro id topic
    rw [← Bus.mem_openSubscriptions_iff, ← subscribed.mem_iff, consistent.mem_lines_iff]
  · intro handle entry found
    rw [Bridge.middleware_drop found]
    exact Bus.close_close _ _
  · intro operation clears after
    have publications : after.openPublications = [] :=
      Bus.keepsPublications.cleared consistent published clears
    have subscriptions : after.openSubscriptions = [] :=
      Bus.keepsSubscriptions.cleared consistent subscribed clears
    exact ⟨(Bus.orderly_lasting.perform orderly operation).topics_eq_nil publications
      subscriptions, closed_of_openFrom_eq_nil _ _ _ publications,
      closed_of_openFrom_eq_nil _ _ _ subscriptions⟩

/-! ## Every run and every session -/

theorem Recorder.movesOn_of_steered {recorder after : Recorder}
    (steered : Steered recorder after) : Recorder.MovesOn recorder after := by
  rcases steered with steered | rfl
  · exact steered
  · exact ⟨.advertised, rfl⟩

theorem Bus.movesOn_of_steered {bus after : Bus} (steered : Steered bus after) :
    Bus.MovesOn bus after := by
  rcases steered with ⟨request, rfl⟩ | rfl
  · exact MovesOn.steer bus request
  · exact MovesOn.arrivals bus

/-- In every run and in every session of a bridge that is the only user of its
messaging layer, what is open in the layer is what the live proxies have open. -/
theorem bindings_held (types : Catalog) (config : BridgeConfig) :
    (∀ {past : List (Moment Recorder)} {world : World Recorder},
      Run (World.fresh types config ({} : Recorder)) past world →
      OnlyUser Recorder.MovesOn past → Recorder.HeldBy past world) ∧
    (∀ {options : BusConfig} {past : List (Moment Bus)} {world : World Bus},
      Run (World.fresh types config ({ config := options } : Bus)) past world →
      OnlyUser Bus.MovesOn past → Bus.HeldBy world) ∧
    (∀ (host : Host Recorder.Request Recorder.Answer) (steps : List (Step Recorder.Request)),
      let start : Bridge Recorder := { types, config, middleware := {} }
      let after := steps.foldl (fun session step => (Session.advance session step).2) (start, host)
      ∃ past, Run ⟨start, []⟩ past ⟨after.1, []⟩ ∧ Recorder.HeldBy past ⟨after.1, []⟩) ∧
    ∀ (options : BusConfig) (host : Host Bus.Request Bus.Answer) (steps : List (Step Bus.Request)),
      let start : Bridge Bus := { types, config, middleware := { config := options } }
      let after := steps.foldl (fun session step => (Session.advance session step).2) (start, host)
      Bus.HeldBy ⟨after.1, []⟩ := by
  refine ⟨fun run alone => run.recorder_heldBy alone, fun run alone => run.bus_heldBy alone,
    fun host steps => ?_, fun options host steps => ?_⟩
  · intro start after
    obtain ⟨past, run, alone⟩ := Session.attains steps (start, host)
    exact ⟨past, run, run.recorder_heldBy fun moment member middleware same =>
      Recorder.movesOn_of_steered (alone moment member middleware same)⟩
  · intro start after
    obtain ⟨past, run, alone⟩ := Session.attains steps (start, host)
    exact run.bus_heldBy fun moment member middleware same =>
      Bus.movesOn_of_steered (alone moment member middleware same)

/-- A catalog of two types. -/
def countsAndWords : Catalog :=
  (({} : Catalog).insertCodec "raw/Count" "Count" (Codec.raw "raw/Count")).insertCodec
    "raw/Word" "Word" (Codec.raw "raw/Word")

/-- No subscriber can be created while the recorder is switched off.  Then two are
created on one topic, and the callback of the first one destroys it. -/
def switching : List (Event Recorder) :=
  let subscribe : Event Recorder :=
    .operation (.createSubscriber (fun _ => true) "/count" "Count" ⟨⟨2⟩, "onCount"⟩ {})
  [.layer { isUnavailable := true }, subscribe, .layer {}, subscribe, subscribe,
    .deliver ⟨0⟩ [7], .beginDrain, .take, .operation (.destroy ⟨0⟩)]

/-- While delivery is held back a publisher and a subscriber are created on one
topic and a subscriber of another type is refused, and the callback of the
subscriber destroys the publisher. -/
def holding : List (Event Bus) :=
  let subscribe (typeName : String) : Event Bus :=
    .operation (.createSubscriber (fun _ => true) "/count" typeName ⟨⟨2⟩, "onCount"⟩ {})
  [.layer { isHeld := true }, .operation (.createPublisher ⟨1⟩ "/count" "Count" {}),
    subscribe "Count", subscribe "Word", .deliver ⟨0⟩ [7], .beginDrain, .take,
    .operation (.destroy ⟨0⟩)]

/-- One of the two subscriptions listens and the other one is cancelled, and the
topic of the bus is left with its subscriber. -/
theorem bindings_held_inCallback :
    (∃ past world, Run (World.fresh countsAndWords {} ({} : Recorder)) past world ∧
      world.bridge.middleware.listening "/count" = [⟨1⟩] ∧ subscribersDestroyedIn past = 1 ∧
      Recorder.HeldBy past world) ∧
    ∃ past world, Run (World.fresh countsAndWords {} ({} : Bus)) past world ∧
      world.bridge.middleware.topics = [("/count", ⟨"raw/Count", ⟨0⟩, none, 0, 1⟩)] ∧
      Bus.HeldBy world := by
  constructor
  · have computed : ((World.fresh countsAndWords {} ({} : Recorder)).replay switching).map
        (fun replayed => (replayed.2.bridge.middleware.listening "/count",
          subscribersDestroyedIn replayed.1, replayed.1.all (Moment.passes fun layer moved =>
            moved = (layer.steer (.setUnavailable moved.isUnavailable)).2.2))) =
          some ([⟨1⟩], 1, true) := by
      decide +kernel
    obtain ⟨⟨past, world⟩, replayed, same⟩ := Option.map_eq_some_iff.mp computed
    simp only [Prod.mk.injEq] at same
    obtain ⟨listening, destroyed, all⟩ := same
    have alone : OnlyUser Recorder.MovesOn past :=
      OnlyUser.of_passes (fun passed => ⟨_, of_decide_eq_true passed⟩) all
    have run := Run.ofReplay replayed
    exact ⟨past, world, run, listening, destroyed, (bindings_held _ _).1 run alone⟩
  · have computed : ((World.fresh countsAndWords {} ({} : Bus)).replay holding).map
        (fun replayed => (replayed.2.bridge.middleware.topics,
          replayed.1.all (Moment.passes fun layer moved => moved = layer.acts [.hold]))) =
          some ([("/count", ⟨"raw/Count", ⟨0⟩, none, 0, 1⟩)], true) := by
      decide +kernel
    obtain ⟨⟨past, world⟩, replayed, same⟩ := Option.map_eq_some_iff.mp computed
    obtain ⟨topics, all⟩ := Prod.mk.inj same
    have own : ∀ action ∈ [Bus.Action.hold], action.isOwn = true := by decide
    have alone : OnlyUser Bus.MovesOn past :=
      OnlyUser.of_passes (fun passed => ⟨[.hold], own, of_decide_eq_true passed⟩) all
    have run := Run.ofReplay replayed
    exact ⟨past, world, run, topics, (bindings_held _ _).2.1 run alone⟩

end TopicBridge
