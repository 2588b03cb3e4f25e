import TopicBridge.Proofs.World.Incarnation

/-!
# The order of calls

The queue of a bridge is first in, first out across all drains, however they
nest, and across shutdowns.  So the calls for a subscriber incarnation are some
of its accepted messages, in the order of their delivery and each at most once.
A message that was accepted and is not called was taken after its incarnation
was removed, or dropped by a shutdown.
-/

namespace TopicBridge

variable {μ : Type}

/-- The invocation is for an incarnation. -/
def Invocation.isFor (invocation : Invocation) (handle : Handle) (generation : Nat) : Bool :=
  invocation.handle = handle && invocation.generation = generation

/-- The invocations that departed by being called. -/
def calledOf (departures : List (Invocation × Departure)) : List Invocation :=
  (departures.filter fun departure => departure.2 = .called).map Prod.fst

theorem calledOf_append (first second : List (Invocation × Departure)) :
    calledOf (first ++ second) = calledOf first ++ calledOf second := by
  simp [calledOf]

namespace Moment

/-- An event calls exactly what departs from the queue to be called. -/
theorem toList_call? (moment : Moment μ) : moment.call?.toList = calledOf moment.departed := by
  obtain ⟨world, event⟩ := moment
  cases event with
  | take =>
      simp only [call?, departed]
      have found := world.bridge.taking
      generalize world.bridge.takePending = taken at found ⊢
      cases found with
      | nothing empty => simp [(Queue.pop?_eq_none_iff _).mpr empty, calledOf]
      | stale popped gone => simp [popped, gone, calledOf]
      | due popped live => simp [popped, live, calledOf]
  | operation operation =>
      cases flushes : operation.flushes <;> simp [call?, departed, flushes, calledOf]
  | _ => rfl

/-- An invocation departs because a drain takes it off the front of the queue,
or because a shutdown flushes it. -/
theorem of_mem_departed {moment : Moment μ} {invocation : Invocation} {departure : Departure}
    (departs : (invocation, departure) ∈ moment.departed) :
    (moment.event = .take ∧
      (∃ rest, moment.world.bridge.pending.pop? = some (invocation, rest)) ∧
      departure = if moment.world.bridge.isLive invocation then .called else .discarded) ∨
    ((∃ operation, moment.event = .operation operation ∧ operation.flushes = true) ∧
      invocation ∈ moment.world.bridge.pending.toList ∧ departure = .flushed) := by
  cases moment with
  | mk world event =>
      cases event with
      | take =>
          simp only [departed] at departs
          cases popped : world.bridge.pending.pop? with
          | none =>
              rw [popped] at departs
              cases departs
          | some taken =>
              obtain ⟨front, rest⟩ := taken
              rw [popped] at departs
              cases List.mem_singleton.mp departs
              exact Or.inl ⟨rfl, ⟨rest, rfl⟩, rfl⟩
      | operation operation =>
          simp only [departed] at departs
          split at departs
          · rename_i flushes
            rcases List.mem_map.mp departs with ⟨queued, member, same⟩
            cases same
            exact Or.inr ⟨⟨operation, rfl, flushes⟩, member, rfl⟩
          · cases departs
      | _ => cases departs

/-- What departs was queued. -/
theorem mem_pending_of_departed {moment : Moment μ} {invocation : Invocation}
    {departure : Departure} (departs : (invocation, departure) ∈ moment.departed) :
    invocation ∈ moment.world.bridge.pending.toList := by
  rcases of_mem_departed departs with ⟨_, ⟨rest, popped⟩, _⟩ | ⟨_, member, _⟩
  · rw [Queue.toList_of_pop? popped]
    exact List.mem_cons_self
  · exact member

/-- What decides how an invocation departs. -/
def Explains (moment : Moment μ) (invocation : Invocation) : Departure → Prop
  | .called => moment.event = .take ∧ moment.world.bridge.isLive invocation = true
  | .discarded => moment.event = .take ∧ moment.world.bridge.isLive invocation = false
  | .flushed => ∃ operation, moment.event = .operation operation ∧ operation.flushes = true

theorem explains_of_departed {moment : Moment μ} {invocation : Invocation}
    {departure : Departure} (departs : (invocation, departure) ∈ moment.departed) :
    moment.Explains invocation departure := by
  rcases of_mem_departed departs with ⟨taken, _, rfl⟩ | ⟨flushed, _, rfl⟩
  · cases live : moment.world.bridge.isLive invocation with
    | false => exact ⟨taken, live⟩
    | true => exact ⟨taken, live⟩
  · exact flushed

/-- What an event adds to the queue is for a live incarnation. -/
theorem isLive_of_accepted {moment : Moment μ} {invocation : Invocation}
    (member : invocation ∈ moment.accepted) :
    moment.world.bridge.isLive invocation = true := by
  obtain ⟨world, event⟩ := moment
  cases event with
  | deliver subscription payload =>
      obtain ⟨_, _, _, live⟩ := Bridge.of_mem_accepted member
      exact Option.isSome_iff_exists.mpr ⟨_, live⟩
  | _ => cases member

end Moment

/-- A delivery that finds the queue full leaves it alone, and is itself what is
dropped if it offers an invocation. -/
theorem Bridge.deliver_full {bridge : Bridge μ} {subscription : SubscriptionId} {payload : Bytes}
    (full : bridge.hasSpace = false) :
    (bridge.deliver subscription payload).pending = bridge.pending ∧
      ((bridge.offered? subscription payload).isSome = true →
        (bridge.deliver subscription payload).counters.droppedQueueFull =
          bridge.counters.droppedQueueFull + 1) := by
  have outcome := bridge.delivery subscription payload
  generalize bridge.deliver subscription payload = after at outcome ⊢
  cases outcome with
  | ignored unheard => rcases unheard with unloaded | unheard <;> simp [offered?, *]
  | unreadable loaded found failed => simp [offered?, loaded, found, failed, Except.toOption]
  | gone loaded found decoded absent => simp [offered?, loaded, found, decoded, absent]
  | full offer space => simp
  | queued offer space => simp [full] at space

/-- The queue was first in, first out in everything that led to a world. -/
structure FirstInFirstOut (past : List (Moment μ)) (world : World μ) : Prop where
  /-- What was accepted is what departed, in the same order, followed by what is
  still queued. -/
  accepted : past.flatMap Moment.accepted =
    (past.flatMap Moment.departed).map Prod.fst ++ world.bridge.pending.toList
  calls : past.filterMap Moment.call? = calledOf (past.flatMap Moment.departed)
  /-- The calls for an incarnation follow its accepted messages. -/
  ordered : ∀ handle generation,
    ((past.filterMap Moment.call?).filter (·.isFor handle generation)).Sublist
      ((past.flatMap Moment.accepted).filter (·.isFor handle generation))
  /-- An invocation that a drain takes is called if and only if its incarnation,
  which was live when it was accepted, still is. -/
  departures : ∀ (position : Nat) (moment : Moment μ) (invocation : Invocation)
      (departure : Departure), past[position]? = some moment →
    (invocation, departure) ∈ moment.departed →
      moment.Explains invocation departure ∧
        ∃ (earlier : Nat) (source : Moment μ), earlier < position ∧
          past[earlier]? = some source ∧ invocation ∈ source.accepted ∧
            source.world.bridge.isLive invocation = true
  /-- A full queue stays as it is, and the message that comes in is dropped. -/
  full : ∀ moment ∈ past, ∀ subscription payload,
    moment.event = .deliver subscription payload → moment.world.bridge.hasSpace = false →
      (moment.world.bridge.deliver subscription payload).pending = moment.world.bridge.pending ∧
        ((moment.world.bridge.offered? subscription payload).isSome = true →
          (moment.world.bridge.deliver subscription payload).counters.droppedQueueFull =
            moment.world.bridge.counters.droppedQueueFull + 1)

theorem calls_eq (past : List (Moment μ)) :
    past.filterMap Moment.call? = calledOf (past.flatMap Moment.departed) := by
  induction past with
  | nil => rfl
  | cons moment rest ih =>
      rw [List.flatMap_cons, calledOf_append, ← moment.toList_call?, ← ih]
      cases called : moment.call? <;> simp [called]

/-- The pending queue of a bridge is first in, first out in every run. -/
theorem calls_firstInFirstOut [Middleware μ] {types : Catalog} {config : BridgeConfig}
    {middleware : μ} {past : List (Moment μ)} {world : World μ}
    (run : Run (World.fresh types config middleware) past world) : FirstInFirstOut past world := by
  have balance : past.flatMap Moment.accepted =
      (past.flatMap Moment.departed).map Prod.fst ++ world.bridge.pending.toList :=
    run.accepted_eq
  refine ⟨balance, calls_eq past, ?_, ?_, ?_⟩
  · intro handle generation
    apply List.Sublist.filter
    rw [calls_eq, balance]
    exact ((List.filter_sublist).map Prod.fst).trans (List.sublist_append_left _ _)
  · intro position moment invocation departure found departs
    refine ⟨Moment.explains_of_departed departs, ?_⟩
    have balance : (past.take position).flatMap Moment.accepted =
        ((past.take position).flatMap Moment.departed).map Prod.fst ++
          moment.world.bridge.pending.toList := (run.before found).accepted_eq
    have member : invocation ∈ (past.take position).flatMap Moment.accepted := by
      rw [balance]
      exact List.mem_append_right _ (Moment.mem_pending_of_departed departs)
    obtain ⟨source, inPast, accepted⟩ := List.mem_flatMap.mp member
    obtain ⟨earlier, found⟩ := List.mem_iff_getElem?.mp inPast
    have bound := (List.getElem?_eq_some_iff.mp found).1
    rw [List.length_take] at bound
    rw [List.getElem?_take_of_lt (by omega)] at found
    exact ⟨earlier, source, by omega, found, accepted, Moment.isLive_of_accepted accepted⟩
  · intro moment _ subscription payload _ full
    exact Bridge.deliver_full full

/-- The callback of a drain destroys the second of two subscribers, runs a drain
of its own, and shuts the bridge down with a message of each subscriber queued. -/
def nested : List (Event Recorder) :=
  let opening : Event Recorder :=
    .operation (.createSubscriber (fun _ => true) "/count" "Count" ⟨⟨1⟩, "onCount"⟩ {})
  [opening, opening, .deliver ⟨0⟩ [1], .deliver ⟨1⟩ [2], .deliver ⟨0⟩ [3], .deliver ⟨1⟩ [4],
    .beginDrain, .take, .operation (.destroy ⟨1⟩),
    .beginDrain, .take, .take, .finish (.ok ()), .endDrain,
    .deliver ⟨0⟩ [5], .operation .shutdown, .finish (.ok ()), .take, .endDrain]

theorem calls_firstInFirstOut_nested :
    ∃ past world,
      Run (World.fresh (({} : Catalog).insertCodec "raw/Count" "Count" (Codec.raw "raw/Count"))
        { drainBudget := 2 } ({} : Recorder)) past world ∧
      (past.flatMap Moment.departed).map (fun (invocation, departure) =>
          (invocation.handle.index, departure)) =
        [(0, .called), (1, .discarded), (0, .called), (1, .flushed), (0, .flushed)] ∧
      FirstInFirstOut past world := by
  have computed : ((World.fresh (({} : Catalog).insertCodec "raw/Count" "Count"
      (Codec.raw "raw/Count")) { drainBudget := 2 } ({} : Recorder)).replay nested).map
        (fun replayed => (replayed.1.flatMap Moment.departed).map
          fun (invocation, departure) => (invocation.handle.index, departure)) =
      some [(0, .called), (1, .discarded), (0, .called), (1, .flushed), (0, .flushed)] := by
    decide
  obtain ⟨⟨past, world⟩, replayed, departed⟩ := Option.map_eq_some_iff.mp computed
  have run := Run.ofReplay replayed
  exact ⟨past, world, run, departed, calls_firstInFirstOut run⟩

end TopicBridge
