import TopicBridge.Middleware.Recorder
import TopicBridge.Proofs.World.Queue

/-!
# Subscriber incarnations

A subscriber incarnation is what one successful creation opens: it lives under
its handle, in the generation of the creation, until an operation removes it.
Handles are reused, generations are not.  The invariant of a run says where
everything that decides a call comes from: each live subscriber, each target of
a subscription and each queued invocation goes back to the creation of one
incarnation.  Hence a callback is only ever called for a live incarnation, with
a message that was delivered to it.
-/

namespace TopicBridge

variable {μ : Type} [Middleware μ]

/-- The operation opens a subscriber under a handle, whose messages are read
with a codec. -/
def Bridge.Opens (bridge : Bridge μ) (operation : Operation) (handle : Handle)
    (subscriber : Subscriber) (codec : Codec) : Prop :=
  ∃ hasEntryPoint typeName options middleware,
    operation = .createSubscriber hasEntryPoint subscriber.topic typeName subscriber.callback
      options ∧
    (bridge.createSubscriber hasEntryPoint subscriber.topic typeName subscriber.callback
      options).1 = .ok handle ∧
    bridge.types.lookup typeName = .ok codec ∧
    subscriber.typeName = codec.typeName ∧
    Middleware.subscribe bridge.middleware subscriber.topic codec.typeName options =
      .ok (subscriber.subscription, middleware)

/-- The event opens a subscriber incarnation. -/
def Moment.Opens (moment : Moment μ) (handle : Handle) (generation : Nat)
    (subscriber : Subscriber) (codec : Codec) : Prop :=
  generation = moment.world.bridge.table.nextGeneration ∧
    ∃ operation, moment.event = .operation operation ∧
      moment.world.bridge.Opens operation handle subscriber codec

namespace Bridge

/-- An operation opens at most one subscriber. -/
theorem Opens.unique {bridge : Bridge μ} {operation : Operation} {handle other : Handle}
    {subscriber another : Subscriber} {codec reader : Codec}
    (first : bridge.Opens operation handle subscriber codec)
    (second : bridge.Opens operation other another reader) :
    handle = other ∧ subscriber = another ∧ codec = reader := by
  obtain ⟨hasEntryPoint, typeName, options, middleware, rfl, answer, known, named, subscribed⟩ :=
    first
  obtain ⟨_, _, _, _, same, answer', known', named', subscribed'⟩ := second
  obtain ⟨topic, _, callback, subscription⟩ := subscriber
  obtain ⟨topic', _, callback', subscription'⟩ := another
  dsimp only at *
  cases same
  cases answer.symm.trans answer'
  cases known.symm.trans known'
  cases subscribed.symm.trans subscribed'
  cases named.trans named'.symm
  exact ⟨rfl, rfl, rfl⟩

/-- A subscriber that is live after an operation was live before it, or the
operation opened it. -/
theorem subscriber_perform {bridge : Bridge μ} {operation : Operation} {handle : Handle}
    {generation : Nat} {subscriber : Subscriber}
    (live : (bridge.perform operation).table.get? handle =
      some ⟨generation, .subscriber subscriber⟩) :
    bridge.table.get? handle = some ⟨generation, .subscriber subscriber⟩ ∨
      generation = bridge.table.nextGeneration ∧
        ∃ codec, bridge.Opens operation handle subscriber codec := by
  have effect := bridge.performs operation
  generalize bridge.perform operation = after at effect live
  cases effect with
  | refused keeps refuses =>
      rcases refuses with rfl | ⟨_, _, _, rfl⟩
      · exact Or.inl live
      · exact Or.inl live
  | openedPublisher known allocated advertised answer =>
      rw [get?_opened] at live
      split at live
      · cases live
      · exact Or.inl live
  | openedSubscriber known allocated subscribed answer =>
      rw [get?_opened] at live
      split at live
      · rename_i same
        subst same
        cases live
        exact Or.inr ⟨rfl, _, _, _, _, _, rfl, answer, known, rfl, subscribed⟩
      · exact Or.inl live
  | dropped keeps handles =>
      rw [get?_dropAll] at live
      split at live
      · cases live
      · exact Or.inl live
  | flushed flushes handles isLoaded =>
      have live : (bridge.dropAll handles).table.get? handle =
          some ⟨generation, .subscriber subscriber⟩ := live
      rw [get?_dropAll] at live
      split at live
      · cases live
      · exact Or.inl live
  | published keeps publishes =>
      obtain ⟨_, _, rfl⟩ := publishes
      exact Or.inl live

/-- A target that is there after an operation was there before it, or belongs to
the subscriber that the operation opened. -/
theorem target_perform {bridge : Bridge μ} {operation : Operation}
    {subscription : SubscriptionId} {target : Target}
    (found : Dict.get? (bridge.perform operation).targets subscription = some target) :
    Dict.get? bridge.targets subscription = some target ∨
      target.generation = bridge.table.nextGeneration ∧
        ∃ subscriber, bridge.Opens operation target.handle subscriber target.codec ∧
          subscriber.subscription = subscription := by
  have effect := bridge.performs operation
  generalize bridge.perform operation = after at effect found
  cases effect with
  | refused keeps refuses =>
      rcases refuses with rfl | ⟨_, _, _, rfl⟩
      · exact Or.inl found
      · exact Or.inl found
  | openedPublisher known allocated advertised answer => exact Or.inl found
  | @openedSubscriber hasEntryPoint topic typeName callback options handle allocator codec opened
      middleware known allocated subscribed answer =>
      simp only [Bridge.opened, Dict.get?_insert] at found
      split at found
      · rename_i same
        subst same
        cases found
        exact Or.inr ⟨rfl, ⟨topic, codec.typeName, callback, opened⟩,
          ⟨hasEntryPoint, typeName, options, middleware, rfl, answer, known, rfl, subscribed⟩, rfl⟩
      · exact Or.inl found
  | dropped keeps handles => exact Or.inl (by rwa [targets_dropAll] at found)
  | flushed flushes handles isLoaded =>
      have found : Dict.get? (bridge.dropAll handles).targets subscription = some target := found
      exact Or.inl (by rwa [targets_dropAll] at found)
  | published keeps publishes =>
      obtain ⟨_, _, rfl⟩ := publishes
      exact Or.inl found

/-- Generations never go back. -/
theorem nextGeneration_le_perform (bridge : Bridge μ) (operation : Operation) :
    bridge.table.nextGeneration ≤ (bridge.perform operation).table.nextGeneration := by
  have effect := bridge.performs operation
  generalize bridge.perform operation = after at effect ⊢
  cases effect with
  | refused keeps refuses =>
      rcases refuses with rfl | ⟨_, _, _, rfl⟩
      · exact Nat.le_refl _
      · exact Nat.le_succ _
  | openedPublisher => exact Nat.le_succ _
  | openedSubscriber => exact Nat.le_succ _
  | dropped keeps handles => exact Nat.le_of_eq (bridge.nextGeneration_dropAll handles).symm
  | flushed flushes handles isLoaded =>
      exact Nat.le_of_eq (bridge.nextGeneration_dropAll handles).symm
  | published keeps publishes =>
      obtain ⟨_, _, rfl⟩ := publishes
      exact Nat.le_refl _

/-- An opened subscriber uses up the next generation. -/
theorem Opens.nextGeneration_lt {bridge : Bridge μ} {operation : Operation} {handle : Handle}
    {subscriber : Subscriber} {codec : Codec}
    (opens : bridge.Opens operation handle subscriber codec) :
    bridge.table.nextGeneration < (bridge.perform operation).table.nextGeneration := by
  obtain ⟨hasEntryPoint, typeName, options, _, rfl, answer, _⟩ := opens
  rcases bridge.createSubscriber_cases hasEntryPoint subscriber.topic typeName
      subscriber.callback options with
    ⟨e, after, equal, _⟩ | ⟨_, _, _, _, _, _, _, _, _, equal⟩
  · rw [equal] at answer
    cases answer
  · simp only [perform, equal]
    exact Nat.lt_succ_self _

end Bridge

namespace World

variable {world after : World μ} {event : Event μ}

/-- Operations alone change the table and the targets. -/
theorem step_table (stepped : world.step event = some after) :
    (∃ operation, event = .operation operation ∧
      after.bridge = world.bridge.perform operation) ∨
    ((∀ operation, event ≠ .operation operation) ∧
      after.bridge.table = world.bridge.table ∧ after.bridge.targets = world.bridge.targets) := by
  cases event with
  | operation operation =>
      rcases step_operation stepped with ⟨_, rfl⟩
      exact Or.inl ⟨operation, rfl, rfl⟩
  | deliver subscription payload =>
      cases stepped
      exact Or.inr ⟨(fun _ same => nomatch same), by simp, by simp⟩
  | layer middleware =>
      cases stepped
      exact Or.inr ⟨(fun _ same => nomatch same), rfl, rfl⟩
  | beginDrain =>
      rcases step_beginDrain stepped with ⟨_, rfl⟩
      exact Or.inr ⟨(fun _ same => nomatch same), rfl, rfl⟩
  | take =>
      rcases step_take stepped with ⟨budget, report, outer, _, rfl⟩
      exact Or.inr ⟨(fun _ same => nomatch same), by simp, by simp⟩
  | finish outcome =>
      rcases step_finish stepped with ⟨budget, report, invocation, outer, _, rfl⟩
      exact Or.inr ⟨(fun _ same => nomatch same), by simp, by simp⟩
  | endDrain =>
      rcases step_endDrain stepped with ⟨report, outer, _, rfl⟩
      exact Or.inr ⟨(fun _ same => nomatch same), rfl, rfl⟩

/-- A live subscriber was live before, or the event opened it. -/
theorem subscriber_step (stepped : world.step event = some after) {handle : Handle}
    {generation : Nat} {subscriber : Subscriber}
    (live : after.bridge.table.get? handle = some ⟨generation, .subscriber subscriber⟩) :
    world.bridge.table.get? handle = some ⟨generation, .subscriber subscriber⟩ ∨
      ∃ codec, (Moment.mk world event).Opens handle generation subscriber codec := by
  rcases step_table stepped with ⟨operation, rfl, same⟩ | ⟨_, sameTable, _⟩
  · rw [same] at live
    rcases Bridge.subscriber_perform live with before | ⟨drawn, codec, opens⟩
    · exact Or.inl before
    · exact Or.inr ⟨codec, drawn, operation, rfl, opens⟩
  · rw [sameTable] at live
    exact Or.inl live

/-- A target was there before, or belongs to the subscriber that the event
opened. -/
theorem target_step (stepped : world.step event = some after) {subscription : SubscriptionId}
    {target : Target} (found : Dict.get? after.bridge.targets subscription = some target) :
    Dict.get? world.bridge.targets subscription = some target ∨
      ∃ subscriber, subscriber.subscription = subscription ∧
        (Moment.mk world event).Opens target.handle target.generation subscriber target.codec := by
  rcases step_table stepped with ⟨operation, rfl, same⟩ | ⟨_, _, sameTargets⟩
  · rw [same] at found
    rcases Bridge.target_perform found with before | ⟨drawn, subscriber, opens, same⟩
    · exact Or.inl before
    · exact Or.inr ⟨subscriber, same, drawn, operation, rfl, opens⟩
  · rw [sameTargets] at found
    exact Or.inl found

/-- Generations never go back, and an opened subscriber uses one up. -/
theorem nextGeneration_step (stepped : world.step event = some after) :
    world.bridge.table.nextGeneration ≤ after.bridge.table.nextGeneration ∧
      ∀ {handle generation subscriber codec},
        (Moment.mk world event).Opens handle generation subscriber codec →
          generation < after.bridge.table.nextGeneration := by
  rcases step_table stepped with ⟨operation, rfl, same⟩ | ⟨other, sameTable, _⟩
  · rw [same]
    constructor
    · exact world.bridge.nextGeneration_le_perform operation
    · rintro handle generation subscriber codec ⟨rfl, _, sameOperation, opens⟩
      cases sameOperation
      exact opens.nextGeneration_lt
  · constructor
    · exact Nat.le_of_eq (congrArg Table.nextGeneration sameTable).symm
    · rintro handle generation subscriber codec ⟨_, operation, same, _⟩
      exact absurd same (other operation)

end World

/-! ## The invariant of a run -/

/-- The event at a position of a run opens a subscriber incarnation. -/
def OpenedAt (past : List (Moment μ)) (position : Nat) (handle : Handle) (generation : Nat)
    (subscriber : Subscriber) (codec : Codec) : Prop :=
  ∃ moment, past[position]? = some moment ∧ moment.Opens handle generation subscriber codec

/-- A proxy is in the table at every moment after a position of a run. -/
def LiveAfter (past : List (Moment μ)) (position : Nat) (handle : Handle) (entry : Entry) : Prop :=
  ∀ later moment, position < later → past[later]? = some moment →
    moment.world.bridge.table.get? handle = some entry

/-- An invocation goes back to a payload that the event at one position delivers
on the subscription which the event at an earlier position opens. -/
structure StemsFrom (past : List (Moment μ)) (invocation : Invocation)
    (opening delivery : Nat) (subscriber : Subscriber) : Prop where
  earlier : opening < delivery
  carries : subscriber.callback = invocation.callback
  reads : ∃ codec payload world,
    OpenedAt past opening invocation.handle invocation.generation subscriber codec ∧
      past[delivery]? = some ⟨world, .deliver subscriber.subscription payload⟩ ∧
      codec.decode payload = .ok invocation.payload

/-- Where everything that decides a call comes from. -/
structure Sourced (past : List (Moment μ)) (world : World μ) : Prop where
  /-- A generation that was drawn is not drawn again. -/
  drawn : ∀ {position handle generation subscriber codec},
    OpenedAt past position handle generation subscriber codec →
      generation < world.bridge.table.nextGeneration
  unique : ∀ {position handle generation subscriber codec place other another reader},
    OpenedAt past position handle generation subscriber codec →
    OpenedAt past place other generation another reader → position = place
  live : ∀ {handle generation subscriber},
    world.bridge.table.get? handle = some ⟨generation, .subscriber subscriber⟩ →
      ∃ position codec, OpenedAt past position handle generation subscriber codec ∧
        LiveAfter past position handle ⟨generation, .subscriber subscriber⟩
  target : ∀ {subscription target},
    Dict.get? world.bridge.targets subscription = some target →
      ∃ position subscriber, subscriber.subscription = subscription ∧
        OpenedAt past position target.handle target.generation subscriber target.codec
  queued : ∀ {invocation}, invocation ∈ world.bridge.pending.toList →
    ∃ opening delivery subscriber, StemsFrom past invocation opening delivery subscriber

/-- An event opens at most one incarnation. -/
theorem Moment.Opens.unique {moment : Moment μ} {handle other : Handle}
    {generation drawn : Nat} {subscriber another : Subscriber} {codec reader : Codec}
    (first : moment.Opens handle generation subscriber codec)
    (second : moment.Opens other drawn another reader) :
    handle = other ∧ subscriber = another ∧ codec = reader := by
  obtain ⟨_, operation, event, opens⟩ := first
  obtain ⟨_, operation', event', opens'⟩ := second
  cases event.symm.trans event'
  exact opens.unique opens'

section Positions

variable {past later : List (Moment μ)} {last : Moment μ} {position : Nat} {handle : Handle}
  {generation : Nat} {subscriber : Subscriber} {codec : Codec}

theorem OpenedAt.lt (opened : OpenedAt past position handle generation subscriber codec) :
    position < past.length := by
  obtain ⟨moment, found, _⟩ := opened
  exact (List.getElem?_eq_some_iff.mp found).1

theorem OpenedAt.append (opened : OpenedAt past position handle generation subscriber codec) :
    OpenedAt (past ++ later) position handle generation subscriber codec := by
  have bound := opened.lt
  obtain ⟨moment, found, opens⟩ := opened
  exact ⟨moment, by rwa [List.getElem?_append_left bound], opens⟩

theorem OpenedAt.snoc
    (opened : OpenedAt (past ++ [last]) position handle generation subscriber codec) :
    OpenedAt past position handle generation subscriber codec ∨
      position = past.length ∧ last.Opens handle generation subscriber codec := by
  obtain ⟨moment, found, opens⟩ := opened
  rcases Run.getElem?_snoc found with earlier | ⟨rfl, rfl⟩
  · exact Or.inl ⟨moment, earlier, opens⟩
  · exact Or.inr ⟨rfl, opens⟩

theorem OpenedAt.newest (opens : last.Opens handle generation subscriber codec) :
    OpenedAt (past ++ [last]) past.length handle generation subscriber codec :=
  ⟨last, by simp, opens⟩

omit [Middleware μ] in
theorem LiveAfter.snoc {entry : Entry} (live : LiveAfter past position handle entry)
    (still : last.world.bridge.table.get? handle = some entry) :
    LiveAfter (past ++ [last]) position handle entry := by
  intro place moment after found
  rcases Run.getElem?_snoc found with earlier | ⟨_, rfl⟩
  · exact live place moment after earlier
  · exact still

theorem StemsFrom.append {invocation : Invocation} {delivery : Nat}
    (stems : StemsFrom past invocation position delivery subscriber) :
    StemsFrom (past ++ later) invocation position delivery subscriber := by
  obtain ⟨earlier, carries, codec, payload, world, opened, found, decoded⟩ := stems
  have bound := (List.getElem?_eq_some_iff.mp found).1
  exact ⟨earlier, carries, codec, payload, world, opened.append,
    by rwa [List.getElem?_append_left bound], decoded⟩

end Positions

namespace Sourced

variable {past : List (Moment μ)} {world after : World μ} {event : Event μ}

theorem fresh (types : Catalog) (config : BridgeConfig) (middleware : μ) :
    Sourced [] (World.fresh types config middleware) where
  drawn := fun opened => absurd opened.lt (Nat.not_lt_zero _)
  unique := fun opened => absurd opened.lt (Nat.not_lt_zero _)
  live := fun live => nomatch live
  target := fun found => nomatch found
  queued := fun member => nomatch member

/-- An accepted invocation stems from the incarnation that it is queued for. -/
theorem accepted (sourced : Sourced past world) {subscription : SubscriptionId} {payload : Bytes}
    {invocation : Invocation} (member : invocation ∈ world.bridge.accepted subscription payload) :
    ∃ opening subscriber,
      StemsFrom (past ++ [⟨world, .deliver subscription payload⟩]) invocation opening past.length
        subscriber := by
  obtain ⟨codec, targeted, decoded, called⟩ := Bridge.of_mem_accepted member
  obtain ⟨live, found, carries⟩ := Table.callbackOf?_eq_some_iff.mp called
  obtain ⟨opening, subscriber, rfl, opened⟩ := sourced.target targeted
  obtain ⟨place, reader, openedLive, _⟩ := sourced.live found
  -- The target and the live entry carry one generation, so one event opened both.
  have samePlace : opening = place := sourced.unique opened openedLive
  subst samePlace
  obtain ⟨moment, at_opening, opens⟩ := opened
  obtain ⟨moment', at_opening', opens'⟩ := openedLive
  cases at_opening.symm.trans at_opening'
  obtain ⟨_, rfl, rfl⟩ := opens.unique opens'
  have opened : OpenedAt past opening invocation.handle invocation.generation subscriber codec :=
    ⟨moment, at_opening, opens⟩
  exact ⟨opening, subscriber, opened.lt, carries, codec, payload, world, opened.append,
    by simp, decoded⟩

/-- Every event keeps the invariant. -/
theorem step (sourced : Sourced past world) (stepped : world.step event = some after) :
    Sourced (past ++ [⟨world, event⟩]) after where
  drawn := by
    intro position handle generation subscriber codec opened
    obtain ⟨forward, drawn⟩ := World.nextGeneration_step stepped
    rcases opened.snoc with earlier | ⟨_, opens⟩
    · exact Nat.lt_of_lt_of_le (sourced.drawn earlier) forward
    · exact drawn opens
  unique := by
    intro position handle generation subscriber codec place other another reader first second
    rcases first.snoc with earlier | ⟨rfl, opens⟩
    · rcases second.snoc with earlier' | ⟨rfl, opens'⟩
      · exact sourced.unique earlier earlier'
      · exact absurd opens'.1 (Nat.ne_of_lt (sourced.drawn earlier))
    · rcases second.snoc with earlier' | ⟨rfl, opens'⟩
      · exact absurd opens.1 (Nat.ne_of_lt (sourced.drawn earlier'))
      · rfl
  live := by
    intro handle generation subscriber live
    rcases World.subscriber_step stepped live with before | ⟨codec, opens⟩
    · obtain ⟨position, codec, opened, since⟩ := sourced.live before
      exact ⟨position, codec, opened.append, since.snoc before⟩
    · refine ⟨past.length, codec, OpenedAt.newest opens, ?_⟩
      intro later moment beyond found
      have bound := (List.getElem?_eq_some_iff.mp found).1
      simp only [List.length_append, List.length_cons, List.length_nil] at bound
      omega
  target := by
    intro subscription target found
    rcases World.target_step stepped found with before | ⟨subscriber, same, opens⟩
    · obtain ⟨position, subscriber, same, opened⟩ := sourced.target before
      exact ⟨position, subscriber, same, opened.append⟩
    · exact ⟨past.length, subscriber, same, OpenedAt.newest opens⟩
  queued := by
    intro invocation member
    have balance := World.pending_step stepped
    have source : invocation ∈ world.bridge.pending.toList ∨
        invocation ∈ (Moment.mk world event).accepted := by
      rw [← List.mem_append, balance]
      exact List.mem_append_right _ member
    rcases source with waiting | fresh
    · obtain ⟨opening, delivery, subscriber, stems⟩ := sourced.queued waiting
      exact ⟨opening, delivery, subscriber, stems.append⟩
    · cases event with
      | deliver subscription payload =>
          obtain ⟨opening, subscriber, stems⟩ := sourced.accepted fresh
          exact ⟨opening, past.length, subscriber, stems⟩
      | _ => cases fresh

/-- The invariant holds at the end of every run of a new bridge. -/
theorem ofRun {types : Catalog} {config : BridgeConfig} {middleware : μ}
    (run : Run (World.fresh types config middleware) past world) : Sourced past world := by
  induction run with
  | start => exact Sourced.fresh types config middleware
  | next _ stepped ih => exact ih.step stepped

end Sourced

/-! ## Calls -/

section Calls

variable {past later : List (Moment μ)} {position : Nat}

omit [Middleware μ] in
/-- A call takes the front of the queue, and its incarnation is live. -/
theorem Moment.of_call? {moment : Moment μ} {invocation : Invocation}
    (called : moment.call? = some invocation) :
    moment.event = .take ∧ invocation ∈ moment.world.bridge.pending.toList ∧
      moment.world.bridge.isLive invocation = true := by
  obtain ⟨world, event⟩ := moment
  cases event with
  | take =>
      simp only [Moment.call?] at called
      have found := world.bridge.taking
      generalize world.bridge.takePending = taken at found called
      cases found with
      | nothing => cases called
      | stale => cases called
      | due popped live =>
          cases called
          exact ⟨rfl, by simp [Queue.toList_of_pop? popped], live⟩
  | _ => cases called

theorem OpenedAt.of_take {handle : Handle} {generation : Nat} {subscriber : Subscriber}
    {codec : Codec} {place : Nat}
    (opened : OpenedAt (past.take position) place handle generation subscriber codec) :
    OpenedAt past place handle generation subscriber codec ∧ place < position := by
  have bound := opened.lt
  rw [List.length_take] at bound
  have whole : OpenedAt (past.take position ++ past.drop position) place handle generation
      subscriber codec := opened.append
  rw [List.take_append_drop] at whole
  exact ⟨whole, by omega⟩

omit [Middleware μ] in
/-- A proxy that is in the table up to a moment of a run and in that moment. -/
theorem LiveAfter.upTo {moment : Moment μ} {place between : Nat} {handle : Handle} {entry : Entry}
    (since : LiveAfter (past.take position) place handle entry)
    (found : past[position]? = some moment)
    (still : moment.world.bridge.table.get? handle = some entry) {inside : Moment μ}
    (after : place < between) (upTo : between ≤ position)
    (foundInside : past[between]? = some inside) :
    inside.world.bridge.table.get? handle = some entry := by
  rcases Nat.lt_or_eq_of_le upTo with earlier | rfl
  · exact since between inside after (by rw [List.getElem?_take_of_lt earlier, foundInside])
  · cases found.symm.trans foundInside
    exact still

/-- A call at a position of a run is for a live incarnation and passes a message
delivered to it. -/
structure CallsLive (past : List (Moment μ)) (position : Nat) (invocation : Invocation) :
    Prop where
  /-- The incarnation was opened with the callback, the payload came in on its
  subscription after that, and it has been live from then on up to the call. -/
  stems : ∃ opening delivery subscriber,
    StemsFrom past invocation opening delivery subscriber ∧ delivery < position ∧
      ∀ between inside, opening < between → between ≤ position → past[between]? = some inside →
        inside.world.bridge.table.get? invocation.handle =
          some ⟨invocation.generation, .subscriber subscriber⟩
  /-- If it was gone at a moment up to the call, it was gone before. -/
  lasting : ∀ earlier first later second, earlier ≤ later → later ≤ position →
    past[earlier]? = some first → past[later]? = some second →
      first.world.bridge.isLive invocation = true → second.world.bridge.isLive invocation = true

/-- In every run of a bridge, each call of a callback is for a subscriber
incarnation that is live at that moment and has been live ever since it was
opened.  The callback is the one it was opened with, and the argument is what
its codec read off a payload delivered on its subscription in the meantime.  An
incarnation that is gone at some moment is never called after it. -/
theorem call_of_live_incarnation {types : Catalog} {config : BridgeConfig} {middleware : μ}
    {world : World μ} (run : Run (World.fresh types config middleware) past world)
    {moment : Moment μ} {invocation : Invocation} (found : past[position]? = some moment)
    (called : moment.call? = some invocation) : CallsLive past position invocation := by
  have sourced := Sourced.ofRun (run.before found)
  obtain ⟨_, waiting, live⟩ := Moment.of_call? called
  obtain ⟨callback, looked⟩ := Option.isSome_iff_exists.mp live
  obtain ⟨subscriber, inTable, rfl⟩ := Table.callbackOf?_eq_some_iff.mp looked
  obtain ⟨place, codec, openedLive, since⟩ := sourced.live inTable
  have liveUpTo : ∀ between inside, place < between → between ≤ position →
      past[between]? = some inside → inside.world.bridge.table.get? invocation.handle =
        some ⟨invocation.generation, .subscriber subscriber⟩ :=
    fun _ _ => since.upTo found inTable
  constructor
  · obtain ⟨opening, delivery, source, stems⟩ := sourced.queued waiting
    obtain ⟨reader, payload, deliverer, opened, delivered, decoded⟩ := stems.reads
    -- The queued invocation and the live entry carry one generation.
    have samePlace : opening = place := sourced.unique opened openedLive
    subst samePlace
    obtain ⟨moment', at_opening, opens⟩ := opened
    obtain ⟨moment'', at_opening', opens'⟩ := openedLive
    cases at_opening.symm.trans at_opening'
    obtain ⟨_, rfl, rfl⟩ := opens.unique opens'
    have whole : StemsFrom (past.take position ++ past.drop position) invocation opening delivery
        source := stems.append
    rw [List.take_append_drop] at whole
    refine ⟨opening, delivery, source, whole, ?_, liveUpTo⟩
    have bound := (List.getElem?_eq_some_iff.mp delivered).1
    rw [List.length_take] at bound
    omega
  · intro earlier first later second ordered upTo foundFirst foundSecond liveFirst
    obtain ⟨called, lookedFirst⟩ := Option.isSome_iff_exists.mp liveFirst
    obtain ⟨another, inFirst, _⟩ := Table.callbackOf?_eq_some_iff.mp lookedFirst
    -- What was live under the generation then was opened by the same event, so earlier.
    obtain ⟨place', codec', openedFirst, _⟩ := (Sourced.ofRun (run.before foundFirst)).live inFirst
    obtain ⟨openedFirst, beforeFirst⟩ := openedFirst.of_take
    have samePlace : place' = place :=
      (Sourced.ofRun run).unique openedFirst openedLive.of_take.1
    subst samePlace
    have inSecond := liveUpTo later second (by omega) upTo foundSecond
    exact Option.isSome_iff_exists.mpr
      ⟨subscriber.callback, Table.callbackOf?_eq_some_iff.mpr ⟨subscriber, inSecond, rfl⟩⟩

end Calls

/-- A subscriber is destroyed with a message queued, another one reuses its
handle, and then a late message of the first and a message of the second come
in. -/
def reuse : List (Event Recorder) :=
  let opening : Event Recorder :=
    .operation (.createSubscriber (fun _ => true) "/count" "Count" ⟨⟨1⟩, "onCount"⟩ {})
  [opening, .deliver ⟨0⟩ [7], .operation (.destroy ⟨0⟩), opening, .deliver ⟨0⟩ [7],
    .deliver ⟨1⟩ [7, 7], .beginDrain, .take, .take]

theorem call_of_live_incarnation_reuse :
    ∃ past world moment invocation,
      Run (World.fresh (({} : Catalog).insertCodec "raw/Count" "Count" (Codec.raw "raw/Count"))
        {} ({} : Recorder)) past world ∧
      past[8]? = some moment ∧ moment.call? = some invocation ∧
      (invocation.handle = ⟨0⟩ ∧ invocation.generation = 2) ∧ CallsLive past 8 invocation := by
  have computed : (((World.fresh (({} : Catalog).insertCodec "raw/Count" "Count"
      (Codec.raw "raw/Count")) {} ({} : Recorder)).replay reuse).bind fun replayed =>
        replayed.1[8]?.bind fun moment =>
          moment.call?.map fun invocation => (invocation.handle, invocation.generation)) =
      some (⟨0⟩, 2) := by decide
  obtain ⟨⟨past, world⟩, replayed, computed⟩ := Option.bind_eq_some_iff.mp computed
  obtain ⟨moment, found, computed⟩ := Option.bind_eq_some_iff.mp computed
  obtain ⟨invocation, called, same⟩ := Option.map_eq_some_iff.mp computed
  have run := Run.ofReplay replayed
  exact ⟨past, world, moment, invocation, run, found, called, Prod.mk.inj same,
    call_of_live_incarnation run found called⟩

end TopicBridge
