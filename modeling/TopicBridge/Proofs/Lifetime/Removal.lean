import TopicBridge.Proofs.Binding.Book

/-!
# Removed for good

A subscriber incarnation lives from the creation that opened it until an
operation removes it, and it never comes back: whoever gets its handle later is
another incarnation, in a later generation.  So what is called at some moment of
a run was live when the run began or has been opened since.
-/

namespace TopicBridge

variable {μ : Type}

/-- The handles of the proxies that the event removes, in order. -/
def Moment.removes (moment : Moment μ) : List Handle :=
  match moment.event with
  | .operation operation => moment.world.bridge.removes operation
  | _ => []

/-- The event ends the proxy of a generation under a handle. -/
def Moment.Ends (moment : Moment μ) (handle : Handle) (generation : Nat) : Prop :=
  handle ∈ moment.removes ∧
    ∃ entry, moment.world.bridge.table.get? handle = some entry ∧ entry.generation = generation

/-- An event of the run removes the proxy of a generation under a handle. -/
def RemovedIn (past : List (Moment μ)) (handle : Handle) (generation : Nat) : Prop :=
  ∃ moment ∈ past, moment.Ends handle generation

theorem RemovedIn.snoc_iff {past : List (Moment μ)} {last : Moment μ} {handle : Handle}
    {generation : Nat} :
    RemovedIn (past ++ [last]) handle generation ↔
      RemovedIn past handle generation ∨ last.Ends handle generation := by
  simp [RemovedIn, or_and_right, exists_or]

variable [Middleware μ]

/-! ## What an event does to a live proxy -/

namespace Bridge

variable {bridge : Bridge μ} {handle : Handle}

/-- An operation keeps every live proxy that it does not remove, and removes
every one that it lists. -/
theorem get?_perform_of_live (consistent : bridge.table.Consistent) {entry : Entry}
    (found : bridge.table.get? handle = some entry) (operation : Operation) :
    (bridge.perform operation).table.get? handle =
      if handle ∈ bridge.removes operation then none else some entry := by
  have lookup {table : Table} (entries : table.entries = bridge.table.entries) :
      table.get? handle = some entry := by
    rw [Table.get?, entries]
    exact found
  have entered {table : Table} {drawn : Handle} {other : Entry}
      (entries : table.entries = Dict.insert bridge.table.entries drawn other)
      (fresh : ∃ allocator, bridge.table.allocator.allocate? = some (drawn, allocator)) :
      table.get? handle = some entry := by
    obtain ⟨allocator, allocated⟩ := fresh
    have apart : drawn ≠ handle := by
      rintro rfl
      cases found.symm.trans (consistent.get?_eq_none allocated)
    rw [Table.get?, entries, Dict.get?_insert, if_neg apart]
    exact found
  have effect := bridge.rebinds operation
  generalize bridge.perform operation = after at effect ⊢
  cases effect with
  | kept entries middleware none => rw [none, if_neg List.not_mem_nil, lookup entries]
  | sent entries middleware none => rw [none, if_neg List.not_mem_nil, lookup entries]
  | advertised entries fresh opens none =>
      rw [none, if_neg List.not_mem_nil, entered entries fresh]
  | subscribed entries fresh opens none =>
      rw [none, if_neg List.not_mem_nil, entered entries fresh]
  | removed entries middleware =>
      have same : after.table.get? handle =
          (bridge.dropAll (bridge.removes operation)).table.get? handle := by
        rw [Table.get?, entries]
        rfl
      rw [same, get?_dropAll, found]

/-- A subscriber that an operation opens is live after it, and the operation
removes nothing. -/
theorem Opens.get?_perform {operation : Operation} {subscriber : Subscriber} {codec : Codec}
    (opens : bridge.Opens operation handle subscriber codec) :
    (bridge.perform operation).table.get? handle =
        some ⟨bridge.table.nextGeneration, .subscriber subscriber⟩ ∧
      bridge.removes operation = [] := by
  obtain ⟨topic, typeName, callback, subscription⟩ := subscriber
  obtain ⟨hasEntryPoint, name, options, middleware, rfl, answer, known, rfl, subscribed⟩ := opens
  dsimp only at answer known subscribed
  rcases bridge.createSubscriber_cases hasEntryPoint topic name callback options with
    ⟨e, after, equal, _⟩ |
    ⟨drawn, allocator, codec', subscription', middleware', known', _, _, subscribed', equal⟩
  · rw [equal] at answer
    cases answer
  · rw [equal] at answer
    cases answer
    cases known.symm.trans known'
    cases subscribed.symm.trans subscribed'
    refine ⟨?_, rfl⟩
    simp only [perform, equal]
    rw [get?_opened, if_pos rfl]

end Bridge

section Steps

variable {world after : World μ} {event : Event μ} {handle : Handle}

/-- An event keeps every live proxy that it does not remove. -/
theorem World.get?_step (consistent : world.bridge.table.Consistent)
    (stepped : world.step event = some after) {entry : Entry}
    (found : world.bridge.table.get? handle = some entry) :
    after.bridge.table.get? handle =
      if handle ∈ (Moment.mk world event).removes then none else some entry := by
  rcases World.step_table stepped with ⟨operation, rfl, same⟩ | ⟨other, table, _⟩
  · rw [same]
    exact Bridge.get?_perform_of_live consistent found operation
  · have none : (Moment.mk world event).removes = [] := by
      cases event with
      | operation operation => exact absurd rfl (other operation)
      | _ => rfl
    rw [none, if_neg List.not_mem_nil, table, found]

/-- An incarnation is live after the event that opens it. -/
theorem World.get?_of_opens (stepped : world.step event = some after) {generation : Nat}
    {subscriber : Subscriber} {codec : Codec}
    (opens : (Moment.mk world event).Opens handle generation subscriber codec) :
    after.bridge.table.get? handle = some ⟨generation, .subscriber subscriber⟩ ∧
      (Moment.mk world event).removes = [] := by
  obtain ⟨rfl, operation, same, opens⟩ := opens
  dsimp only at same
  subst same
  obtain ⟨_, rfl⟩ := World.step_operation stepped
  exact opens.get?_perform

end Steps

/-! ## Incarnations of a run -/

section Runs

variable {start world last : World μ} {past later : List (Moment μ)}

/-- Generations never go back in a run. -/
theorem Run.nextGeneration_le (run : Run start past world) :
    start.bridge.table.nextGeneration ≤ world.bridge.table.nextGeneration := by
  induction run with
  | start => exact Nat.le_refl _
  | next _ stepped ih => exact Nat.le_trans ih (World.nextGeneration_step stepped).1

/-- A generation belongs to one incarnation. -/
theorem Sourced.incarnation (sourced : Sourced past world) {position place : Nat}
    {handle other : Handle} {generation : Nat} {subscriber another : Subscriber}
    {codec reader : Codec} (first : OpenedAt past position handle generation subscriber codec)
    (second : OpenedAt past place other generation another reader) :
    position = place ∧ handle = other ∧ subscriber = another ∧ codec = reader := by
  have samePlace : position = place := sourced.unique first second
  subst samePlace
  obtain ⟨moment, found, opens⟩ := first
  obtain ⟨moment', found', opens'⟩ := second
  cases found.symm.trans found'
  exact ⟨rfl, opens.unique opens'⟩

/-- A queued invocation carries the callback of its subscriber. -/
theorem Sourced.carries (sourced : Sourced past world) {invocation : Invocation}
    (member : invocation ∈ world.bridge.pending.toList) {subscriber : Subscriber}
    (found : world.bridge.table.get? invocation.handle =
      some ⟨invocation.generation, .subscriber subscriber⟩) :
    subscriber.callback = invocation.callback := by
  obtain ⟨opening, delivery, source, stems⟩ := sourced.queued member
  obtain ⟨codec, payload, _, opened, _⟩ := stems.reads
  obtain ⟨place, reader, openedLive, _⟩ := sourced.live found
  obtain ⟨_, _, rfl, _⟩ := sourced.incarnation opened openedLive
  exact stems.carries

variable {types : Catalog} {config : BridgeConfig} {middleware : μ}

/-- What was removed had a generation that was drawn before. -/
theorem Run.lt_of_removedIn (run : Run (World.fresh types config middleware) past world)
    {handle : Handle} {generation : Nat} (removed : RemovedIn past handle generation) :
    generation < world.bridge.table.nextGeneration := by
  obtain ⟨moment, member, _, entry, found, rfl⟩ := removed
  obtain ⟨position, at_position⟩ := List.getElem?_of_mem member
  obtain ⟨next, stepped, rest⟩ := run.onward at_position
  calc
    entry.generation < moment.world.bridge.table.nextGeneration :=
      (run.before at_position).consistent_mirrors.1.drawn found
    _ ≤ next.bridge.table.nextGeneration := (World.nextGeneration_step stepped).1
    _ ≤ world.bridge.table.nextGeneration := rest.nextGeneration_le

/-- An incarnation that was opened is live exactly until it is removed. -/
theorem Run.live_iff_not_removedIn (run : Run (World.fresh types config middleware) past world)
    {position : Nat} {handle : Handle} {generation : Nat} {subscriber : Subscriber} {codec : Codec}
    (opened : OpenedAt past position handle generation subscriber codec) :
    world.bridge.table.get? handle = some ⟨generation, .subscriber subscriber⟩ ↔
      ¬ RemovedIn past handle generation := by
  induction run with
  | start => exact absurd opened.lt (Nat.not_lt_zero _)
  | @next past world after event run stepped ih =>
      rw [RemovedIn.snoc_iff]
      rcases opened.snoc with earlier | ⟨_, opens⟩
      · have drawn := (Sourced.ofRun run).drawn earlier
        by_cases before : world.bridge.table.get? handle = some ⟨generation, .subscriber subscriber⟩
        · have kept := World.get?_step run.consistent_mirrors.1 stepped before
          have notYet := (ih earlier).mp before
          by_cases listed : handle ∈ (Moment.mk world event).removes
          · have now : (Moment.mk world event).Ends handle generation :=
              ⟨listed, _, before, rfl⟩
            rw [kept, if_pos listed]
            simp [now]
          · have notNow : ¬ (Moment.mk world event).Ends handle generation :=
              fun ends => listed ends.1
            rw [kept, if_neg listed]
            simp [notYet, notNow]
        · have gone : RemovedIn past handle generation :=
            Classical.byContradiction fun absent => before ((ih earlier).mpr absent)
          refine ⟨fun live => ?_, fun absent => absurd (Or.inl gone) absent⟩
          rcases World.subscriber_step stepped live with still | ⟨_, opens⟩
          · exact absurd still before
          · exact absurd opens.1 (Nat.ne_of_lt drawn)
      · obtain ⟨live, none⟩ := World.get?_of_opens stepped opens
        refine ⟨fun _ removed => ?_, fun _ => live⟩
        rcases removed with earlier | ⟨now, _⟩
        · exact absurd opens.1 (Nat.ne_of_lt (run.lt_of_removedIn earlier))
        · rw [none] at now
          cases now

/-! ## What is called later -/

/-- A subscriber that is live after a run was live before it, or was opened in
it. -/
theorem Run.opened_since (run : Run start past world) {handle : Handle} {generation : Nat}
    {subscriber : Subscriber}
    (live : world.bridge.table.get? handle = some ⟨generation, .subscriber subscriber⟩) :
    start.bridge.table.get? handle = some ⟨generation, .subscriber subscriber⟩ ∨
      ∃ position codec, OpenedAt past position handle generation subscriber codec := by
  induction run with
  | start => exact Or.inl live
  | next _ stepped ih =>
      rcases World.subscriber_step stepped live with before | ⟨codec, opens⟩
      · rcases ih before with first | ⟨position, codec, opened⟩
        · exact Or.inl first
        · exact Or.inr ⟨position, codec, opened.append⟩
      · exact Or.inr ⟨_, codec, OpenedAt.newest opens⟩

/-- The invariant of a run goes on to hold. -/
theorem Sourced.run (sourced : Sourced past world) (onward : Run world later last) :
    Sourced (past ++ later) last := by
  induction onward with
  | start => rwa [List.append_nil]
  | next _ stepped ih =>
      rw [← List.append_assoc]
      exact ih.step stepped

/-- What is called later has the callback of a subscriber that is live now or was
opened in the meantime. -/
theorem Sourced.called_since (sourced : Sourced past world) (onward : Run world later last)
    {position : Nat} {moment : Moment μ} {invocation : Invocation}
    (found : later[position]? = some moment) (called : moment.call? = some invocation) :
    ∃ subscriber, subscriber.callback = invocation.callback ∧
      (world.bridge.table.get? invocation.handle =
          some ⟨invocation.generation, .subscriber subscriber⟩ ∨
        ∃ opening codec, opening < position ∧
          OpenedAt later opening invocation.handle invocation.generation subscriber codec) := by
  have until_call := onward.before found
  obtain ⟨_, member, isLive⟩ := Moment.of_call? called
  obtain ⟨callback, looked⟩ := Option.isSome_iff_exists.mp isLive
  obtain ⟨subscriber, live, rfl⟩ := Table.callbackOf?_eq_some_iff.mp looked
  refine ⟨subscriber, (sourced.run until_call).carries member live, ?_⟩
  rcases until_call.opened_since live with first | ⟨opening, codec, opened⟩
  · exact Or.inl first
  · obtain ⟨opened, earlier⟩ := opened.of_take
    exact Or.inr ⟨opening, codec, earlier, opened⟩

/-- An operation keeps the invariant, whatever drains are in progress. -/
theorem Sourced.perform (sourced : Sourced past world) (operation : Operation) :
    ∃ past, Sourced past ⟨world.bridge.perform operation, world.drains⟩ := by
  -- The invariant is about the bridge alone, so the drains can be put aside.
  have aside : Sourced past ⟨world.bridge, []⟩ :=
    ⟨sourced.drawn, sourced.unique, sourced.live, sourced.target, sourced.queued⟩
  have performed : Sourced (past ++ [⟨⟨world.bridge, []⟩, .operation operation⟩])
      ⟨world.bridge.perform operation, []⟩ := aside.step rfl
  exact ⟨_, performed.drawn, performed.unique, performed.live, performed.target,
    performed.queued⟩

end Runs

end TopicBridge
