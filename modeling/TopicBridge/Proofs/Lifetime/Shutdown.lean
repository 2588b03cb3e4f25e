import TopicBridge.Proofs.Lifetime.Reporting
import TopicBridge.Proofs.Lifetime.Teardown
import TopicBridge.Proofs.World.Budget

/-!
# Shutting down

A shutdown destroys every proxy and drops every message that is queued, wherever it
comes from, also from inside the callbacks of nested drains.  Unless a subscriber is
created later, nothing is called any more: the drains in progress find the queue
empty and end, and messages for the old subscriptions are counted and dropped.
Those that cannot be read are reported all the same.
-/

namespace TopicBridge

variable {μ : Type} [Middleware μ] {start world after last : World μ} {event : Event μ}
  {past later : List (Moment μ)}

theorem Queue.eq_empty_of_toList {α : Type} {queue : Queue α} (none : queue.toList = []) :
    queue = .empty := by
  obtain ⟨front, back, size, size_eq⟩ := queue
  obtain ⟨rfl, reversed⟩ := List.append_eq_nil_iff.mp none
  obtain rfl := List.reverse_eq_nil_iff.mp reversed
  subst size_eq
  rfl

/-! ## While no subscriber is opened -/

/-- No event of the run opens a subscriber. -/
def OpensNone (later : List (Moment μ)) : Prop :=
  ∀ moment ∈ later, ∀ handle generation subscriber codec,
    ¬ moment.Opens handle generation subscriber codec

/-- No subscriber is live. -/
def Bridge.Unsubscribed (bridge : Bridge μ) : Prop :=
  ∀ handle generation subscriber,
    bridge.table.get? handle ≠ some ⟨generation, .subscriber subscriber⟩

omit [Middleware μ] in
theorem Bridge.Unsubscribed.callbackOf? {bridge : Bridge μ} (unsubscribed : bridge.Unsubscribed)
    (handle : Handle) (generation : Nat) : bridge.table.callbackOf? handle generation = none := by
  cases looked : bridge.table.callbackOf? handle generation with
  | none => rfl
  | some callback =>
      obtain ⟨subscriber, live, _⟩ := Table.callbackOf?_eq_some_iff.mp looked
      exact absurd live (unsubscribed handle generation subscriber)

theorem Run.unsubscribed (run : Run start later world) (unsubscribed : start.bridge.Unsubscribed)
    (opensNone : OpensNone later) : world.bridge.Unsubscribed := by
  intro handle generation subscriber live
  rcases run.opened_since live with before | ⟨position, codec, moment, found, opens⟩
  · exact unsubscribed handle generation subscriber before
  · exact opensNone moment (List.mem_of_getElem? found) handle generation subscriber codec opens

/-- Without a subscriber nothing is queued, taken or called. -/
structure Idle (later : List (Moment μ)) (last : World μ) : Prop where
  calls : ∀ moment ∈ later, moment.call? = none
  departed : later.flatMap Moment.departed = []
  pending : last.bridge.pending.toList = []

theorem Run.idle (run : Run start later last) (unsubscribed : start.bridge.Unsubscribed)
    (empty : start.bridge.pending.toList = []) (opensNone : OpensNone later) :
    Idle later last := by
  have within {moment : Moment μ} (member : moment ∈ later) :
      moment.world.bridge.Unsubscribed := by
    obtain ⟨position, found⟩ := List.getElem?_of_mem member
    refine (run.before found).unsubscribed unsubscribed fun other earlier => ?_
    exact opensNone other (List.mem_of_mem_take earlier)
  have accepted : later.flatMap Moment.accepted = [] := by
    rw [List.flatMap_eq_nil_iff]
    rintro ⟨world, event⟩ member
    cases event with
    | deliver subscription payload =>
        refine List.eq_nil_iff_forall_not_mem.mpr fun invocation accepted => ?_
        obtain ⟨_, _, _, looked⟩ := Bridge.of_mem_accepted accepted
        cases looked.symm.trans ((within member).callbackOf? _ _)
    | _ => rfl
  have balance := run.accepted_eq
  rw [empty, accepted, List.append_nil] at balance
  obtain ⟨departed, pending⟩ := List.append_eq_nil_iff.mp balance.symm
  refine ⟨fun moment member => ?_, List.map_eq_nil_iff.mp departed, pending⟩
  cases called : moment.call? with
  | none => rfl
  | some invocation =>
      obtain ⟨_, _, isLive⟩ := Moment.of_call? called
      rw [Bridge.isLive, (within member).callbackOf?] at isLive
      cases isLive

/-- A drain in progress that only finds the queue empty looks at most once. -/
theorem Run.looks_le_one (run : Run start later last)
    (departed : ∀ moment ∈ later, moment.departed = []) (inner : List Drain)
    {outer : List Drain} {drain : Drain} (drains : start.drains = inner ++ drain :: outer) :
    (looksOf outer.length (courseOf outer.length later)).length ≤ 1 := by
  induction later generalizing start inner drain with
  | nil => exact Nat.zero_le _
  | cons moment later ih =>
      have rest_departed : ∀ moment ∈ later, moment.departed = [] :=
        fun other member => departed other (List.mem_cons_of_mem _ member)
      rcases run.uncons with ⟨rfl, next, stepped, rest⟩
      rw [courseOf_cons (World.length_outer_lt drains)]
      cases World.step_turn drains stepped with
      | aside newer drains budget counted aside =>
          have skipped : looksOf outer.length (moment :: courseOf outer.length later) =
              looksOf outer.length (courseOf outer.length later) :=
            List.filter_cons_of_neg (Bool.eq_false_iff.mp aside.1)
          rw [skipped]
          exact ih rest rest_departed _ drains
      | empty drains able spent counted look =>
          have none := (rest.keepsTo [] drains).looks
          rw [spent] at none
          rw [looksOf_cons look, List.length_cons]
          exact Nat.succ_le_succ none
      | took drains budget counted look took =>
          rw [departed moment List.mem_cons_self] at took
          cases took
      | ends drains spent counted look ended =>
          have none : looksOf outer.length [moment] = [] :=
            List.filter_cons_of_neg (Bool.eq_false_iff.mp look)
          rw [rest.courseOf_eq_nil (Nat.le_of_eq (congrArg List.length drains)), none]
          exact Nat.zero_le _

/-- A drain in progress takes nothing more, looks at most once and reports what it
had taken. -/
structure Drain.Winds (drain : Drain) (outer : List Drain) (later : List (Moment μ)) : Prop where
  taken : takenOf outer.length (courseOf outer.length later) = []
  looks : (looksOf outer.length (courseOf outer.length later)).length ≤ 1
  ended : ∀ ending ∈ courseOf outer.length later, ∀ report,
    ending.ended? outer.length = some report → report.total = drain.counted

theorem Run.winds (run : Run start later last) (departed : later.flatMap Moment.departed = [])
    (inner : List Drain) {outer : List Drain} {drain : Drain}
    (drains : start.drains = inner ++ drain :: outer) : drain.Winds outer later := by
  have each := List.flatMap_eq_nil_iff.mp departed
  have taken : takenOf outer.length (courseOf outer.length later) = [] := by
    rw [takenOf, List.map_eq_nil_iff, List.flatMap_eq_nil_iff]
    intro moment member
    exact each moment (List.takeWhile_subset _ (List.mem_filter.mp member).1)
  refine ⟨taken, run.looks_le_one each inner drains, fun ending member report ended => ?_⟩
  have total := ((run.keepsTo inner drains).ended ending member report ended).1
  rw [taken] at total
  exact total

/-! ## A shutdown -/

/-- What a payload does that comes in for a subscriber that is gone. -/
def Bridge.discard (bridge : Bridge μ) (target : Target) (payload : Bytes) : Bridge μ :=
  let received := bridge.count fun c => { c with delivered := c.delivered + 1 }
  match target.codec.decode payload with
  | .ok _ => received.count fun c => { c with droppedUnknown := c.droppedUnknown + 1 }
  | .error cause =>
      (received.count fun c => { c with decodeFailures := c.decodeFailures + 1 }).report
        (.unreadable target.handle cause)

omit [Middleware μ] in
theorem Bridge.receive_of_gone {bridge : Bridge μ} {target : Target}
    (gone : bridge.table.callbackOf? target.handle target.generation = none) (payload : Bytes) :
    bridge.receive target payload = bridge.discard target payload := by
  unfold receive discard
  cases target.codec.decode payload with
  | error cause => rfl
  | ok value =>
      simp only [count]
      rw [gone]

omit [Middleware μ] in
/-- Only counters change exactly if the payload can be read. -/
theorem Bridge.discard_counts_iff {bridge : Bridge μ} {target : Target} {payload : Bytes} :
    (∃ counters, bridge.discard target payload = { bridge with counters }) ↔
      ∃ value, target.codec.decode payload = .ok value := by
  unfold discard
  cases target.codec.decode payload with
  | ok value => exact ⟨fun _ => ⟨value, rfl⟩, fun _ => ⟨_, rfl⟩⟩
  | error cause =>
      refine ⟨fun ⟨counters, same⟩ => ?_, nofun⟩
      have reports := congrArg (fun bridge => bridge.reports.size) same
      simp [report, count] at reports

/-- What is left after a shutdown, and what comes of it. -/
structure ShutDown (world : World μ) (after : Bridge μ) : Prop where
  noneLive : ∀ handle, after.table.get? handle = none
  destroyed : after.counters.destroyed = after.counters.created
  /-- Every proxy is closed, each message that was queued is counted once, and all
  else is as it was. -/
  frame : after = { world.bridge with
    table := { world.bridge.table with
      entries := []
      allocator := { world.bridge.table.allocator with
        free := world.bridge.handles.reverse ++ world.bridge.table.allocator.free } }
    middleware :=
      (world.bridge.proxiesUnder world.bridge.handles).foldl Bridge.close world.bridge.middleware
    pending := .empty
    counters := { world.bridge.counters with
      destroyed := world.bridge.counters.destroyed + world.bridge.handles.length
      discardedStale :=
        world.bridge.counters.discardedStale + world.bridge.pending.toList.length } }
  /-- What is called later was opened since. -/
  calls : ∀ {later last}, Run ⟨after, world.drains⟩ later last →
    ∀ {position moment invocation}, later[position]? = some moment →
      moment.call? = some invocation → ∃ opening subscriber codec, opening < position ∧
        OpenedAt later opening invocation.handle invocation.generation subscriber codec ∧
        subscriber.callback = invocation.callback
  /-- Unless a subscriber is opened, nothing is called, and every drain in progress
  ends without taking anything. -/
  idle : ∀ {later last}, Run ⟨after, world.drains⟩ later last → OpensNone later →
    Idle later last ∧
      (∀ inner drain outer, world.drains = inner ++ drain :: outer → drain.Winds outer later) ∧
      ∀ (η : Type) (call : Invocation → Bridge μ × η → Except String Unit × Bridge μ × η)
        (host : η) (budget : Nat) (report : DrainReport),
        Bridge.drainUpTo call budget report (last.bridge, host) = (report, last.bridge, host)
  /-- A later message for an old subscription is dropped, and that only counters
  change is the same as that it can be read. -/
  late : ∀ {later last}, Run ⟨after, world.drains⟩ later last → ∀ {subscription target},
    Dict.get? world.bridge.targets subscription = some target → ∀ payload,
    last.bridge.receive target payload = last.bridge.discard target payload ∧
      (Dict.get? last.bridge.targets subscription = some target →
        last.bridge.deliver subscription payload =
          if last.bridge.isLoaded then last.bridge.discard target payload else last.bridge) ∧
      ((∃ counters, last.bridge.discard target payload = { last.bridge with counters }) ↔
        ∃ value, target.codec.decode payload = .ok value)
  /-- As long as nothing is created, shutting down again changes nothing. -/
  again : ∀ {later last}, Run ⟨after, world.drains⟩ later last →
    (∀ moment ∈ later, moment.issued? = none) → last.bridge.shutdown = last.bridge

/-! ### While nothing is created -/

theorem Moment.Opens.issued? {moment : Moment μ} {handle : Handle} {generation : Nat}
    {subscriber : Subscriber} {codec : Codec}
    (opens : moment.Opens handle generation subscriber codec) : moment.issued? = some handle := by
  obtain ⟨_, operation, event, _, _, _, _, rfl, answer, _⟩ := opens
  exact Moment.issued?_eq_some_iff.mpr ⟨_, event, by simp [Bridge.outcome, answer, Except.map]⟩

/-- Without a creation no proxy comes to life. -/
theorem Run.noneLive (run : Run start later world)
    (gone : ∀ handle, start.bridge.table.get? handle = none)
    (issuesNone : ∀ moment ∈ later, moment.issued? = none) (handle : Handle) :
    world.bridge.table.get? handle = none := by
  induction run with
  | start => exact gone handle
  | @next later world after event _ stepped ih =>
      have before := ih fun moment member => issuesNone moment (List.mem_append_left _ member)
      rcases World.step_table stepped with ⟨operation, rfl, same⟩ | ⟨_, table, _⟩
      · have silent := issuesNone ⟨world, .operation operation⟩
          (List.mem_append_right _ List.mem_cons_self)
        have opensNone : ∀ opened, world.bridge.outcome operation ≠ .ok (some opened) := by
          intro opened answer
          cases silent.symm.trans (Moment.issued?_eq_some_iff.mpr ⟨operation, rfl, answer⟩)
        rw [same, world.bridge.get?_perform_of_removes opensNone, before, ite_self]
      · rw [table, before]

/-- Nothing changes where nothing is live and nothing is queued. -/
theorem Bridge.shutdown_eq_self {bridge : Bridge μ}
    (gone : ∀ handle, bridge.table.get? handle = none)
    (empty : bridge.pending.toList = []) : bridge.shutdown = bridge := by
  have handles : bridge.handles = [] := by
    refine List.eq_nil_iff_forall_not_mem.mpr fun handle member => ?_
    rw [Bridge.handles, Table.mem_handles_iff, gone handle] at member
    cases member
  have pending : bridge.pending = .empty := Queue.eq_empty_of_toList empty
  rw [shutdown, clear, handles, dropAll_nil, flush, pending]
  obtain ⟨types, config, middleware, table, queue, targets, counters, reports, isLoaded⟩ := bridge
  dsimp only at pending
  subst pending
  rfl

/-! ### Every run -/

theorem Run.le_of_openedAt (run : Run start later last) {position : Nat} {handle : Handle}
    {generation : Nat} {subscriber : Subscriber} {codec : Codec}
    (opened : OpenedAt later position handle generation subscriber codec) :
    start.bridge.table.nextGeneration ≤ generation := by
  obtain ⟨moment, found, rfl, _⟩ := opened
  exact (run.before found).nextGeneration_le

section Runs

variable {types : Catalog} {config : BridgeConfig} {middleware : μ}

theorem Run.populated (run : Run (World.fresh types config middleware) past world) :
    world.bridge.Populated := by
  induction run with
  | start => rfl
  | next run stepped ih => exact World.populated_step ih run.consistent_mirrors.1 stepped

/-- The frame of a shutdown. -/
theorem Bridge.shutdown_eq {bridge : Bridge μ} (consistent : bridge.table.Consistent) :
    bridge.shutdown = { bridge with
      table := { bridge.table with
        entries := []
        allocator := { bridge.table.allocator with
          free := bridge.handles.reverse ++ bridge.table.allocator.free } }
      middleware := (bridge.proxiesUnder bridge.handles).foldl close bridge.middleware
      pending := .empty
      counters := { bridge.counters with
        destroyed := bridge.counters.destroyed + bridge.handles.length
        discardedStale := bridge.counters.discardedStale + bridge.pending.toList.length } } := by
  obtain ⟨distinct, live⟩ := removes_spec consistent .clear
  have dropped := dropAll_eq distinct live
  have entries : (bridge.perform .clear).table.entries = [] := bridge.entries_of_clears rfl
  change (bridge.dropAll (bridge.removes .clear)).table.entries = [] at entries
  change (bridge.dropAll (bridge.removes .clear)).flush = _
  rw [dropped] at entries ⊢
  dsimp only at entries
  rw [flush, entries, ← bridge.pending.size_eq_length_toList]
  rfl

/-- A shutdown at any moment of a run is complete. -/
theorem Run.shutDown (run : Run (World.fresh types config middleware) past world) :
    ShutDown world world.bridge.shutdown := by
  obtain ⟨consistent, _⟩ := run.consistent_mirrors
  have gone (handle : Handle) : world.bridge.shutdown.table.get? handle = none :=
    world.bridge.get?_dropAll_handles handle
  have unsubscribed : world.bridge.shutdown.Unsubscribed := by
    intro handle generation subscriber live
    cases live.symm.trans (gone handle)
  have frame := Bridge.shutdown_eq consistent
  refine ⟨gone, ?_, frame, ?_, ?_, ?_, ?_⟩
  · have populated := run.populated.perform consistent .shutdown
    rw [Bridge.Populated, Table.size, world.bridge.entries_of_clears rfl] at populated
    exact populated.symm
  · intro later last onward position moment invocation found called
    obtain ⟨earlier, sourced⟩ := (Sourced.ofRun run).perform .shutdown
    obtain ⟨subscriber, carries, before | ⟨opening, codec, earlier, opened⟩⟩ :=
      sourced.called_since onward found called
    · cases before.symm.trans (gone invocation.handle)
    · exact ⟨opening, subscriber, codec, earlier, opened, carries⟩
  · intro later last onward opensNone
    have idle := onward.idle unsubscribed rfl opensNone
    exact ⟨idle, fun inner drain outer drains => onward.winds idle.departed inner drains,
      fun η call host budget report =>
        Bridge.drainUpTo_of_empty call budget report host idle.pending⟩
  · intro later last onward subscription target old payload
    have gone : last.bridge.table.callbackOf? target.handle target.generation = none := by
      cases looked : last.bridge.table.callbackOf? target.handle target.generation with
      | none => rfl
      | some callback =>
          obtain ⟨subscriber, live, _⟩ := Table.callbackOf?_eq_some_iff.mp looked
          rcases onward.opened_since live with before | ⟨position, codec, opened⟩
          · cases before.symm.trans (gone target.handle)
          · -- The old generation was drawn before the shutdown.
            obtain ⟨_, _, _, openedOld⟩ := (Sourced.ofRun run).target old
            have drawn := (Sourced.ofRun run).drawn openedOld
            have since := onward.le_of_openedAt opened
            rw [frame] at since
            exact absurd drawn (Nat.not_lt_of_le since)
    refine ⟨Bridge.receive_of_gone gone payload, fun found => ?_, Bridge.discard_counts_iff⟩
    rw [Bridge.deliver, found]
    simp only [Bridge.receive_of_gone gone]
  · intro later last onward issuesNone
    have opensNone : OpensNone later := fun moment member _ _ _ _ opens => by
      cases opens.issued?.symm.trans (issuesNone moment member)
    exact Bridge.shutdown_eq_self (onward.noneLive gone issuesNone)
      (onward.idle unsubscribed rfl opensNone).pending

end Runs

/-! ## Unloading -/

/-- No operation loads a bridge again. -/
theorem Bridge.isLoaded_perform {bridge : Bridge μ} (unloaded : bridge.isLoaded = false)
    (operation : Operation) : (bridge.perform operation).isLoaded = false := by
  cases flushes : operation.flushes with
  | true =>
      cases operation with
      | shutdown => exact (bridge.isLoaded_dropAll bridge.handles).trans unloaded
      | unload => rfl
      | _ => cases flushes
  | false =>
      have effect := bridge.performs operation
      generalize bridge.perform operation = after at effect ⊢
      cases effect with
      | refused keeps refuses => rcases refuses with rfl | ⟨_, _, _, rfl⟩ <;> exact unloaded
      | openedPublisher | openedSubscriber => exact unloaded
      | dropped keeps handles => exact (bridge.isLoaded_dropAll handles).trans unloaded
      | flushed other => cases flushes.symm.trans other
      | published keeps publishes =>
          obtain ⟨_, _, rfl⟩ := publishes
          exact unloaded

omit [Middleware μ] in
theorem Bridge.deliver_of_unloaded {bridge : Bridge μ} (unloaded : bridge.isLoaded = false)
    (subscription : SubscriptionId) (payload : Bytes) :
    bridge.deliver subscription payload = bridge := by
  rw [deliver, unloaded]
  rfl

/-- A bridge that was unloaded stays so. -/
theorem Run.unloaded (run : Run start later world) (unloaded : start.bridge.isLoaded = false) :
    world.bridge.isLoaded = false := by
  induction run with
  | start => exact unloaded
  | next _ stepped ih =>
      rcases World.step_table stepped with ⟨operation, _, same⟩ | ⟨other, _, _⟩
      · rw [same]
        exact Bridge.isLoaded_perform ih operation
      · obtain ⟨_, _, _, _, same, _⟩ := World.step_other other stepped
        rw [same]
        exact ih

/-! ## Every shutdown -/

/-- At every moment of every run of a bridge, also from inside nested drains, a
shutdown leaves no proxy live and nothing queued, and unless a subscriber is
created later nothing is called.  Messages for the old subscriptions only count as
far as they can be read.  Over a layer that nobody else uses everything is closed,
and once the bridge is unloaded no delivery has any effect. -/
theorem shutdown_complete (types : Catalog) (config : BridgeConfig) :
    (∀ {μ : Type} [Middleware μ] {middleware : μ} {past : List (Moment μ)} {world : World μ},
      Run (World.fresh types config middleware) past world →
      ShutDown world world.bridge.shutdown) ∧
    (∀ {past : List (Moment Recorder)} {world : World Recorder},
      Run (World.fresh types config ({} : Recorder)) past world →
      OnlyUser Recorder.MovesOn past →
      ∀ listener ∈ world.bridge.shutdown.middleware.listeners, listener.isCancelled = true) ∧
    (∀ {options : BusConfig} {past : List (Moment Bus)} {world : World Bus},
      Run (World.fresh types config ({ config := options } : Bus)) past world →
      OnlyUser Bus.MovesOn past →
      (∀ publication ∈ world.bridge.shutdown.middleware.publications,
        publication.isOpen = false) ∧
      ∀ subscription ∈ world.bridge.shutdown.middleware.subscriptions,
        subscription.isOpen = false) ∧
    ∀ {μ : Type} [Middleware μ] (world : World μ) {later : List (Moment μ)} {last : World μ},
      Run ⟨world.bridge.unload, world.drains⟩ later last → ∀ subscription payload,
        last.bridge.deliver subscription payload = last.bridge := by
  refine ⟨fun run => run.shutDown, fun {past world} run alone => ?_,
    fun {options past world} run alone => ?_,
    fun world _ _ onward => Bridge.deliver_of_unloaded (onward.unloaded rfl)⟩
  · intro listener member
    have blank : (world.bridge.perform .shutdown).middleware.openSubscriptions = [] :=
      Recorder.keepsBook.cleared run.consistent_mirrors.1 (Recorder.booked run alone) rfl
    simpa using closed_of_openFrom_eq_nil _ _ _ blank listener member
  · obtain ⟨published, subscribed⟩ := run.bus_booked alone
    have consistent := run.consistent_mirrors.1
    have publications : (world.bridge.perform .shutdown).middleware.openPublications = [] :=
      Bus.keepsPublications.cleared consistent published rfl
    have subscriptions : (world.bridge.perform .shutdown).middleware.openSubscriptions = [] :=
      Bus.keepsSubscriptions.cleared consistent subscribed rfl
    exact ⟨closed_of_openFrom_eq_nil _ _ _ publications,
      closed_of_openFrom_eq_nil _ _ _ subscriptions⟩

/-- A callback that a nested drain is running leaves two drains in progress and a
message queued. -/
def nestedDrains (μ : Type) : List (Event μ) :=
  [.operation (.createSubscriber (fun _ => true) "/count" "Count" ⟨⟨1⟩, "onCount"⟩ {}),
    .operation (.createPublisher ⟨1⟩ "/count" "Count" {}), .deliver ⟨0⟩ [7, 0, 0, 0],
    .deliver ⟨0⟩ [8, 0, 0, 0], .deliver ⟨0⟩ [9, 0, 0, 0], .beginDrain, .take, .beginDrain, .take]

theorem shutdown_complete_nestedDrains :
    (∃ past world, Run (World.fresh countsAndNames {} ({} : Recorder)) past world ∧
      world.drains.length = 2 ∧ world.bridge.pending.size = 1 ∧ world.bridge.table.size = 2 ∧
      ShutDown world world.bridge.shutdown ∧
      ∀ listener ∈ world.bridge.shutdown.middleware.listeners, listener.isCancelled = true) ∧
    ∃ past world, Run (World.fresh countsAndNames {} ({} : Bus)) past world ∧
      world.bridge.middleware.subscriptions.map (·.isOpen) = [true] ∧
      (∀ subscription ∈ world.bridge.shutdown.middleware.subscriptions,
        subscription.isOpen = false) ∧
      world.bridge.unload.deliver ⟨0⟩ [1] = world.bridge.unload := by
  constructor
  · have computed :
        ((World.fresh countsAndNames {} ({} : Recorder)).replay (nestedDrains Recorder)).map
          (fun replayed => (replayed.2.drains.length, replayed.2.bridge.pending.size,
            replayed.2.bridge.table.size, replayed.1.all (Moment.passes fun _ _ => false))) =
          some (2, 1, 2, true) := by
      decide +kernel
    obtain ⟨⟨past, world⟩, replayed, same⟩ := Option.map_eq_some_iff.mp computed
    simp only [Prod.mk.injEq] at same
    obtain ⟨nested, queued, live, all⟩ := same
    have alone : OnlyUser Recorder.MovesOn past := OnlyUser.of_still all
    have run := Run.ofReplay replayed
    exact ⟨past, world, run, nested, queued, live, (shutdown_complete _ _).1 run,
      (shutdown_complete _ _).2.1 run alone⟩
  · have computed :
        ((World.fresh countsAndNames {} ({} : Bus)).replay (nestedDrains Bus)).map
          (fun replayed => (replayed.2.bridge.middleware.subscriptions.map (·.isOpen),
            replayed.1.all (Moment.passes fun _ _ => false))) = some ([true], true) := by
      decide +kernel
    obtain ⟨⟨past, world⟩, replayed, same⟩ := Option.map_eq_some_iff.mp computed
    obtain ⟨opened, all⟩ := Prod.mk.inj same
    have alone : OnlyUser Bus.MovesOn past := OnlyUser.of_still all
    have run := Run.ofReplay replayed
    exact ⟨past, world, run, opened, ((shutdown_complete _ _).2.2.1 run alone).2,
      (shutdown_complete countsAndNames {}).2.2.2 world Run.start ⟨0⟩ [1]⟩

/-- After a shutdown a message of the old subscription that cannot be read is not
only counted. -/
theorem not_only_counted_afterShutdown :
    ∃ past world, Run (World.fresh countsAndNames {} ({} : Recorder)) past world ∧
      (world.bridge.shutdown.deliver ⟨0⟩ [1]).reports.toList = [.unreadable ⟨0⟩ .unexpectedEnd] ∧
      ¬ ∃ counters, world.bridge.shutdown.deliver ⟨0⟩ [1] =
        { world.bridge.shutdown with counters } := by
  have computed : ((World.fresh countsAndNames {} ({} : Recorder)).replay
      (nestedDrains Recorder)).bind
      (fun replayed => (Dict.get? replayed.2.bridge.targets ⟨0⟩).map fun target =>
        (target.handle, target.codec.decode [1] matches .error .unexpectedEnd,
          replayed.2.bridge.isLoaded, replayed.2.bridge.reports.toList)) =
      some (⟨0⟩, true, true, []) := by
    decide +kernel
  obtain ⟨⟨past, world⟩, replayed, computed⟩ := Option.bind_eq_some_iff.mp computed
  obtain ⟨⟨handle, generation, codec⟩, targeted, same⟩ := Option.map_eq_some_iff.mp computed
  simp only [Prod.mk.injEq] at same
  obtain ⟨rfl, unreadable, loaded, reports⟩ := same
  have failed : codec.decode [1] = .error .unexpectedEnd := by
    split at unreadable
    · assumption
    · cases unreadable
  have targeted : Dict.get? world.bridge.shutdown.targets ⟨0⟩ = some ⟨⟨0⟩, generation, codec⟩ :=
    (world.bridge.targets_dropAll _).symm ▸ targeted
  have loaded : world.bridge.shutdown.isLoaded = true :=
    (world.bridge.isLoaded_dropAll _).trans loaded
  have none : world.bridge.shutdown.reports.toList = [] := by
    rw [← reports]
    exact congrArg Array.toList (world.bridge.reports_dropAll _)
  have gone : world.bridge.shutdown.table.callbackOf? ⟨0⟩ generation = .none := by
    rw [Table.callbackOf?, (Run.ofReplay replayed).shutDown.noneLive]
    rfl
  have discards : world.bridge.shutdown.deliver ⟨0⟩ [1] =
      world.bridge.shutdown.discard ⟨⟨0⟩, generation, codec⟩ [1] := by
    rw [Bridge.deliver, if_pos loaded, targeted]
    exact Bridge.receive_of_gone gone [1]
  refine ⟨past, world, Run.ofReplay replayed, ?_, ?_⟩
  · rw [discards, Bridge.discard]
    simp [failed, Bridge.report, Bridge.count, none]
  · rw [discards, Bridge.discard_counts_iff]
    rintro ⟨value, decoded⟩
    cases failed.symm.trans decoded

end TopicBridge
