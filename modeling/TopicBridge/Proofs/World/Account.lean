import TopicBridge.Proofs.World.Order
import TopicBridge.Proofs.World.Ledger

/-!
# Accounts of deliveries and proxies

The counters of a bridge account for everything that came in and for every
proxy.  A delivery that was counted was either dropped or queued, and what was
queued was called, failed, discarded, or is still waiting for its call to come
or to return.  Operations touch only the counters of proxies and publications,
except that a shutdown discards what is queued, so the balance is a matter of
four events: a delivery, a look at the queue, the end of a call and a flush.
-/

namespace TopicBridge

variable {μ : Type}

/-- The counters of deliveries and calls alone. -/
def Counters.traffic (counters : Counters) : Counters :=
  { counters with created := 0, destroyed := 0, published := 0 }

/-- The fields that decide where a delivery can go, and how many are waiting. -/
structure Bridge.Steady (before after : Bridge μ) : Prop where
  config : after.config = before.config
  pending : after.pending = before.pending
  traffic : after.counters.traffic = before.counters.traffic

/-- Every proxy that was created is live or was destroyed. -/
def Bridge.Populated (bridge : Bridge μ) : Prop :=
  bridge.counters.created = bridge.counters.destroyed + bridge.table.size

namespace Bridge

variable [Middleware μ] {bridge : Bridge μ}

omit [Middleware μ] in
theorem Steady.trans {middle after : Bridge μ} (first : bridge.Steady middle)
    (second : middle.Steady after) : bridge.Steady after where
  config := second.config.trans first.config
  pending := second.pending.trans first.pending
  traffic := second.traffic.trans first.traffic

theorem steady_drop (bridge : Bridge μ) (handle : Handle) :
    bridge.Steady (bridge.drop handle) := by
  unfold drop
  cases bridge.table.get? handle with
  | none => exact ⟨rfl, rfl, rfl⟩
  | some entry => exact ⟨rfl, rfl, rfl⟩

theorem steady_dropAll (bridge : Bridge μ) (handles : List Handle) :
    bridge.Steady (bridge.dropAll handles) :=
  dropAll_induction bridge.Steady (fun handle before => before.trans (steady_drop _ handle))
    ⟨rfl, rfl, rfl⟩ handles

theorem Populated.drop (populated : bridge.Populated) (consistent : bridge.table.Consistent)
    (handle : Handle) : (bridge.drop handle).Populated := by
  cases found : bridge.table.get? handle with
  | none =>
      simp only [Bridge.drop, found]
      exact populated
  | some entry =>
      have removed : bridge.table.entries.length =
          (Dict.erase bridge.table.entries handle).length + 1 := by
        simpa using Dict.countP_erase consistent.keys found fun _ => true
      simp only [Populated, Bridge.drop, found, count, Table.size, Table.remove] at populated ⊢
      omega

theorem Populated.dropAll (populated : bridge.Populated) (consistent : bridge.table.Consistent)
    (handles : List Handle) : (bridge.dropAll handles).Populated := by
  refine (dropAll_induction (fun after => after.Populated ∧ after.table.Consistent)
    (fun handle before => ?_) ⟨populated, consistent⟩ handles).1
  exact ⟨before.1.drop before.2 handle, consistent_drop before.2 handle⟩

/-- Every operation keeps the number of proxies right. -/
theorem Populated.perform (populated : bridge.Populated) (consistent : bridge.table.Consistent)
    (operation : Operation) : (bridge.perform operation).Populated := by
  have opened {handle : Handle} {allocator : Allocator}
      (allocated : bridge.table.allocator.allocate? = some (handle, allocator)) (middleware : μ)
      (proxy : Proxy) (targets : Dict SubscriptionId Target) :
      (bridge.opened handle allocator middleware proxy targets).Populated := by
    have longer := Dict.insert_of_get?_eq_none
      (⟨bridge.table.nextGeneration, proxy⟩ : Entry) (consistent.get?_eq_none allocated)
    simp only [Populated, Bridge.opened, Table.size, longer, List.length_append,
      List.length_singleton] at populated ⊢
    omega
  have sent (middleware : μ) (published : Nat) :
      Populated { bridge with middleware, counters := { bridge.counters with published } } :=
    populated
  cases operation with
  | createPublisher owner topic typeName options =>
      rcases bridge.createPublisher_cases owner topic typeName options with
        ⟨e, after, equal, refuses⟩ | ⟨_, _, _, _, _, _, allocated, _, equal⟩
      · simp only [Bridge.perform, equal]
        rcases refuses with rfl | ⟨_, _, _, rfl⟩ <;> exact populated
      · simp only [Bridge.perform, equal]
        exact opened allocated _ _ _
  | createSubscriber hasEntryPoint topic typeName callback options =>
      rcases bridge.createSubscriber_cases hasEntryPoint topic typeName callback options with
        ⟨e, after, equal, refuses⟩ | ⟨_, _, _, _, _, _, _, allocated, _, equal⟩
      · simp only [Bridge.perform, equal]
        rcases refuses with rfl | ⟨_, _, _, rfl⟩ <;> exact populated
      · simp only [Bridge.perform, equal]
        exact opened allocated _ _ _
  | destroy handle =>
      simp only [Bridge.perform, destroy_snd]
      exact populated.dropAll consistent _
  | destroyKind handle kind =>
      obtain ⟨handles, equal⟩ := bridge.destroyKind_snd handle kind
      simp only [Bridge.perform, equal]
      exact populated.dropAll consistent handles
  | destroyOwnedBy script => exact populated.dropAll consistent _
  | clear => exact populated.dropAll consistent _
  | shutdown => exact populated.dropAll consistent _
  | unload => exact populated.dropAll consistent _
  | publish handle payload =>
      rcases bridge.publish_cases handle payload with ⟨e, equal⟩ | ⟨publisher, _, equal⟩
      · simp only [Bridge.perform, equal]
        exact populated
      · simp only [Bridge.perform, equal]
        exact populated
  | publishValue handle value =>
      rcases bridge.publishValue_cases handle value with ⟨e, equal⟩ | ⟨publisher, _, _, _, equal⟩
      · simp only [Bridge.perform, equal]
        exact populated
      · simp only [Bridge.perform, equal]
        exact populated

/-- An operation that drops nothing from the queue leaves deliveries and calls
alone. -/
theorem steady_perform (bridge : Bridge μ) {operation : Operation}
    (keeps : operation.flushes = false) : bridge.Steady (bridge.perform operation) := by
  cases operation with
  | createPublisher owner topic typeName options =>
      rcases bridge.createPublisher_cases owner topic typeName options with
        ⟨e, after, equal, refuses⟩ | ⟨_, _, _, _, _, _, _, _, equal⟩
      · simp only [perform, equal]
        rcases refuses with rfl | ⟨_, _, _, rfl⟩ <;> exact ⟨rfl, rfl, rfl⟩
      · simp only [perform, equal]
        exact ⟨rfl, rfl, rfl⟩
  | createSubscriber hasEntryPoint topic typeName callback options =>
      rcases bridge.createSubscriber_cases hasEntryPoint topic typeName callback options with
        ⟨e, after, equal, refuses⟩ | ⟨_, _, _, _, _, _, _, _, _, equal⟩
      · simp only [perform, equal]
        rcases refuses with rfl | ⟨_, _, _, rfl⟩ <;> exact ⟨rfl, rfl, rfl⟩
      · simp only [perform, equal]
        exact ⟨rfl, rfl, rfl⟩
  | destroy handle =>
      simp only [perform, destroy_snd]
      exact bridge.steady_dropAll [handle]
  | destroyKind handle kind =>
      obtain ⟨handles, equal⟩ := bridge.destroyKind_snd handle kind
      simp only [perform, equal]
      exact bridge.steady_dropAll handles
  | destroyOwnedBy script => exact bridge.steady_dropAll _
  | clear => exact bridge.steady_dropAll _
  | shutdown => cases keeps
  | unload => cases keeps
  | publish handle payload =>
      rcases bridge.publish_cases handle payload with ⟨e, equal⟩ | ⟨publisher, _, equal⟩
      · simp only [perform, equal]
        exact ⟨rfl, rfl, rfl⟩
      · simp only [perform, equal]
        exact ⟨rfl, rfl, rfl⟩
  | publishValue handle value =>
      rcases bridge.publishValue_cases handle value with ⟨e, equal⟩ | ⟨publisher, _, _, _, equal⟩
      · simp only [perform, equal]
        exact ⟨rfl, rfl, rfl⟩
      · simp only [perform, equal]
        exact ⟨rfl, rfl, rfl⟩

/-- A shutdown discards everything that is queued. -/
theorem flush_perform (bridge : Bridge μ) {operation : Operation}
    (flushes : operation.flushes = true) :
    (bridge.perform operation).config = bridge.config ∧
      (bridge.perform operation).pending = .empty ∧
      (bridge.perform operation).counters.traffic = { bridge.counters.traffic with
        discardedStale := bridge.counters.discardedStale + bridge.pending.size } := by
  obtain ⟨config, pending, traffic⟩ := bridge.steady_dropAll bridge.handles
  have discarded : (bridge.dropAll bridge.handles).flush.counters.traffic =
      { bridge.counters.traffic with
        discardedStale := bridge.counters.discardedStale + bridge.pending.size } := by
    have stale : (bridge.dropAll bridge.handles).counters.discardedStale =
        bridge.counters.discardedStale := by
      simp only [Counters.traffic, Counters.mk.injEq] at traffic
      obtain ⟨_, _, _, _, _, _, stale, _⟩ := traffic
      exact stale
    rw [← traffic, ← stale, ← pending]
    rfl
  cases operation with
  | shutdown => exact ⟨config, rfl, discarded⟩
  | unload => exact ⟨config, rfl, discarded⟩
  | _ => cases flushes

end Bridge

/-! ## The state of the accounts -/

namespace World

/-- How many callbacks are running. -/
def running (world : World μ) : Nat :=
  world.drains.countP fun drain => drain.running.isSome

/-- The accounts of a world are in balance. -/
structure Balanced (config : BridgeConfig) (world : World μ) : Prop where
  configured : world.bridge.config = config
  delivered : world.bridge.counters.delivered =
    world.bridge.counters.decodeFailures + world.bridge.counters.droppedUnknown +
      world.bridge.counters.droppedQueueFull + world.bridge.counters.enqueued
  enqueued : world.bridge.counters.enqueued =
    world.bridge.counters.invoked + world.bridge.counters.invokeFailures +
      world.bridge.counters.discardedStale + world.bridge.pending.size + world.running
  room : world.bridge.pending.size ≤ config.queueCapacity

variable {config : BridgeConfig} {world after : World μ}

/-- The balance depends on the deliveries and calls alone. -/
theorem Balanced.of_steady (balanced : world.Balanced config)
    (steady : world.bridge.Steady after.bridge) (running : after.running = world.running) :
    after.Balanced config := by
  obtain ⟨sameConfig, samePending, traffic⟩ := steady
  simp only [Counters.traffic, Counters.mk.injEq] at traffic
  obtain ⟨_, _, _, delivered, enqueued, invoked, stale, unknown, full, failures, failed⟩ := traffic
  refine ⟨sameConfig.trans balanced.configured, ?_, ?_, ?_⟩
  · rw [delivered, failures, unknown, full, enqueued]
    exact balanced.delivered
  · rw [enqueued, invoked, failed, stale, samePending, running]
    exact balanced.enqueued
  · rw [samePending]
    exact balanced.room

theorem Balanced.flush (balanced : world.Balanced config) [Middleware μ] {operation : Operation}
    (flushes : operation.flushes = true) :
    Balanced config { world with bridge := world.bridge.perform operation } := by
  obtain ⟨sameConfig, empty, traffic⟩ := world.bridge.flush_perform flushes
  simp only [Counters.traffic, Counters.mk.injEq] at traffic
  obtain ⟨_, _, _, delivered, enqueued, invoked, stale, unknown, full, failures, failed⟩ := traffic
  have before := balanced.enqueued
  refine ⟨sameConfig.trans balanced.configured, ?_, ?_, ?_⟩
  · dsimp only
    rw [delivered, failures, unknown, full, enqueued]
    exact balanced.delivered
  · dsimp only
    rw [enqueued, invoked, failed, stale, empty]
    change _ = _ + 0 + world.running
    omega
  · dsimp only
    rw [empty]
    exact Nat.zero_le _

/-- A delivery is dropped or queued. -/
theorem Balanced.deliver (balanced : world.Balanced config) (subscription : SubscriptionId)
    (payload : Bytes) :
    Balanced config { world with bridge := world.bridge.deliver subscription payload } := by
  have delivered := balanced.delivered
  have enqueued := balanced.enqueued
  have outcome := world.bridge.delivery subscription payload
  generalize world.bridge.deliver subscription payload = after at outcome ⊢
  cases outcome with
  | ignored unheard => exact balanced
  | unreadable loaded found failed =>
      exact ⟨balanced.configured, by dsimp only; omega, enqueued, balanced.room⟩
  | gone loaded found decoded absent =>
      exact ⟨balanced.configured, by dsimp only; omega, enqueued, balanced.room⟩
  | full offer space =>
      exact ⟨balanced.configured, by dsimp only; omega, enqueued, balanced.room⟩
  | queued offer space =>
      have below : world.bridge.pending.size < config.queueCapacity := by
        rw [← balanced.configured]
        simpa [Bridge.hasSpace] using space
      refine ⟨balanced.configured, by dsimp only; omega, ?_, ?_⟩
      · change _ + 1 = _ + (world.bridge.pending.size + 1) + world.running
        dsimp only
        omega
      · exact below

/-- What is taken off the queue is stale, or its callback is called. -/
theorem Balanced.takeNext {budget : Nat} {report : DrainReport} {outer : List Drain}
    (balanced : world.Balanced config)
    (idle : world.drains = ⟨budget + 1, report, none⟩ :: outer) :
    (takeNext world.bridge budget report outer).Balanced config := by
  have delivered := balanced.delivered
  have enqueued := balanced.enqueued
  have room := balanced.room
  have size {invocation : Invocation} {rest : Queue Invocation}
      (popped : world.bridge.pending.pop? = some (invocation, rest)) :
      world.bridge.pending.size = rest.size + 1 := by
    rw [Queue.size_eq_length_toList, Queue.size_eq_length_toList, Queue.toList_of_pop? popped]
    rfl
  have before : world.running = outer.countP fun drain => drain.running.isSome := by
    rw [running, idle]
    rfl
  have found := world.bridge.taking
  unfold World.takeNext Bridge.takeNext
  generalize world.bridge.takePending = taken at found ⊢
  cases found with
  | nothing empty =>
      have after : running ⟨world.bridge, ⟨0, report, none⟩ :: outer⟩ = world.running := before.symm
      exact balanced.of_steady ⟨rfl, rfl, rfl⟩ after
  | @stale invocation rest popped gone =>
      have shorter := size popped
      refine ⟨balanced.configured, delivered, ?_, ?_⟩
      · simp only [running, List.countP_cons, Option.isSome_none, Bool.false_eq_true, if_false]
        omega
      · dsimp only
        omega
  | @due invocation rest popped live =>
      have shorter := size popped
      refine ⟨balanced.configured, delivered, ?_, ?_⟩
      · simp only [running, List.countP_cons, Option.isSome_some, if_true]
        omega
      · dsimp only
        omega

/-- A call that returns was a success or a failure. -/
theorem Balanced.finish {budget : Nat} {report : DrainReport} {invocation : Invocation}
    {outer : List Drain} (balanced : world.Balanced config)
    (busy : world.drains = ⟨budget, report, some invocation⟩ :: outer)
    (outcome : Except String Unit) :
    Balanced config ⟨world.bridge.finish invocation outcome,
      ⟨budget, report.finish outcome, none⟩ :: outer⟩ := by
  have enqueued := balanced.enqueued
  have before : world.running = (outer.countP fun drain => drain.running.isSome) + 1 := by
    simp [running, busy]
  cases outcome with
  | ok =>
      refine ⟨balanced.configured, balanced.delivered, ?_, balanced.room⟩
      simp only [running, List.countP_cons, Option.isSome_none, Bool.false_eq_true, if_false,
        Bridge.finish, Bridge.count]
      omega
  | error reason =>
      refine ⟨balanced.configured, balanced.delivered, ?_, balanced.room⟩
      simp only [running, List.countP_cons, Option.isSome_none, Bool.false_eq_true, if_false,
        Bridge.finish, Bridge.count, Bridge.report]
      omega

/-- Every event keeps the accounts in balance. -/
theorem Balanced.step [Middleware μ] {event : Event μ} (balanced : world.Balanced config)
    (stepped : world.step event = some after) : after.Balanced config := by
  cases event with
  | operation operation =>
      obtain ⟨_, rfl⟩ := step_operation stepped
      cases flushes : operation.flushes with
      | false => exact balanced.of_steady (world.bridge.steady_perform flushes) rfl
      | true => exact balanced.flush flushes
  | deliver subscription payload =>
      cases stepped
      exact balanced.deliver subscription payload
  | layer middleware =>
      cases stepped
      exact balanced.of_steady ⟨rfl, rfl, rfl⟩ rfl
  | beginDrain =>
      obtain ⟨_, rfl⟩ := step_beginDrain stepped
      exact balanced.of_steady ⟨rfl, rfl, rfl⟩ rfl
  | take =>
      obtain ⟨budget, report, outer, idle, rfl⟩ := step_take stepped
      exact balanced.takeNext idle
  | finish outcome =>
      obtain ⟨budget, report, invocation, outer, busy, rfl⟩ := step_finish stepped
      exact balanced.finish busy outcome
  | endDrain =>
      obtain ⟨report, outer, spent, rfl⟩ := step_endDrain stepped
      have same : running { world with drains := outer } = world.running := by
        rw [running, running, spent]
        rfl
      exact balanced.of_steady ⟨rfl, rfl, rfl⟩ same

end World

/-- In every run of a bridge the accounts of deliveries are in balance. -/
theorem Run.balanced [Middleware μ] {types : Catalog} {config : BridgeConfig} {middleware : μ}
    {past : List (Moment μ)} {world : World μ}
    (run : Run (World.fresh types config middleware) past world) : world.Balanced config := by
  induction run with
  | start => exact ⟨rfl, rfl, rfl, Nat.zero_le _⟩
  | next _ stepped balanced => exact balanced.step stepped

/-- An event that is no operation leaves the proxies alone, and what is counted of
them. -/
theorem World.step_other [Middleware μ] {world after : World μ} {event : Event μ}
    (other : ∀ operation, event ≠ .operation operation) (stepped : world.step event = some after) :
    ∃ middleware pending counters reports,
      after.bridge = { world.bridge with middleware, pending, counters, reports } ∧
      counters.created = world.bridge.counters.created ∧
      counters.destroyed = world.bridge.counters.destroyed ∧
      counters.published = world.bridge.counters.published := by
  cases event with
  | operation operation => exact absurd rfl (other operation)
  | deliver subscription payload =>
      cases stepped
      have outcome := world.bridge.delivery subscription payload
      dsimp only
      generalize world.bridge.deliver subscription payload = after at outcome ⊢
      cases outcome <;> exact ⟨_, _, _, _, rfl, rfl, rfl, rfl⟩
  | layer middleware =>
      cases stepped
      exact ⟨_, _, _, _, rfl, rfl, rfl, rfl⟩
  | beginDrain =>
      obtain ⟨_, rfl⟩ := step_beginDrain stepped
      exact ⟨_, _, _, _, rfl, rfl, rfl, rfl⟩
  | take =>
      obtain ⟨budget, report, outer, _, rfl⟩ := step_take stepped
      have found := world.bridge.taking
      unfold World.takeNext Bridge.takeNext
      generalize world.bridge.takePending = taken at found ⊢
      cases found <;> exact ⟨_, _, _, _, rfl, rfl, rfl, rfl⟩
  | finish outcome =>
      obtain ⟨_, _, invocation, _, _, rfl⟩ := step_finish stepped
      cases outcome <;> exact ⟨_, _, _, _, rfl, rfl, rfl, rfl⟩
  | endDrain =>
      obtain ⟨_, _, _, rfl⟩ := step_endDrain stepped
      exact ⟨_, _, _, _, rfl, rfl, rfl, rfl⟩

/-- Every event keeps the number of proxies right. -/
theorem World.populated_step [Middleware μ] {world after : World μ} {event : Event μ}
    (populated : world.bridge.Populated) (consistent : world.bridge.table.Consistent)
    (stepped : world.step event = some after) : after.bridge.Populated := by
  rcases step_table stepped with ⟨operation, _, same⟩ | ⟨other, _, _⟩
  · rw [same]
    exact populated.perform consistent operation
  · obtain ⟨_, _, counters, _, same, created, destroyed, _⟩ := step_other other stepped
    rw [Bridge.Populated, same]
    dsimp only
    rw [created, destroyed]
    exact populated

/-! ## The reports of the drains -/

/-- The report of the drain that the event ends. -/
def Moment.report? (moment : Moment μ) : Option DrainReport :=
  match moment.event with
  | .endDrain => moment.world.drains.head?.map Drain.report
  | _ => none

/-- The reports of the drains that have ended, followed by what those in
progress have to report so far. -/
def reportsOf (past : List (Moment μ)) (world : World μ) : List DrainReport :=
  past.filterMap Moment.report? ++ world.drains.map Drain.report

/-- How many invocations shutdowns have dropped. -/
def flushedOf (past : List (Moment μ)) : Nat :=
  (past.flatMap Moment.departed).countP fun departure => departure.2 = .flushed

/-- What several drains report together. -/
def DrainReport.sum : List DrainReport → DrainReport
  | [] => {}
  | report :: rest =>
      { invoked := report.invoked + (sum rest).invoked
        discarded := report.discarded + (sum rest).discarded
        failed := report.failed + (sum rest).failed }

theorem DrainReport.sum_append (reports others : List DrainReport) :
    sum (reports ++ others) =
      { invoked := (sum reports).invoked + (sum others).invoked
        discarded := (sum reports).discarded + (sum others).discarded
        failed := (sum reports).failed + (sum others).failed } := by
  induction reports with
  | nil => simp [sum]
  | cons report rest ih => simp [sum, ih, Nat.add_assoc]

/-- The reports add up to the counters. -/
structure Tallied (reports : List DrainReport) (flushed : Nat) (counters : Counters) : Prop where
  invoked : (DrainReport.sum reports).invoked = counters.invoked
  failed : (DrainReport.sum reports).failed = counters.invokeFailures
  discarded : (DrainReport.sum reports).discarded + flushed = counters.discardedStale

namespace Tallied

variable {earlier outer : List DrainReport} {report : DrainReport} {flushed : Nat}
  {reports : List DrainReport} {counters counters' : Counters}

/-- Only the counters of calls and of what was discarded matter. -/
theorem of_eq (tallied : Tallied reports flushed counters)
    (invoked : counters'.invoked = counters.invoked)
    (failed : counters'.invokeFailures = counters.invokeFailures)
    (discarded : counters'.discardedStale = counters.discardedStale) :
    Tallied reports flushed counters' where
  invoked := tallied.invoked.trans invoked.symm
  failed := tallied.failed.trans failed.symm
  discarded := tallied.discarded.trans discarded.symm

theorem of_traffic (tallied : Tallied reports flushed counters)
    (traffic : counters'.traffic = counters.traffic) : Tallied reports flushed counters' := by
  simp only [Counters.traffic, Counters.mk.injEq] at traffic
  obtain ⟨_, _, _, _, _, invoked, stale, _, _, _, failed⟩ := traffic
  exact tallied.of_eq invoked failed stale

/-- A drain that begins has nothing to report. -/
theorem begin (tallied : Tallied (earlier ++ outer) flushed counters) :
    Tallied (earlier ++ {} :: outer) flushed counters := by
  obtain ⟨invoked, failed, discarded⟩ := tallied
  simp only [DrainReport.sum_append] at invoked failed discarded
  constructor
  · simp [DrainReport.sum_append, DrainReport.sum, invoked]
  · simp [DrainReport.sum_append, DrainReport.sum, failed]
  · simp [DrainReport.sum_append, DrainReport.sum, discarded]

/-- A drain that discards an invocation reports one more. -/
theorem discard (tallied : Tallied (earlier ++ report :: outer) flushed counters) :
    Tallied (earlier ++ { report with discarded := report.discarded + 1 } :: outer) flushed
      { counters with discardedStale := counters.discardedStale + 1 } := by
  obtain ⟨invoked, failed, discarded⟩ := tallied
  simp only [DrainReport.sum_append, DrainReport.sum] at invoked failed discarded
  constructor
  · simpa only [DrainReport.sum_append, DrainReport.sum] using invoked
  · simpa only [DrainReport.sum_append, DrainReport.sum] using failed
  · simp only [DrainReport.sum_append, DrainReport.sum]
    omega

/-- A drain whose call returns reports one more. -/
theorem finish (tallied : Tallied (earlier ++ report :: outer) flushed counters)
    (bridge : Bridge μ) (same : bridge.counters = counters) (invocation : Invocation)
    (outcome : Except String Unit) :
    Tallied (earlier ++ report.finish outcome :: outer) flushed
      (bridge.finish invocation outcome).counters := by
  subst same
  obtain ⟨invoked, failed, discarded⟩ := tallied
  simp only [DrainReport.sum_append, DrainReport.sum] at invoked failed discarded
  cases outcome with
  | ok done =>
      constructor <;> simp only [DrainReport.sum_append, DrainReport.sum, DrainReport.finish,
        Bridge.finish, Bridge.count]
      · omega
      · exact failed
      · exact discarded
  | error reason =>
      constructor <;> simp only [DrainReport.sum_append, DrainReport.sum, DrainReport.finish,
        Bridge.finish, Bridge.count, Bridge.report]
      · exact invoked
      · omega
      · exact discarded

end Tallied

theorem reports_snoc (past : List (Moment μ)) (moment : Moment μ) :
    (past ++ [moment]).filterMap Moment.report? =
      past.filterMap Moment.report? ++ moment.report?.toList := by
  rw [List.filterMap_append]
  cases report : moment.report? <;> simp [report]

theorem flushedOf_append (past later : List (Moment μ)) :
    flushedOf (past ++ later) = flushedOf past + flushedOf later := by
  simp [flushedOf]

/-- Only a shutdown flushes. -/
theorem flushedOf_single (moment : Moment μ) :
    flushedOf [moment] =
      match moment.event with
      | .operation operation => if operation.flushes then moment.world.bridge.pending.size else 0
      | _ => 0 := by
  obtain ⟨world, event⟩ := moment
  cases event with
  | operation operation =>
      cases flushes : operation.flushes with
      | false => simp [flushedOf, Moment.departed, flushes]
      | true =>
          simp [flushedOf, Moment.departed, flushes, Queue.size_eq_length_toList,
            List.countP_map, Function.comp_def]
  | take =>
      simp only [flushedOf, Moment.departed, List.flatMap_cons, List.flatMap_nil, List.append_nil]
      cases world.bridge.pending.pop? with
      | none => rfl
      | some taken =>
          cases live : world.bridge.isLive taken.1 <;> simp [live]
  | _ => rfl

theorem World.tallied_step [Middleware μ] {past : List (Moment μ)} {world after : World μ}
    {event : Event μ}
    (tallied : Tallied (reportsOf past world) (flushedOf past) world.bridge.counters)
    (stepped : world.step event = some after) :
    Tallied (reportsOf (past ++ [⟨world, event⟩]) after) (flushedOf (past ++ [⟨world, event⟩]))
      after.bridge.counters := by
  unfold reportsOf at tallied ⊢
  rw [reports_snoc, flushedOf_append, flushedOf_single]
  cases event with
  | operation operation =>
      obtain ⟨_, rfl⟩ := step_operation stepped
      cases flushes : operation.flushes with
      | false =>
          simpa [Moment.report?, flushes] using
            tallied.of_traffic (world.bridge.steady_perform flushes).traffic
      | true =>
          obtain ⟨_, _, traffic⟩ := world.bridge.flush_perform flushes
          simp only [Counters.traffic, Counters.mk.injEq] at traffic
          obtain ⟨_, _, _, _, _, invoked, stale, _, _, _, failed⟩ := traffic
          obtain ⟨wasInvoked, wasFailed, wasDiscarded⟩ := tallied
          constructor
          · simpa [Moment.report?, invoked] using wasInvoked
          · simpa [Moment.report?, failed] using wasFailed
          · simp only [flushes, if_true, stale, ← wasDiscarded, Nat.add_assoc]
            simp [Moment.report?]
  | deliver subscription payload =>
      cases stepped
      have same : ∀ {after : Bridge μ}, world.bridge.Delivery subscription payload after →
          Tallied (past.filterMap Moment.report? ++ world.drains.map Drain.report)
            (flushedOf past) after.counters := by
        intro after outcome
        cases outcome <;> exact tallied.of_eq rfl rfl rfl
      simpa [Moment.report?] using same (world.bridge.delivery subscription payload)
  | layer middleware =>
      cases stepped
      simpa [Moment.report?] using tallied
  | beginDrain =>
      obtain ⟨_, rfl⟩ := step_beginDrain stepped
      simpa [Moment.report?] using tallied.begin
  | take =>
      obtain ⟨budget, report, outer, idle, rfl⟩ := step_take stepped
      rw [idle, List.map_cons] at tallied
      have found := world.bridge.taking
      unfold World.takeNext Bridge.takeNext
      generalize world.bridge.takePending = taken at found ⊢
      cases found with
      | nothing empty => simpa [Moment.report?] using tallied
      | stale popped gone => simpa [Moment.report?] using tallied.discard
      | due popped live => simpa [Moment.report?] using tallied
  | finish outcome =>
      obtain ⟨budget, report, invocation, outer, busy, rfl⟩ := step_finish stepped
      rw [busy, List.map_cons] at tallied
      simpa [Moment.report?] using tallied.finish world.bridge rfl invocation outcome
  | endDrain =>
      obtain ⟨report, outer, spent, rfl⟩ := step_endDrain stepped
      rw [spent, List.map_cons] at tallied
      simpa [Moment.report?, spent] using tallied

/-! ## Runs -/

/-- Everything that came in and every proxy is accounted for. -/
structure Accounted (config : BridgeConfig) (past : List (Moment μ)) (world : World μ) : Prop where
  /-- What was received was dropped or queued. -/
  delivered : world.bridge.stats.delivered =
    world.bridge.stats.decodeFailures + world.bridge.stats.droppedUnknown +
      world.bridge.stats.droppedQueueFull + world.bridge.stats.enqueued
  /-- What was queued was called or discarded, or is queued, or its call has not
  returned yet. -/
  enqueued : world.bridge.stats.enqueued =
    world.bridge.stats.invoked + world.bridge.stats.invokeFailures +
      world.bridge.stats.discardedStale + world.bridge.pending.size + world.running
  destroyed : world.bridge.stats.destroyed ≤ world.bridge.stats.created
  live : world.bridge.stats.created - world.bridge.stats.destroyed =
    world.bridge.stats.publishers + world.bridge.stats.subscribers
  size : world.bridge.stats.publishers + world.bridge.stats.subscribers = world.bridge.size
  room : world.bridge.pending.size ≤ max 1 config.pendingCapacity
  /-- While no drain is in progress, nothing is in between. -/
  settled : world.drains = [] → world.bridge.stats.delivered =
    world.bridge.stats.dropped + world.bridge.stats.invoked +
      world.bridge.stats.invokeFailures + world.bridge.pending.size
  /-- The drains report what the counters say. -/
  tallied : Tallied (reportsOf past world) (flushedOf past) world.bridge.counters

/-- In every run of a bridge the accounts are in balance. -/
theorem deliveries_accounted [Middleware μ] {types : Catalog} {config : BridgeConfig}
    {middleware : μ} {past : List (Moment μ)} {world : World μ}
    (run : Run (World.fresh types config middleware) past world) :
    Accounted config past world := by
  have whole : world.Balanced config ∧ Bridge.Populated world.bridge ∧
      Tallied (reportsOf past world) (flushedOf past) world.bridge.counters := by
    induction run with
    | start => exact ⟨⟨rfl, rfl, rfl, Nat.zero_le _⟩, rfl, ⟨rfl, rfl, rfl⟩⟩
    | @next past world after event run stepped ih =>
        obtain ⟨balanced, populated, tallied⟩ := ih
        have consistent := run.consistent_mirrors.1
        exact ⟨balanced.step stepped, World.populated_step populated consistent stepped,
          world.tallied_step tallied stepped⟩
  obtain ⟨balanced, populated, tallied⟩ := whole
  have delivered := balanced.delivered
  have enqueued := balanced.enqueued
  have counted := world.bridge.table.size_eq_count
  refine ⟨delivered, enqueued, ?_, ?_, counted.symm, ?_, ?_, tallied⟩
  · exact populated ▸ Nat.le_add_right _ _
  · change world.bridge.counters.created - world.bridge.counters.destroyed =
      world.bridge.table.count .publisher + world.bridge.table.count .subscriber
    rw [← counted, populated, Nat.add_sub_cancel_left]
  · rw [Nat.max_comm]
    exact balanced.room
  · intro idle
    have quiet : world.running = 0 := by
      rw [World.running, idle]
      rfl
    simp only [Bridge.stats, Stats.dropped]
    omega

/-- The queue has room for two.  A callback destroys the other subscriber, runs a
drain of its own, and shuts the bridge down with a message queued, while its own
invocation is already taken and not yet counted. -/
def interrupted : List (Event Recorder) :=
  let opening : Event Recorder :=
    .operation (.createSubscriber (fun _ => true) "/count" "Count" ⟨⟨1⟩, "onCount"⟩ {})
  [opening, opening, .deliver ⟨0⟩ [1], .deliver ⟨1⟩ [2], .deliver ⟨0⟩ [3],
    .beginDrain, .take, .operation (.destroy ⟨1⟩), .beginDrain, .take, .take, .endDrain,
    .deliver ⟨0⟩ [4], .deliver ⟨1⟩ [5], .operation .shutdown, .finish (.error "late"), .take,
    .endDrain]

theorem deliveries_accounted_interrupted :
    ∃ past world,
      Run (World.fresh (({} : Catalog).insertCodec "raw/Count" "Count" (Codec.raw "raw/Count"))
        { pendingCapacity := 2 } ({} : Recorder)) past world ∧
      reportsOf past world =
        [{ discarded := 1 }, { failed := 1 }] ∧
      flushedOf past = 1 ∧
      world.bridge.counters =
        { created := 2, destroyed := 2, delivered := 5, enqueued := 3, discardedStale := 2,
          droppedUnknown := 1, droppedQueueFull := 1, invokeFailures := 1 } ∧
      Accounted { pendingCapacity := 2 } past world := by
  have computed : ((World.fresh (({} : Catalog).insertCodec "raw/Count" "Count"
      (Codec.raw "raw/Count")) { pendingCapacity := 2 } ({} : Recorder)).replay interrupted).map
        (fun replayed => (reportsOf replayed.1 replayed.2, flushedOf replayed.1,
          replayed.2.bridge.counters)) =
      some ([{ discarded := 1 }, { failed := 1 }], 1,
        { created := 2, destroyed := 2, delivered := 5, enqueued := 3, discardedStale := 2,
          droppedUnknown := 1, droppedQueueFull := 1, invokeFailures := 1 }) := by
    decide +kernel
  obtain ⟨⟨past, world⟩, replayed, same⟩ := Option.map_eq_some_iff.mp computed
  simp only [Prod.mk.injEq] at same
  obtain ⟨reports, flushed, counters⟩ := same
  have run := Run.ofReplay replayed
  exact ⟨past, world, run, reports, flushed, counters, deliveries_accounted run⟩

end TopicBridge
