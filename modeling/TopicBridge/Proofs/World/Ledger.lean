import TopicBridge.Proofs.World.Incarnation
import TopicBridge.Proofs.World.Table

/-!
# The live proxies, told from outside

Who sees only the operations on a bridge and their outcomes can keep a ledger:
a successful creation enters what it fixed under its handle, and a removal
strikes it out.  In every run of a bridge the table of live proxies says exactly
what this ledger says, and its handles are exactly those that the allocator has
out.
-/

namespace TopicBridge

variable {μ : Type}

/-- What an operation answers: an error, or nothing but the handle that a
creation opened. -/
def Bridge.outcome [Middleware μ] (bridge : Bridge μ) :
    Operation → Except BridgeError (Option Handle)
  | .createPublisher owner topic typeName options =>
      (bridge.createPublisher owner topic typeName options).1.map some
  | .createSubscriber hasEntryPoint topic typeName callback options =>
      (bridge.createSubscriber hasEntryPoint topic typeName callback options).1.map some
  | .destroy handle => (bridge.destroy handle).1.map fun _ => none
  | .destroyKind handle kind => (bridge.destroyKind handle kind).1.map fun _ => none
  | .publish handle payload => (bridge.publish handle payload).1.map fun _ => none
  | .publishValue handle value => (bridge.publishValue handle value).1.map fun _ => none
  | .destroyOwnedBy _ | .clear | .shutdown | .unload => .ok none

/-- The full name of the type that a name stands for. -/
def Catalog.fullName (types : Catalog) (name : String) : String :=
  match types.lookup name with
  | .ok codec => codec.typeName
  | .error _ => name

/-- Under each handle, what the creation of its live proxy fixed. -/
abbrev Ledger := Handle → Option ProxyInfo

namespace Ledger

/-- Enter a proxy under its handle. -/
def enter (ledger : Ledger) (info : ProxyInfo) : Ledger :=
  fun handle => if info.handle = handle then some info else ledger handle

/-- Strike out the proxy under a handle. -/
def strike (ledger : Ledger) (handle : Handle) : Ledger :=
  fun other => if handle = other then none else ledger other

/-- Take down an operation and its outcome.  One that failed is not taken
down. -/
def record (ledger : Ledger) (types : Catalog) (operation : Operation) :
    Except BridgeError (Option Handle) → Ledger
  | .error _ => ledger
  | .ok opened =>
      match operation, opened with
      | .createPublisher owner topic typeName _, some handle =>
          ledger.enter ⟨handle, .publisher, topic, types.fullName typeName, owner, none⟩
      | .createSubscriber _ topic typeName callback _, some handle =>
          ledger.enter ⟨handle, .subscriber, topic, types.fullName typeName, callback.script,
            some callback⟩
      | .destroy handle, _ => ledger.strike handle
      | .destroyKind handle _, _ => ledger.strike handle
      | .destroyOwnedBy script, _ =>
          fun handle => (ledger handle).filter fun info => info.owner ≠ script
      | .clear, _ => fun _ => none
      | .shutdown, _ => fun _ => none
      | .unload, _ => fun _ => none
      | _, _ => ledger

end Ledger

/-- The ledger after one more moment. -/
def Moment.record [Middleware μ] (ledger : Ledger) (moment : Moment μ) : Ledger :=
  match moment.event with
  | .operation operation =>
      ledger.record moment.world.bridge.types operation (moment.world.bridge.outcome operation)
  | _ => ledger

/-- The ledger of a run that started without proxies. -/
def ledgerOf [Middleware μ] (past : List (Moment μ)) : Ledger :=
  past.foldl Moment.record fun _ => none

/-! ## Assertions -/

/-- The handles of the proxies that an operation removes, in order. -/
def Bridge.removes (bridge : Bridge μ) : Operation → List Handle
  | .destroy handle => if bridge.contains handle then [handle] else []
  | .destroyKind handle kind =>
      match bridge.table.get? handle with
      | some entry => if entry.proxy.kind = kind then [handle] else []
      | none => []
  | .destroyOwnedBy script => bridge.table.select fun proxy => proxy.owner = script
  | .clear | .shutdown | .unload => bridge.handles
  | _ => []

/-- What has to hold whenever an operation gives a handle back or enters a proxy
under one. -/
structure Bridge.Asserts [Middleware μ] (bridge : Bridge μ) (operation : Operation) : Prop where
  /-- A handle that a creation draws can be given back, and has no proxy. -/
  drawn : ∀ {handle generation reserved},
    bridge.table.reserve? = some (handle, generation, reserved) →
      reserved.allocator.IsOut handle ∧ reserved.get? handle = none
  /-- A handle whose proxy is removed can be given back when its turn comes. -/
  removed : ∀ {earlier handle later}, bridge.removes operation = earlier ++ handle :: later →
    (bridge.dropAll earlier).table.allocator.IsOut handle

namespace Bridge

variable [Middleware μ] {bridge : Bridge μ}

/-- An operation that opens nothing leaves a table without what it removes. -/
theorem get?_perform_of_removes (bridge : Bridge μ) {operation : Operation}
    (opensNone : ∀ handle, bridge.outcome operation ≠ .ok (some handle)) (handle : Handle) :
    (bridge.perform operation).table.get? handle =
      if handle ∈ bridge.removes operation then none else bridge.table.get? handle := by
  have unchanged (after : Bridge μ) (refuses : bridge.Refuses after) :
      after.table.get? handle =
        if handle ∈ ([] : List Handle) then none else bridge.table.get? handle := by
    rw [if_neg List.not_mem_nil]
    rcases refuses with rfl | ⟨_, _, _, rfl⟩ <;> rfl
  cases operation with
  | createPublisher owner topic typeName options =>
      rcases bridge.createPublisher_cases owner topic typeName options with
        ⟨e, after, equal, refuses⟩ | ⟨drawn, _, _, _, _, _, _, _, equal⟩
      · simp only [perform, equal, removes]
        exact unchanged after refuses
      · exact absurd (by simp [outcome, equal, Except.map]) (opensNone drawn)
  | createSubscriber hasEntryPoint topic typeName callback options =>
      rcases bridge.createSubscriber_cases hasEntryPoint topic typeName callback options with
        ⟨e, after, equal, refuses⟩ | ⟨drawn, _, _, _, _, _, _, _, _, equal⟩
      · simp only [perform, equal, removes]
        exact unchanged after refuses
      · exact absurd (by simp [outcome, equal, Except.map]) (opensNone drawn)
  | destroy target =>
      cases found : bridge.table.get? target with
      | none => simp [perform, destroy, find, removes, contains, found]
      | some entry => simp [perform, destroy, find, removes, contains, found, eq_comm]
  | destroyKind target kind =>
      cases found : bridge.table.get? target with
      | none => simp [perform, destroyKind, find, removes, found]
      | some entry =>
          by_cases same : entry.proxy.kind = kind <;>
            simp [perform, destroyKind, find, removes, found, same, eq_comm]
  | destroyOwnedBy script => exact bridge.get?_dropAll _ handle
  | clear => exact bridge.get?_dropAll _ handle
  | shutdown => exact bridge.get?_dropAll _ handle
  | unload => exact bridge.get?_dropAll _ handle
  | publish target payload =>
      obtain ⟨_, _, equal⟩ := bridge.publish_snd target payload
      simp [perform, equal, removes]
  | publishValue target value =>
      obtain ⟨_, _, equal⟩ := bridge.publishValue_snd target value
      simp [perform, equal, removes]

omit [Middleware μ] in
/-- What an operation removes is live, and listed once. -/
theorem removes_spec (consistent : bridge.table.Consistent) (operation : Operation) :
    (bridge.removes operation).Nodup ∧
      ∀ handle ∈ bridge.removes operation, (bridge.table.get? handle).isSome = true := by
  have handles : bridge.handles.Nodup ∧
      ∀ handle ∈ bridge.handles, (bridge.table.get? handle).isSome = true := by
    constructor
    · apply consistent.handles_ascending.imp
      rintro one other below rfl
      exact Nat.lt_irrefl _ below
    · exact fun handle member => (bridge.table.mem_handles_iff handle).mp member
  have single (handle : Handle) (live : (bridge.table.get? handle).isSome = true) :
      [handle].Nodup ∧ ∀ other ∈ [handle], (bridge.table.get? other).isSome = true := by
    simp [live]
  have nothing : ([] : List Handle).Nodup ∧
      ∀ other ∈ ([] : List Handle), (bridge.table.get? other).isSome = true := by
    simp
  cases operation with
  | createPublisher | createSubscriber | publish | publishValue => exact nothing
  | destroy handle =>
      cases live : (bridge.table.get? handle).isSome with
      | false => simp [removes, contains, live]
      | true =>
          rw [removes, contains, live]
          exact single handle live
  | destroyKind handle kind =>
      cases found : bridge.table.get? handle with
      | none => simp [removes, found]
      | some entry =>
          by_cases same : entry.proxy.kind = kind
          · simp [removes, found, same]
          · simp [removes, found, same]
  | destroyOwnedBy script =>
      constructor
      · have names : (Dict.keys (bridge.table.entries.filter fun entry =>
            decide (entry.2.proxy.owner = script))).Nodup :=
          consistent.keys.sublist (List.filter_sublist.map Prod.fst)
        exact (List.mergeSort_perm _ _).nodup_iff.mpr names
      · intro handle member
        obtain ⟨entry, found, _⟩ :=
          (consistent.mem_select_iff (fun proxy => proxy.owner = script) handle).mp member
        simp [found]
  | clear => exact handles
  | shutdown => exact handles
  | unload => exact handles

/-- No assertion fails on a consistent table. -/
theorem asserts_of_consistent (consistent : bridge.table.Consistent) (operation : Operation) :
    bridge.Asserts operation where
  drawn := by
    intro handle generation reserved drawn
    obtain ⟨allocator, allocated, rfl, rfl⟩ := Table.reserve?_eq_some_iff.mp drawn
    obtain ⟨_, _, out⟩ := consistent.allocator.allocate allocated
    exact ⟨(out handle).mpr (Or.inl rfl), consistent.get?_eq_none allocated⟩
  removed := by
    intro earlier handle later split
    obtain ⟨nodup, live⟩ := removes_spec consistent operation
    rw [split] at nodup live
    have notYet : handle ∉ earlier := by
      intro member
      have apart := (List.nodup_append.mp nodup).2.2
      exact apart handle member handle List.mem_cons_self rfl
    rw [(consistent_dropAll consistent earlier).out, get?_dropAll, if_neg notYet]
    exact live handle (List.mem_append_right _ List.mem_cons_self)

/-! ## The ledger of an operation -/

/-- The ledger says what is in the table. -/
def Mirrors (bridge : Bridge μ) (ledger : Ledger) : Prop :=
  ∀ handle, (bridge.table.get? handle).map (fun entry => entry.proxy.info handle) = ledger handle

omit [Middleware μ] in
theorem Mirrors.opened {ledger : Ledger} (mirrors : bridge.Mirrors ledger) (handle : Handle)
    (allocator : Allocator) (middleware : μ) (proxy : Proxy)
    (targets : Dict SubscriptionId Target) :
    (bridge.opened handle allocator middleware proxy targets).Mirrors
      (ledger.enter (proxy.info handle)) := by
  intro other
  rw [get?_opened]
  unfold Ledger.enter
  by_cases same : handle = other
  · subst same
    simp [Proxy.info]
  · have apart : (proxy.info handle).handle ≠ other := same
    rw [if_neg same, if_neg apart]
    exact mirrors other

/-- Taking down an operation with its outcome keeps the ledger true. -/
theorem Mirrors.perform {ledger : Ledger} (consistent : bridge.table.Consistent)
    (mirrors : bridge.Mirrors ledger) (operation : Operation) :
    (bridge.perform operation).Mirrors
      (ledger.record bridge.types operation (bridge.outcome operation)) := by
  have removed (opensNone : ∀ handle, bridge.outcome operation ≠ .ok (some handle))
      {after : Ledger} (struck : ∀ handle, after handle =
        if handle ∈ bridge.removes operation then none else ledger handle) :
      (bridge.perform operation).Mirrors after := by
    intro handle
    rw [get?_perform_of_removes bridge opensNone, struck, ← mirrors handle]
    split <;> rfl
  have everything {after : Bridge μ} (same : after.table = bridge.clear.2.table) :
      after.Mirrors fun _ => none := by
    intro handle
    rw [same, clear, get?_dropAll_handles]
    rfl
  cases operation with
  | createPublisher owner topic typeName options =>
      rcases bridge.createPublisher_cases owner topic typeName options with
        ⟨e, after, equal, _⟩ |
        ⟨handle, allocator, codec, publication, middleware, known, _, _, equal⟩
      · have failed : bridge.outcome (.createPublisher owner topic typeName options) =
            .error e := by
          simp [outcome, equal, Except.map]
        apply removed
        · simp [failed]
        · simp [failed, Ledger.record, removes]
      · simp only [outcome, Bridge.perform, equal, Except.map, Ledger.record, Catalog.fullName,
          known]
        exact mirrors.opened handle allocator middleware
          (.publisher ⟨topic, codec.typeName, owner, codec, publication⟩) bridge.targets
  | createSubscriber hasEntryPoint topic typeName callback options =>
      rcases bridge.createSubscriber_cases hasEntryPoint topic typeName callback options with
        ⟨e, after, equal, _⟩ |
        ⟨handle, allocator, codec, subscription, middleware, known, _, _, _, equal⟩
      · have failed : bridge.outcome
            (.createSubscriber hasEntryPoint topic typeName callback options) = .error e := by
          simp [outcome, equal, Except.map]
        apply removed
        · simp [failed]
        · simp [failed, Ledger.record, removes]
      · simp only [outcome, Bridge.perform, equal, Except.map, Ledger.record, Catalog.fullName,
          known]
        exact mirrors.opened handle allocator middleware
          (.subscriber ⟨topic, codec.typeName, callback, subscription⟩) _
  | destroy target =>
      apply removed
      · cases found : bridge.table.get? target <;>
          simp [outcome, destroy, find, found, Except.map]
      · intro handle
        cases found : bridge.table.get? target <;>
          simp [outcome, destroy, find, found, Except.map, Ledger.record, removes, contains,
            Ledger.strike, eq_comm]
  | destroyKind target kind =>
      apply removed
      · cases found : bridge.table.get? target with
        | none => simp [outcome, destroyKind, find, found, Except.map]
        | some entry =>
            by_cases same : entry.proxy.kind = kind <;>
              simp [outcome, destroyKind, find, found, same, Except.map]
      · intro handle
        cases found : bridge.table.get? target with
        | none => simp [outcome, destroyKind, find, found, Except.map, Ledger.record, removes]
        | some entry =>
            by_cases same : entry.proxy.kind = kind <;>
              simp [outcome, destroyKind, find, found, same, Except.map, Ledger.record, removes,
                Ledger.strike, eq_comm]
  | destroyOwnedBy script =>
      apply removed
      · simp [outcome]
      · intro handle
        simp only [outcome, Ledger.record, removes, consistent.mem_select_iff, ← mirrors handle]
        cases found : bridge.table.get? handle with
        | none => simp
        | some entry =>
            by_cases same : entry.proxy.owner = script <;> simp [same, Proxy.info, Option.filter]
  | clear => exact everything rfl
  | shutdown => exact everything rfl
  | unload => exact everything rfl
  | publish target payload =>
      apply removed
      · cases answer : (bridge.publish target payload).1 <;> simp [outcome, answer, Except.map]
      · cases answer : (bridge.publish target payload).1 <;>
          simp [outcome, answer, Except.map, Ledger.record, removes]
  | publishValue target value =>
      apply removed
      · cases answer : (bridge.publishValue target value).1 <;> simp [outcome, answer, Except.map]
      · cases answer : (bridge.publishValue target value).1 <;>
          simp [outcome, answer, Except.map, Ledger.record, removes]

end Bridge

/-! ## Runs -/

section Runs

variable [Middleware μ] {past : List (Moment μ)} {world after : World μ} {event : Event μ}

theorem World.consistent_step (consistent : world.bridge.table.Consistent)
    (stepped : world.step event = some after) : after.bridge.table.Consistent := by
  rcases World.step_table stepped with ⟨operation, _, same⟩ | ⟨_, same, _⟩
  · rw [same]
    exact Bridge.consistent_perform consistent operation
  · rw [same]
    exact consistent

theorem World.mirrors_step {ledger : Ledger} (consistent : world.bridge.table.Consistent)
    (mirrors : world.bridge.Mirrors ledger) (stepped : world.step event = some after) :
    after.bridge.Mirrors (Moment.record ledger ⟨world, event⟩) := by
  rcases World.step_table stepped with ⟨operation, rfl, same⟩ | ⟨other, same, _⟩
  · rw [same]
    exact mirrors.perform consistent operation
  · have unrecorded : Moment.record ledger ⟨world, event⟩ = ledger := by
      cases event with
      | operation operation => exact absurd rfl (other operation)
      | _ => rfl
    intro handle
    rw [unrecorded, same]
    exact mirrors handle

/-- In every run of a bridge the table is consistent and says what the ledger
says. -/
theorem Run.consistent_mirrors {types : Catalog} {config : BridgeConfig} {middleware : μ}
    (run : Run (World.fresh types config middleware) past world) :
    world.bridge.table.Consistent ∧ world.bridge.Mirrors (ledgerOf past) := by
  induction run with
  | start => exact ⟨Table.Consistent.empty, fun _ => rfl⟩
  | @next past world after event _ stepped ih =>
      obtain ⟨consistent, mirrors⟩ := ih
      refine ⟨World.consistent_step consistent stepped, ?_⟩
      rw [ledgerOf, List.foldl_append]
      exact World.mirrors_step consistent mirrors stepped

/-- The table of live proxies is exactly what the operations have made of it. -/
structure TableExact (past : List (Moment μ)) (world : World μ) : Prop where
  /-- The listed handles are those that creations returned and nothing removed
  since. -/
  handles : ∀ handle, handle ∈ world.bridge.handles ↔ (ledgerOf past handle).isSome = true
  ascending : world.bridge.handles.Pairwise fun handle other => handle.index < other.index
  /-- What is known about a proxy is what its creation fixed. -/
  info : ∀ handle, world.bridge.info handle =
    match ledgerOf past handle with
    | some info => .ok info
    | none => .error (.unknownHandle handle)
  /-- A creation never returns a handle that is live. -/
  fresh : ∀ operation handle, world.bridge.outcome operation = .ok (some handle) →
    ledgerOf past handle = none
  /-- The handles that are out are those that are listed. -/
  out : ∀ handle, world.bridge.table.allocator.IsOut handle ↔ handle ∈ world.bridge.handles
  asserts : ∀ operation, world.bridge.Asserts operation
  generations : ∀ handle entry, world.bridge.table.get? handle = some entry →
    entry.generation < world.bridge.table.nextGeneration ∧
      ∀ other another, world.bridge.table.get? other = some another →
        entry.generation = another.generation → handle = other

end Runs

/-- A creation that succeeds opens a proxy under the handle that the allocator hands
out. -/
theorem Bridge.opened_of_outcome [Middleware μ] {bridge : Bridge μ} {operation : Operation}
    {handle : Handle} (opened : bridge.outcome operation = .ok (some handle)) :
    ∃ allocator middleware proxy targets,
      bridge.table.allocator.allocate? = some (handle, allocator) ∧
      bridge.perform operation = bridge.opened handle allocator middleware proxy targets ∧
      ((∃ owner topic typeName options codec publication,
          operation = .createPublisher owner topic typeName options ∧
          bridge.types.lookup typeName = .ok codec ∧
          proxy = .publisher ⟨topic, codec.typeName, owner, codec, publication⟩) ∨
        ∃ hasEntryPoint topic typeName callback options subscriber,
          operation = .createSubscriber hasEntryPoint topic typeName callback options ∧
          proxy = .subscriber subscriber) := by
  have silent (answer : Except BridgeError Unit) :
      (answer.map fun _ => none) ≠ Except.ok (some handle) := by
    cases answer <;> simp [Except.map]
  cases operation with
  | createPublisher owner topic typeName options =>
      rcases bridge.createPublisher_cases owner topic typeName options with
        ⟨e, after, equal, _⟩ |
        ⟨drawn, allocator, codec, publication, _, known, allocated, _, equal⟩
      · simp [outcome, equal, Except.map] at opened
      · simp only [outcome, equal, Except.map, Except.ok.injEq, Option.some.injEq] at opened
        subst opened
        rw [perform, equal]
        exact ⟨allocator, _, _, _, allocated, rfl,
          Or.inl ⟨owner, topic, typeName, options, codec, publication, rfl, known, rfl⟩⟩
  | createSubscriber hasEntryPoint topic typeName callback options =>
      rcases bridge.createSubscriber_cases hasEntryPoint topic typeName callback options with
        ⟨e, after, equal, _⟩ | ⟨drawn, allocator, _, _, _, _, _, allocated, _, equal⟩
      · simp [outcome, equal, Except.map] at opened
      · simp only [outcome, equal, Except.map, Except.ok.injEq, Option.some.injEq] at opened
        subst opened
        rw [perform, equal]
        exact ⟨allocator, _, _, _, allocated, rfl,
          Or.inr ⟨hasEntryPoint, topic, typeName, callback, options, _, rfl, rfl⟩⟩
  | destroy | destroyKind | publish | publishValue => exact absurd opened (silent _)
  | destroyOwnedBy | clear | shutdown | unload => simp [outcome] at opened

/-- A creation issues the handle that the allocator hands out. -/
theorem Bridge.allocate?_of_outcome [Middleware μ] {bridge : Bridge μ} {operation : Operation}
    {handle : Handle} (opened : bridge.outcome operation = .ok (some handle)) :
    ∃ allocator, bridge.table.allocator.allocate? = some (handle, allocator) := by
  obtain ⟨allocator, _, _, _, allocated, _⟩ := opened_of_outcome opened
  exact ⟨allocator, allocated⟩

/-- A creation that succeeds returns a handle that no live proxy has. -/
theorem Bridge.get?_eq_none_of_outcome [Middleware μ] {bridge : Bridge μ}
    (consistent : bridge.table.Consistent) {operation : Operation} {handle : Handle}
    (opened : bridge.outcome operation = .ok (some handle)) : bridge.table.get? handle = none := by
  obtain ⟨_, allocated⟩ := allocate?_of_outcome opened
  exact consistent.get?_eq_none allocated

/-- In every run of a bridge the table of live proxies is exactly what the
operations and their outcomes say, whether they come from the stepping loop or
from callbacks, and whether they succeed or fail. -/
theorem table_exact [Middleware μ] {types : Catalog} {config : BridgeConfig} {middleware : μ}
    {past : List (Moment μ)} {world : World μ}
    (run : Run (World.fresh types config middleware) past world) : TableExact past world := by
  obtain ⟨consistent, mirrors⟩ := run.consistent_mirrors
  constructor
  · intro handle
    rw [← mirrors handle, Bridge.handles, Table.mem_handles_iff, Option.isSome_map]
  · exact consistent.handles_ascending
  · intro handle
    rw [← mirrors handle, Bridge.info, Bridge.find]
    cases world.bridge.table.get? handle <;> rfl
  · intro operation handle opened
    rw [← mirrors handle, Bridge.get?_eq_none_of_outcome consistent opened]
    rfl
  · intro handle
    rw [consistent.out, Bridge.handles, Table.mem_handles_iff]
  · exact Bridge.asserts_of_consistent consistent
  · intro handle entry found
    exact ⟨consistent.drawn found, fun other another found' => consistent.apart found found'⟩

/-- A callback destroys the publisher that was opened first, fails to open
another one because the messaging layer is switched off for a moment, and then
opens one under the handle that is free again. -/
def reopening : List (Event Recorder) :=
  let advertise (owner : ScriptId) (typeName : String) : Event Recorder :=
    .operation (.createPublisher owner "/count" typeName {})
  let switched (isUnavailable : Bool) : Event Recorder := .layer { isUnavailable }
  [advertise ⟨1⟩ "Count",
    .operation (.createSubscriber (fun _ => true) "/count" "Count" ⟨⟨2⟩, "onCount"⟩ {}),
    advertise ⟨1⟩ "Missing", .deliver ⟨0⟩ [7], .beginDrain, .take, .operation (.destroy ⟨0⟩),
    switched true, advertise ⟨3⟩ "Count", switched false, advertise ⟨3⟩ "raw/Count",
    .finish (.ok ())]

theorem table_exact_reopening :
    ∃ past world,
      Run (World.fresh (({} : Catalog).insertCodec "raw/Count" "Count" (Codec.raw "raw/Count"))
        {} ({} : Recorder)) past world ∧
      ledgerOf past ⟨0⟩ = some ⟨⟨0⟩, .publisher, "/count", "raw/Count", ⟨3⟩, none⟩ ∧
      ledgerOf past ⟨1⟩ = some ⟨⟨1⟩, .subscriber, "/count", "raw/Count", ⟨2⟩,
        some ⟨⟨2⟩, "onCount"⟩⟩ ∧
      world.bridge.table.nextGeneration = 5 ∧ TableExact past world := by
  have computed : ((World.fresh (({} : Catalog).insertCodec "raw/Count" "Count"
      (Codec.raw "raw/Count")) {} ({} : Recorder)).replay reopening).map
        (fun replayed => (ledgerOf replayed.1 ⟨0⟩, ledgerOf replayed.1 ⟨1⟩,
          replayed.2.bridge.table.nextGeneration)) =
      some (some ⟨⟨0⟩, .publisher, "/count", "raw/Count", ⟨3⟩, none⟩,
        some ⟨⟨1⟩, .subscriber, "/count", "raw/Count", ⟨2⟩, some ⟨⟨2⟩, "onCount"⟩⟩, 5) := by
    decide
  obtain ⟨⟨past, world⟩, replayed, same⟩ := Option.map_eq_some_iff.mp computed
  simp only [Prod.mk.injEq] at same
  obtain ⟨first, second, drawn⟩ := same
  have run := Run.ofReplay replayed
  exact ⟨past, world, run, first, second, drawn, table_exact run⟩

end TopicBridge
