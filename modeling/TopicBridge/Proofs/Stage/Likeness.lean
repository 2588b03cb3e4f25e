import TopicBridge.Bridge.Commands
import TopicBridge.Bridge.Delivery
import TopicBridge.Proofs.World.Table

/-!
# Bridges that look alike

A creation that the messaging layer refuses has already drawn a handle and a
generation.  The handle goes back, but if it was a new one it is now free
instead of never used, and the generation is gone.  Two bridges look alike if
they differ in nothing else: the handle that the one will take off its free list
last is the one that the other has still to draw, and the generations are
renamed.  Whatever is asked of two bridges that look alike, they answer the same
and look alike afterwards.
-/

namespace TopicBridge

/-! ## Allocators -/

/-- Two allocators hand out the same handles from now on. -/
inductive Allocator.Alike : Allocator → Allocator → Prop
  | same (allocator : Allocator) : Alike allocator allocator
  /-- The other one drew a handle once more, and has it back at the bottom of its
  free list. -/
  | ahead {next limit : Nat} (room : next ≤ limit) (free : List Handle) :
      Alike ⟨next, free, limit⟩ ⟨next + 1, free ++ [⟨next⟩], limit⟩

namespace Allocator.Alike

variable {one other : Allocator}

/-- Both draw the same handle, or none of them draws one.  Only when the free list runs
out does the one draw what the other has back, and from then on they are the same. -/
theorem allocate (alike : one.Alike other) :
    one.allocate? = none ∧ other.allocate? = none ∨
      ∃ handle rest rest', one.allocate? = some (handle, rest) ∧
        other.allocate? = some (handle, rest') ∧ rest.Alike rest' := by
  cases alike with
  | same =>
      cases allocated : one.allocate? with
      | none => exact Or.inl ⟨rfl, rfl⟩
      | some drawn => exact Or.inr ⟨drawn.1, drawn.2, drawn.2, rfl, rfl, .same _⟩
  | @ahead next limit room free =>
      cases free with
      | nil =>
          refine Or.inr ⟨⟨next⟩, ⟨next + 1, [], limit⟩, ⟨next + 1, [], limit⟩, ?_, rfl, .same _⟩
          exact if_pos room
      | cons handle free => exact Or.inr ⟨handle, _, _, rfl, rfl, .ahead room free⟩

/-- What is given back lies on top of the one free list and of the other. -/
theorem release (alike : one.Alike other) (handle : Handle) :
    (one.release handle).Alike (other.release handle) := by
  cases alike with
  | same => exact .same _
  | ahead room free => exact .ahead room (handle :: free)

/-- Who draws a handle and gives it back is alike to who never did. -/
theorem redrawn {rest : Allocator} {handle : Handle}
    (allocated : one.allocate? = some (handle, rest)) : one.Alike (rest.release handle) := by
  obtain ⟨next, free, limit⟩ := one
  unfold allocate? at allocated
  cases free with
  | cons front free =>
      cases allocated
      exact .same _
  | nil =>
      dsimp only at allocated
      split at allocated
      · rename_i room
        cases allocated
        exact .ahead room []
      · cases allocated

end Allocator.Alike

/-! ## Tables -/

/-- The entry under another generation. -/
def Entry.rename (rename : Nat → Nat) (entry : Entry) : Entry :=
  { entry with generation := rename entry.generation }

/-- The target under another generation. -/
def Target.rename (rename : Nat → Nat) (target : Target) : Target :=
  { target with generation := rename target.generation }

/-- The invocation under another generation. -/
def Invocation.rename (rename : Nat → Nat) (invocation : Invocation) : Invocation :=
  { invocation with generation := rename invocation.generation }

/-- Two tables are the same up to the generations, and hand out the same handles
from now on. -/
structure Table.Alike (rename : Nat → Nat) (one other : Table) : Prop where
  injective : ∀ {g g'}, rename g = rename g' → g = g'
  /-- From now on both draw one generation after another. -/
  onward : ∀ g, one.nextGeneration ≤ g → rename (g + 1) = rename g + 1
  entries : other.entries = Dict.mapValues one.entries (Entry.rename rename)
  allocator : one.allocator.Alike other.allocator
  nextGeneration : other.nextGeneration = rename one.nextGeneration

namespace Table.Alike

variable {rename : Nat → Nat} {one other : Table}

/-- The same proxies are live, under renamed generations. -/
theorem get? (alike : one.Alike rename other) (handle : Handle) :
    other.get? handle = (one.get? handle).map (Entry.rename rename) := by
  rw [Table.get?, Table.get?, alike.entries, Dict.get?_mapValues]

/-- A generation is current in the one table if its name is in the other one, because
no two generations get one name. -/
theorem callbackOf? (alike : one.Alike rename other) (handle : Handle) (generation : Nat) :
    other.callbackOf? handle (rename generation) = one.callbackOf? handle generation := by
  rw [Table.callbackOf?, Table.callbackOf?, alike.get?]
  cases one.get? handle with
  | none => rfl
  | some entry =>
      by_cases same : entry.generation = generation
      · simp [Entry.rename, same]
      · have apart : rename entry.generation ≠ rename generation :=
          fun renamed => same (alike.injective renamed)
        simp [Entry.rename, same, apart]

theorem handles (alike : one.Alike rename other) : other.handles = one.handles := by
  rw [Table.handles, Table.handles, alike.entries, Dict.keys_mapValues]

/-- The same handles are found under a condition on proxies, and in the same order. -/
theorem select (alike : one.Alike rename other) (condition : Proxy → Bool) :
    other.select condition = one.select condition := by
  have filtered : (Dict.mapValues one.entries (Entry.rename rename)).filter
      (fun entry => condition entry.2.proxy) =
        Dict.mapValues (one.entries.filter fun entry => condition entry.2.proxy)
          (Entry.rename rename) := by
    rw [Dict.mapValues, List.filter_map]
    rfl
  rw [Table.select, Table.select, alike.entries, filtered, Dict.keys_mapValues]

theorem count (alike : one.Alike rename other) (kind : ProxyKind) :
    other.count kind = one.count kind := by
  rw [Table.count, Table.count, alike.entries, Dict.mapValues, List.countP_map]
  rfl

theorem size (alike : one.Alike rename other) : other.size = one.size := by
  rw [Table.size, Table.size, alike.entries, Dict.mapValues, List.length_map]

/-- Removing gives the handle back in both tables. -/
theorem remove (alike : one.Alike rename other) (handle : Handle) :
    (one.remove handle).Alike rename (other.remove handle) where
  injective := alike.injective
  onward := alike.onward
  entries := by
    change Dict.erase other.entries handle = _
    rw [alike.entries, Dict.erase_mapValues]
    rfl
  allocator := alike.allocator.release handle
  nextGeneration := alike.nextGeneration

/-- Both draw the same handle, each with its next generation, or neither draws
one. -/
theorem reserve (alike : one.Alike rename other) :
    one.reserve? = none ∧ other.reserve? = none ∨
      ∃ handle reserved reserved', one.reserve? = some (handle, one.nextGeneration, reserved) ∧
        other.reserve? = some (handle, rename one.nextGeneration, reserved') ∧
        reserved.Alike rename reserved' := by
  unfold Table.reserve?
  rcases alike.allocator.allocate with ⟨none, none'⟩ | ⟨handle, rest, rest', some, some', further⟩
  · rw [none, none']
    exact Or.inl ⟨rfl, rfl⟩
  · rw [some, some', alike.nextGeneration]
    refine Or.inr ⟨handle, _, _, rfl, rfl, alike.injective, ?_, alike.entries, further, ?_⟩
    · exact fun g drawn => alike.onward g (Nat.le_of_succ_le drawn)
    · exact (alike.onward one.nextGeneration (Nat.le_refl _)).symm

/-- A creation that fails in both tables leaves them alike. -/
theorem abandon (alike : one.Alike rename other) (handle : Handle) :
    (one.abandon handle).Alike rename (other.abandon handle) where
  injective := alike.injective
  onward := alike.onward
  entries := alike.entries
  allocator := alike.allocator.release handle
  nextGeneration := alike.nextGeneration

/-- A creation that succeeds in both tables leaves them alike. -/
theorem commit (alike : one.Alike rename other) (handle : Handle) (generation : Nat)
    (proxy : Proxy) :
    (one.commit handle ⟨generation, proxy⟩).Alike rename
      (other.commit handle ⟨rename generation, proxy⟩) where
  injective := alike.injective
  onward := alike.onward
  entries := by
    change Dict.insert other.entries handle (Entry.rename rename ⟨generation, proxy⟩) = _
    rw [alike.entries, Dict.insert_mapValues]
    rfl
  allocator := alike.allocator
  nextGeneration := alike.nextGeneration

end Table.Alike

/-! ## Bridges -/

namespace Bridge

variable {μ : Type}

/-- Two bridges are the same up to the generations, and hand out the same
handles from now on. -/
structure Alike (rename : Nat → Nat) (one other : Bridge μ) : Prop where
  types : other.types = one.types
  config : other.config = one.config
  middleware : other.middleware = one.middleware
  table : one.table.Alike rename other.table
  pending : other.pending.toList = one.pending.toList.map (Invocation.rename rename)
  targets : ∀ subscription, Dict.get? other.targets subscription =
    (Dict.get? one.targets subscription).map (Target.rename rename)
  counters : other.counters = one.counters
  reports : other.reports = one.reports
  isLoaded : other.isLoaded = one.isLoaded

/-- Two bridges give the same answer, and look alike after it. -/
structure Agree {α : Type} (rename : Nat → Nat) (one other : α × Bridge μ) : Prop where
  answer : other.1 = one.1
  after : one.2.Alike rename other.2

/-- What is made of the answers is the same. -/
theorem Agree.map {α β : Type} {rename : Nat → Nat} {one other : α × Bridge μ}
    (agree : Agree rename one other) (f : α → β) :
    Agree rename (f one.1, one.2) (f other.1, other.2) :=
  ⟨congrArg f agree.answer, agree.after⟩

namespace Alike

variable {rename : Nat → Nat} {one other : Bridge μ}

/-! ### What can be asked -/

/-- The same handles are refused, with the same error. -/
theorem find (alike : one.Alike rename other) (handle : Handle) :
    other.find handle = (one.find handle).map (Entry.rename rename) := by
  rw [Bridge.find, Bridge.find, alike.table.get?]
  cases one.table.get? handle <;> rfl

theorem findPublisher (alike : one.Alike rename other) (handle : Handle) :
    other.findPublisher handle = one.findPublisher handle := by
  rw [Bridge.findPublisher, Bridge.findPublisher, alike.find]
  cases one.find handle <;> rfl

theorem lookupCallback (alike : one.Alike rename other) (handle : Handle) :
    other.lookupCallback handle = one.lookupCallback handle := by
  rw [Bridge.lookupCallback, Bridge.lookupCallback, alike.find]
  cases one.find handle <;> rfl

theorem info (alike : one.Alike rename other) (handle : Handle) :
    other.info handle = one.info handle := by
  rw [Bridge.info, Bridge.info, alike.find]
  cases one.find handle <;> rfl

theorem contains (alike : one.Alike rename other) (handle : Handle) :
    other.contains handle = one.contains handle := by
  rw [Bridge.contains, Bridge.contains, alike.table.get?, Option.isSome_map]

theorem handles (alike : one.Alike rename other) : other.handles = one.handles :=
  alike.table.handles

theorem size (alike : one.Alike rename other) : other.size = one.size :=
  alike.table.size

/-- The counts do not show that a handle was drawn and given back. -/
theorem stats (alike : one.Alike rename other) : other.stats = one.stats := by
  rw [Bridge.stats, Bridge.stats, alike.counters, alike.table.count, alike.table.count]

/-- A description names the size and the configuration, and no generation. -/
theorem describe (alike : one.Alike rename other) : other.describe = one.describe := by
  have size := alike.size
  have config := alike.config
  unfold Bridge.describe
  rw [size, config]

/-- What is queued is stale in both bridges or in none. -/
theorem isLive (alike : one.Alike rename other) (invocation : Invocation) :
    other.isLive (invocation.rename rename) = one.isLive invocation := by
  rw [Bridge.isLive, Bridge.isLive]
  exact congrArg Option.isSome (alike.table.callbackOf? _ _)

theorem pendingSize (alike : one.Alike rename other) :
    other.pending.size = one.pending.size := by
  rw [Queue.size_eq_length_toList, Queue.size_eq_length_toList, alike.pending, List.length_map]

/-! ### Small changes -/

theorem count (alike : one.Alike rename other) (bump : Counters → Counters) :
    (one.count bump).Alike rename (other.count bump) :=
  { alike with counters := congrArg bump alike.counters }

theorem report (alike : one.Alike rename other) (e : BridgeError) :
    (one.report e).Alike rename (other.report e) :=
  { alike with reports := congrArg (fun reports => Array.push reports e) alike.reports }

theorem layer (alike : one.Alike rename other) (middleware : μ) :
    Alike rename { one with middleware } { other with middleware } :=
  { alike with middleware := rfl }

/-- A proxy is entered or removed, with what it has open. -/
theorem change (alike : one.Alike rename other) {table table' : Table}
    (further : table.Alike rename table') (middleware : μ)
    {targets targets' : Dict SubscriptionId Target}
    (renamed : ∀ subscription, Dict.get? targets' subscription =
      (Dict.get? targets subscription).map (Target.rename rename)) :
    Alike rename { one with middleware, table, targets }
      { other with middleware, table := table', targets := targets' } :=
  { alike with table := further, middleware := rfl, targets := renamed }

/-! ### Deliveries and calls -/

/-- The queues are as long as each other, so the same invocation finds them full. -/
theorem enqueue (alike : one.Alike rename other) (invocation : Invocation) :
    (one.enqueue invocation).Alike rename (other.enqueue (invocation.rename rename)) := by
  have same : other.pending.size < other.config.queueCapacity ↔
      one.pending.size < one.config.queueCapacity := by
    rw [alike.pendingSize, alike.config]
  unfold Bridge.enqueue
  by_cases space : one.pending.size < one.config.queueCapacity
  · rw [if_pos space, if_pos (same.mpr space)]
    apply Alike.count
    exact { alike with pending := by simp [alike.pending] }
  · rw [if_neg space, if_neg (mt same.mp space)]
    exact (alike.count _).report _

/-- A payload goes to the same codec, and then to the same callback or to none. -/
theorem deliver (alike : one.Alike rename other) (subscription : SubscriptionId)
    (payload : Bytes) :
    (one.deliver subscription payload).Alike rename (other.deliver subscription payload) := by
  rw [Bridge.deliver, Bridge.deliver, alike.isLoaded, alike.targets]
  split
  · cases Dict.get? one.targets subscription with
    | none => exact alike
    | some target =>
        have counted := alike.count fun c => { c with delivered := c.delivered + 1 }
        dsimp only [Option.map_some, Bridge.receive]
        have sameCodec : (target.rename rename).codec = target.codec := rfl
        rw [sameCodec]
        cases target.codec.decode payload with
        | error e => exact (counted.count _).report _
        | ok value =>
            dsimp only
            have called := counted.table.callbackOf? target.handle target.generation
            rw [show (target.rename rename).handle = target.handle from rfl,
              show (target.rename rename).generation = rename target.generation from rfl, called]
            split
            · exact counted.count _
            · exact counted.enqueue _
  · exact alike

theorem deliverAll (alike : one.Alike rename other) (arrivals : List Arrival) :
    (one.deliverAll arrivals).Alike rename (other.deliverAll arrivals) := by
  induction arrivals generalizing one other with
  | nil => exact alike
  | cons arrival rest ih => exact ih (alike.deliver arrival.1 arrival.2)

/-- Both find the same at the front of the queue. -/
theorem takePending (alike : one.Alike rename other) :
    (∃ invocation rest rest', one.takePending = (.due invocation, rest) ∧
      other.takePending = (.due (invocation.rename rename), rest') ∧ rest.Alike rename rest') ∨
    ∃ kind rest rest', (∀ invocation, kind ≠ .due invocation) ∧ one.takePending = (kind, rest) ∧
      other.takePending = (kind, rest') ∧ rest.Alike rename rest' := by
  unfold Bridge.takePending
  cases popped : one.pending.pop? with
  | none =>
      have empty : other.pending.pop? = none := by
        rw [Queue.pop?_eq_none_iff, alike.pending, (Queue.pop?_eq_none_iff _).mp popped]
        rfl
      rw [empty]
      refine Or.inr ⟨.nothing, one, other, ?_, rfl, rfl, alike⟩
      intro _ due
      cases due
  | some taken =>
      obtain ⟨invocation, rest⟩ := taken
      have split : other.pending.toList =
          invocation.rename rename :: rest.toList.map (Invocation.rename rename) := by
        rw [alike.pending, Queue.toList_of_pop? popped, List.map_cons]
      cases popped' : other.pending.pop? with
      | none =>
          rw [(Queue.pop?_eq_none_iff _).mp popped'] at split
          cases split
      | some taken' =>
          obtain ⟨front, rest'⟩ := taken'
          rw [Queue.toList_of_pop? popped'] at split
          obtain ⟨rfl, others⟩ := List.cons.inj split
          have shorter : Alike rename { one with pending := rest } { other with pending := rest' } :=
            { alike with pending := others }
          dsimp only
          rw [shorter.isLive invocation]
          split
          · exact Or.inl ⟨invocation, _, _, rfl, rfl, shorter⟩
          · refine Or.inr ⟨.stale, _, _, ?_, rfl, rfl, shorter.count _⟩
            intro _ due
            cases due

/-- A failed call is reported under the handle, which is the same. -/
theorem finish (alike : one.Alike rename other) {invocation invocation' : Invocation}
    (same : invocation'.handle = invocation.handle) (outcome : Except String Unit) :
    (one.finish invocation outcome).Alike rename (other.finish invocation' outcome) := by
  cases outcome with
  | ok done => exact alike.count fun c => { c with invoked := c.invoked + 1 }
  | error reason =>
      rw [Bridge.finish, Bridge.finish, same]
      exact (alike.count _).report _

/-! ### Operations -/

variable [Middleware μ]

/-- The same proxy is dropped, and closes the same publication or subscription. -/
theorem drop (alike : one.Alike rename other) (handle : Handle) :
    (one.drop handle).Alike rename (other.drop handle) := by
  rw [Bridge.drop, Bridge.drop, alike.table.get?]
  cases one.table.get? handle with
  | none => exact alike
  | some entry =>
      apply Alike.count
      exact { alike with
        table := alike.table.remove handle
        middleware := congrArg (fun layer => close layer entry.proxy) alike.middleware }

theorem dropAll (alike : one.Alike rename other) (handles : List Handle) :
    (one.dropAll handles).Alike rename (other.dropAll handles) := by
  induction handles generalizing one other with
  | nil => exact alike
  | cons handle rest ih => exact ih (alike.drop handle)

/-- The layers are the same, so they accept or refuse together.  What is refused leaves
both bridges with a handle given back. -/
theorem createPublisher (alike : one.Alike rename other) (owner : ScriptId)
    (topic typeName : String) (options : AdvertiseOptions) :
    Agree rename (one.createPublisher owner topic typeName options)
      (other.createPublisher owner topic typeName options) := by
  have known : other.types.lookup typeName = one.types.lookup typeName := by rw [alike.types]
  have advertised (codec : Codec) :
      Middleware.advertise other.middleware topic codec.typeName options =
        Middleware.advertise one.middleware topic codec.typeName options := by
    rw [alike.middleware]
  rw [Bridge.createPublisher, Bridge.createPublisher, known]
  cases one.types.lookup typeName with
  | error e => exact ⟨rfl, alike⟩
  | ok codec =>
      dsimp only
      rcases alike.table.reserve with ⟨none, none'⟩ |
        ⟨handle, reserved, reserved', some, some', further⟩
      · rw [none, none']
        exact ⟨rfl, alike⟩
      · rw [some, some']
        dsimp only
        rw [advertised]
        cases Middleware.advertise one.middleware topic codec.typeName options with
        | error e => exact ⟨rfl, { alike with table := further.abandon handle }⟩
        | ok opened =>
            obtain ⟨publication, middleware⟩ := opened
            refine ⟨rfl, ?_⟩
            dsimp only
            apply Alike.count
            exact alike.change (further.commit handle _ _) middleware alike.targets

/-- As for a publisher, but the target of the subscription carries a generation, which
is renamed. -/
theorem createSubscriber (alike : one.Alike rename other) (hasEntryPoint : Callback → Bool)
    (topic typeName : String) (callback : Callback) (options : SubscribeOptions) :
    Agree rename (one.createSubscriber hasEntryPoint topic typeName callback options)
      (other.createSubscriber hasEntryPoint topic typeName callback options) := by
  have accepts : other.acceptsCallback hasEntryPoint callback =
      one.acceptsCallback hasEntryPoint callback := by
    rw [acceptsCallback, acceptsCallback, alike.config]
  have known : other.types.lookup typeName = one.types.lookup typeName := by rw [alike.types]
  have subscribed (codec : Codec) :
      Middleware.subscribe other.middleware topic codec.typeName options =
        Middleware.subscribe one.middleware topic codec.typeName options := by
    rw [alike.middleware]
  rw [Bridge.createSubscriber, Bridge.createSubscriber, known, accepts]
  cases one.types.lookup typeName with
  | error e => exact ⟨rfl, alike⟩
  | ok codec =>
      dsimp only
      split
      · exact ⟨rfl, alike⟩
      · rcases alike.table.reserve with ⟨none, none'⟩ |
          ⟨handle, reserved, reserved', some, some', further⟩
        · rw [none, none']
          exact ⟨rfl, alike⟩
        · rw [some, some']
          dsimp only
          rw [subscribed]
          cases Middleware.subscribe one.middleware topic codec.typeName options with
          | error e => exact ⟨rfl, { alike with table := further.abandon handle }⟩
          | ok opened =>
              obtain ⟨subscription, middleware⟩ := opened
              refine ⟨rfl, ?_⟩
              dsimp only
              apply Alike.count
              apply alike.change (further.commit handle _ _) middleware
              intro asked
              rw [Dict.get?_insert, Dict.get?_insert, alike.targets]
              split <;> rfl

theorem destroy (alike : one.Alike rename other) (handle : Handle) :
    Agree rename (one.destroy handle) (other.destroy handle) := by
  rw [Bridge.destroy, Bridge.destroy, alike.find]
  cases one.find handle with
  | error e => exact ⟨rfl, alike⟩
  | ok entry => exact ⟨rfl, alike.drop handle⟩

/-- The kind of a proxy does not depend on its generation. -/
theorem destroyKind (alike : one.Alike rename other) (handle : Handle) (kind : ProxyKind) :
    Agree rename (one.destroyKind handle kind) (other.destroyKind handle kind) := by
  rw [Bridge.destroyKind, Bridge.destroyKind, alike.find]
  cases one.find handle with
  | error e => exact ⟨rfl, alike⟩
  | ok entry =>
      have sameProxy : (entry.rename rename).proxy = entry.proxy := rfl
      dsimp only [Except.map]
      rw [sameProxy]
      split
      · exact ⟨rfl, alike.drop handle⟩
      · exact ⟨rfl, alike⟩

theorem destroyOwnedBy (alike : one.Alike rename other) (script : ScriptId) :
    Agree rename (one.destroyOwnedBy script) (other.destroyOwnedBy script) := by
  rw [Bridge.destroyOwnedBy, Bridge.destroyOwnedBy, alike.table.select]
  exact ⟨rfl, alike.dropAll _⟩

theorem clear (alike : one.Alike rename other) : Agree rename one.clear other.clear := by
  rw [Bridge.clear, Bridge.clear, alike.handles]
  exact ⟨rfl, alike.dropAll _⟩

/-- As much is flushed from the one queue as from the other. -/
theorem shutdown (alike : one.Alike rename other) : one.shutdown.Alike rename other.shutdown := by
  have cleared := alike.clear.after
  rw [Bridge.shutdown, Bridge.shutdown, Bridge.flush, Bridge.flush, cleared.pendingSize]
  apply Alike.count
  exact { cleared with pending := rfl }

theorem unload (alike : one.Alike rename other) : one.unload.Alike rename other.unload :=
  { alike.shutdown with isLoaded := rfl }

/-- What a publisher sends is not stamped with its generation. -/
theorem send (alike : one.Alike rename other) (publisher : Publisher) (payload : Bytes) :
    (one.send publisher payload).Alike rename (other.send publisher payload) := by
  unfold Bridge.send
  rw [alike.middleware]
  exact (alike.layer _).count _

theorem publish (alike : one.Alike rename other) (handle : Handle) (payload : Bytes) :
    Agree rename (one.publish handle payload) (other.publish handle payload) := by
  rw [Bridge.publish, Bridge.publish, alike.findPublisher]
  cases one.findPublisher handle with
  | error e => exact ⟨rfl, alike⟩
  | ok publisher => exact ⟨rfl, alike.send publisher payload⟩

theorem publishValue (alike : one.Alike rename other) (handle : Handle) (value : Value) :
    Agree rename (one.publishValue handle value) (other.publishValue handle value) := by
  rw [Bridge.publishValue, Bridge.publishValue, alike.findPublisher]
  cases one.findPublisher handle with
  | error e => exact ⟨rfl, alike⟩
  | ok publisher =>
      dsimp only
      cases publisher.codec.encode value with
      | error e => exact ⟨rfl, alike⟩
      | ok payload => exact ⟨rfl, alike.send publisher payload⟩

/-- A script command is one of the operations. -/
theorem callCommand (alike : one.Alike rename other) (hasEntryPoint : Callback → Bool)
    (caller : ScriptId) (name : String) (arguments : List Value) :
    Agree rename (one.callCommand hasEntryPoint caller name arguments)
      (other.callCommand hasEntryPoint caller name arguments) := by
  rw [Bridge.callCommand, Bridge.callCommand, alike.config]
  cases Command.parse name arguments one.config with
  | error e => exact ⟨rfl, alike⟩
  | ok command =>
      cases command with
      | advertise topic typeName options =>
          exact (alike.createPublisher caller topic typeName options).map _
      | subscribe topic typeName callback options =>
          exact (alike.createSubscriber hasEntryPoint topic typeName ⟨caller, callback⟩
            options).map _
      | publish handle message => exact (alike.publishValue handle message).map _
      | shutdownPublisher handle => exact (alike.destroyKind handle .publisher).map _
      | shutdownSubscriber handle => exact (alike.destroyKind handle .subscriber).map _

end Alike

end Bridge

end TopicBridge
