import TopicBridge.Proofs.Traffic.Linked
import TopicBridge.Proofs.World.Ledger

/-!
# Proxies and what a messaging layer has open

Every live proxy has one publication or one subscription open, and a messaging
layer keeps a book of what is open in it.  A creation that succeeds enters one
line, a removal strikes it out when the proxy is dropped, and nothing else
touches the book.  So as long as nobody else uses the layer, the lines of the book
are those of the live proxies, after every event of every run.
-/

namespace TopicBridge

variable {μ κ : Type}

/-! ## Lines -/

/-- The publication that a proxy has open. -/
def Proxy.publication? : Proxy → Option PublicationId
  | publisher p => some p.publication
  | subscriber _ => none

/-- The subscription that a proxy has open. -/
def Proxy.subscription? : Proxy → Option SubscriptionId
  | publisher _ => none
  | subscriber s => some s.subscription

theorem Proxy.isSome_publication? (proxy : Proxy) :
    proxy.publication?.isSome = decide (proxy.kind = .publisher) := by
  cases proxy <;> rfl

theorem Proxy.isSome_subscription? (proxy : Proxy) :
    proxy.subscription?.isSome = decide (proxy.kind = .subscriber) := by
  cases proxy <;> rfl

/-- What a proxy has open under an id of one kind, with its topic. -/
def Proxy.line? (id? : Proxy → Option κ) (proxy : Proxy) : Option (κ × String) :=
  (id? proxy).map fun id => (id, proxy.topic)

namespace Table

/-- What the live proxies have open under ids of one kind. -/
def lines (table : Table) (id? : Proxy → Option κ) : Dict κ String :=
  table.entries.filterMap fun entry => entry.2.proxy.line? id?

/-- The number of live proxies of a kind on a topic. -/
def liveOn (table : Table) (kind : ProxyKind) (topic : String) : Nat :=
  table.entries.countP fun entry => entry.2.proxy.kind = kind && entry.2.proxy.topic = topic

variable {table : Table} {id? : Proxy → Option κ}

theorem lines_congr {other : Table} (same : other.entries = table.entries) :
    other.lines id? = table.lines id? := by
  rw [lines, lines, same]

theorem Consistent.mem_entries_iff (consistent : table.Consistent) {handle : Handle}
    {entry : Entry} : (handle, entry) ∈ table.entries ↔ table.get? handle = some entry :=
  ⟨Dict.get?_of_mem consistent.keys, Dict.mem_of_get?⟩

theorem Consistent.mem_lines_iff (consistent : table.Consistent) {id : κ} {topic : String} :
    (id, topic) ∈ table.lines id? ↔
      ∃ handle entry, table.get? handle = some entry ∧ id? entry.proxy = some id ∧
        entry.proxy.topic = topic := by
  rw [lines, List.mem_filterMap]
  constructor
  · rintro ⟨⟨handle, entry⟩, member, listed⟩
    obtain ⟨_, has, same⟩ := Option.map_eq_some_iff.mp listed
    cases same
    exact ⟨handle, entry, consistent.mem_entries_iff.mp member, has, rfl⟩
  · rintro ⟨handle, entry, found, has, rfl⟩
    exact ⟨(handle, entry), consistent.mem_entries_iff.mpr found, by rw [Proxy.line?, has]; rfl⟩

/-- The line of a live proxy and the lines of all others. -/
theorem Consistent.lines_perm (consistent : table.Consistent) {handle : Handle} {entry : Entry}
    (found : table.get? handle = some entry) :
    (table.lines id?).Perm ((entry.proxy.line? id?).toList ++ (table.remove handle).lines id?) := by
  have parted := (Dict.perm_erase consistent.keys found).filterMap
    fun entry => entry.2.proxy.line? id?
  rw [List.filterMap_cons] at parted
  refine parted.trans ?_
  cases entry.proxy.line? id? <;> exact List.Perm.refl _

/-- The lines on a topic are counted by the live proxies. -/
theorem length_lines {kind : ProxyKind}
    (owns : ∀ proxy, (id? proxy).isSome = decide (proxy.kind = kind)) (table : Table)
    (topic : String) :
    ((table.lines id?).filter fun line => line.2 = topic).length = table.liveOn kind topic := by
  rw [lines, liveOn]
  induction table.entries with
  | nil => rfl
  | cons entry rest ih =>
      rw [List.filterMap_cons, List.countP_cons, ← ih, ← owns entry.2.proxy, Proxy.line?]
      cases id? entry.2.proxy with
      | none => simp
      | some id => by_cases own : entry.2.proxy.topic = topic <;> simp [own]

/-- A topic has a live proxy if one of either kind is counted on it. -/
theorem Consistent.liveOn_add_pos_iff (consistent : table.Consistent) {topic : String} :
    0 < table.liveOn .publisher topic + table.liveOn .subscriber topic ↔
      ∃ handle entry, table.get? handle = some entry ∧ entry.proxy.topic = topic := by
  have either : 0 < table.liveOn .publisher topic + table.liveOn .subscriber topic ↔
      ∃ kind, 0 < table.liveOn kind topic := by
    constructor
    · intro counted
      by_cases published : 0 < table.liveOn .publisher topic
      · exact ⟨.publisher, published⟩
      · exact ⟨.subscriber, by omega⟩
    · rintro ⟨kind, counted⟩
      cases kind <;> omega
  rw [either]
  constructor
  · rintro ⟨kind, counted⟩
    obtain ⟨⟨handle, entry⟩, member, on⟩ := List.countP_pos_iff.mp counted
    rw [Bool.and_eq_true, decide_eq_true_iff, decide_eq_true_iff] at on
    exact ⟨handle, entry, consistent.mem_entries_iff.mp member, on.2⟩
  · rintro ⟨handle, entry, found, rfl⟩
    have member := consistent.mem_entries_iff.mpr found
    exact ⟨entry.proxy.kind, List.countP_pos_iff.mpr ⟨_, member, by simp⟩⟩

end Table

/-! ## Books -/

section Books

variable [Middleware μ]

/-- A messaging layer keeps a book of what is open in it under ids of one kind. -/
structure KeepsBook [DecidableEq κ] (id? : Proxy → Option κ) (book : μ → Dict κ String) :
    Prop where
  distinct : ∀ layer, (Dict.keys (book layer)).Nodup
  advertised : ∀ {layer after : μ} {topic typeName options} {publisher : Publisher},
    Middleware.advertise layer topic typeName options = .ok (publisher.publication, after) →
    publisher.topic = topic →
    book after = book layer ++ ((Proxy.publisher publisher).line? id?).toList
  subscribed : ∀ {layer after : μ} {topic typeName options} {subscriber : Subscriber},
    Middleware.subscribe layer topic typeName options = .ok (subscriber.subscription, after) →
    subscriber.topic = topic →
    book after = book layer ++ ((Proxy.subscriber subscriber).line? id?).toList
  published : ∀ (layer : μ) id payload, book (Middleware.publish layer id payload) = book layer
  closed : ∀ (layer : μ) proxy, book (Bridge.close layer proxy) =
    match id? proxy with
    | some id => Dict.erase (book layer) id
    | none => book layer

/-! ## What operations do to proxies and to the layer -/

/-- What an operation does to the live proxies and to the messaging layer. -/
inductive Bridge.Rebinds (bridge : Bridge μ) (operation : Operation) : Bridge μ → Prop
  | kept {after : Bridge μ} (entries : after.table.entries = bridge.table.entries)
      (middleware : after.middleware = bridge.middleware)
      (none : bridge.removes operation = []) : Rebinds bridge operation after
  | sent {after : Bridge μ} {publication : PublicationId} {payload : Bytes}
      (entries : after.table.entries = bridge.table.entries)
      (middleware : after.middleware =
        Middleware.publish bridge.middleware publication payload)
      (none : bridge.removes operation = []) : Rebinds bridge operation after
  | advertised {after : Bridge μ} {handle : Handle} {publisher : Publisher}
      {typeName : String} {options : AdvertiseOptions}
      (entries : after.table.entries = Dict.insert bridge.table.entries handle
        ⟨bridge.table.nextGeneration, .publisher publisher⟩)
      (fresh : ∃ allocator, bridge.table.allocator.allocate? = some (handle, allocator))
      (opens : Middleware.advertise bridge.middleware publisher.topic typeName options =
        .ok (publisher.publication, after.middleware))
      (none : bridge.removes operation = []) : Rebinds bridge operation after
  | subscribed {after : Bridge μ} {handle : Handle} {subscriber : Subscriber}
      {typeName : String} {options : SubscribeOptions}
      (entries : after.table.entries = Dict.insert bridge.table.entries handle
        ⟨bridge.table.nextGeneration, .subscriber subscriber⟩)
      (fresh : ∃ allocator, bridge.table.allocator.allocate? = some (handle, allocator))
      (opens : Middleware.subscribe bridge.middleware subscriber.topic typeName options =
        .ok (subscriber.subscription, after.middleware))
      (none : bridge.removes operation = []) : Rebinds bridge operation after
  | removed {after : Bridge μ}
      (entries : after.table.entries =
        (bridge.dropAll (bridge.removes operation)).table.entries)
      (middleware : after.middleware =
        (bridge.dropAll (bridge.removes operation)).middleware) : Rebinds bridge operation after

namespace Bridge

variable (bridge : Bridge μ)

theorem Refuses.rebinds {bridge after : Bridge μ} (refuses : bridge.Refuses after)
    {operation : Operation} (none : bridge.removes operation = []) :
    bridge.Rebinds operation after := by
  rcases refuses with rfl | ⟨_, _, _, rfl⟩ <;> exact .kept rfl rfl none

theorem rebinds (operation : Operation) :
    bridge.Rebinds operation (bridge.perform operation) := by
  cases operation with
  | createPublisher owner topic typeName options =>
      rcases bridge.createPublisher_cases owner topic typeName options with
        ⟨e, after, equal, refuses⟩ |
        ⟨handle, allocator, codec, publication, middleware, _, allocated, advertised, equal⟩
      · rw [perform, equal]
        exact refuses.rebinds rfl
      · rw [perform, equal]
        exact .advertised rfl ⟨allocator, allocated⟩ advertised rfl
  | createSubscriber hasEntryPoint topic typeName callback options =>
      rcases bridge.createSubscriber_cases hasEntryPoint topic typeName callback options with
        ⟨e, after, equal, refuses⟩ |
        ⟨handle, allocator, codec, subscription, middleware, _, _, allocated, subscribed, equal⟩
      · rw [perform, equal]
        exact refuses.rebinds rfl
      · rw [perform, equal]
        exact .subscribed rfl ⟨allocator, allocated⟩ subscribed rfl
  | destroy handle =>
      have removes : bridge.perform (.destroy handle) =
          bridge.dropAll (bridge.removes (.destroy handle)) := by
        cases found : bridge.table.get? handle with
        | none => simp [perform, destroy, find, Bridge.removes, contains, found, dropAll_nil]
        | some entry =>
            simp [perform, destroy, find, Bridge.removes, contains, found, dropAll_cons, dropAll_nil]
      exact .removed (by rw [removes]) (by rw [removes])
  | destroyKind handle kind =>
      have removes : bridge.perform (.destroyKind handle kind) =
          bridge.dropAll (bridge.removes (.destroyKind handle kind)) := by
        cases found : bridge.table.get? handle with
        | none => simp [perform, destroyKind, find, Bridge.removes, found, dropAll_nil]
        | some entry =>
            by_cases same : entry.proxy.kind = kind <;>
              simp [perform, destroyKind, find, Bridge.removes, found, same, dropAll_cons,
                dropAll_nil]
      exact .removed (by rw [removes]) (by rw [removes])
  | destroyOwnedBy script => exact .removed rfl rfl
  | clear => exact .removed rfl rfl
  | shutdown => exact .removed rfl rfl
  | unload => exact .removed rfl rfl
  | publish handle payload =>
      rcases bridge.publish_cases handle payload with ⟨e, equal⟩ | ⟨publisher, _, equal⟩
      · rw [perform, equal]
        exact .kept rfl rfl rfl
      · rw [perform, equal]
        exact .sent rfl rfl rfl
  | publishValue handle value =>
      rcases bridge.publishValue_cases handle value with
        ⟨e, equal⟩ | ⟨publisher, payload, _, _, equal⟩
      · rw [perform, equal]
        exact .kept rfl rfl rfl
      · rw [perform, equal]
        exact .sent rfl rfl rfl

end Bridge

/-! ## Keeping the book -/

/-- The lines of the book are those of the live proxies. -/
def Bridge.Booked (bridge : Bridge μ) (id? : Proxy → Option κ) (book : μ → Dict κ String) : Prop :=
  (bridge.table.lines id?).Perm (book bridge.middleware)

namespace KeepsBook

variable [DecidableEq κ] {id? : Proxy → Option κ} {book : μ → Dict κ String} {bridge : Bridge μ}

/-- No two live proxies have one line of the book. -/
theorem apart (keeps : KeepsBook id? book) (consistent : bridge.table.Consistent)
    (booked : bridge.Booked id? book) {handle other : Handle} {entry another : Entry}
    (found : bridge.table.get? handle = some entry)
    (found' : bridge.table.get? other = some another) {id : κ} (has : id? entry.proxy = some id)
    (has' : id? another.proxy = some id) : handle = other := by
  refine Classical.byContradiction fun different => ?_
  have line : entry.proxy.line? id? = some (id, entry.proxy.topic) := by
    rw [Proxy.line?, has]
    rfl
  have listed := (consistent.lines_perm found).symm.trans booked
  rw [line] at listed
  have distinct := (listed.map Prod.fst).nodup_iff.mpr (keeps.distinct bridge.middleware)
  have kept : (bridge.table.remove handle).get? other = some another := by
    rw [Table.get?_remove, if_neg different, found']
  have again := (consistent.remove found).mem_lines_iff.mpr ⟨other, another, kept, has', rfl⟩
  exact (List.nodup_cons.mp distinct).1 (List.mem_map.mpr ⟨_, again, rfl⟩)

/-- Dropping a proxy strikes its line out of the book. -/
theorem drop (keeps : KeepsBook id? book) (consistent : bridge.table.Consistent)
    (booked : bridge.Booked id? book) (handle : Handle) : (bridge.drop handle).Booked id? book := by
  unfold Bridge.drop
  cases found : bridge.table.get? handle with
  | none => exact booked
  | some entry =>
      have listed : ((entry.proxy.line? id?).toList ++ (bridge.table.remove handle).lines id?).Perm
          (book bridge.middleware) :=
        (consistent.lines_perm found).symm.trans booked
      change ((bridge.table.remove handle).lines id?).Perm
        (book (Bridge.close bridge.middleware entry.proxy))
      rw [keeps.closed]
      unfold Proxy.line? at listed
      cases has : id? entry.proxy with
      | none =>
          rw [has] at listed
          exact listed
      | some id =>
          rw [has] at listed
          have distinct := (listed.map Prod.fst).nodup_iff.mpr (keeps.distinct bridge.middleware)
          have absent : Dict.get? ((bridge.table.remove handle).lines id?) id = none := by
            have others : id ∉ Dict.keys ((bridge.table.remove handle).lines id?) :=
              (List.nodup_cons.mp distinct).1
            rw [Dict.mem_keys_iff] at others
            simpa using others
          have struck := listed.filter fun line => !decide (line.1 = id)
          rw [Option.map_some, Option.toList_some, List.singleton_append,
            List.filter_cons_of_neg (by simp)] at struck
          rw [← Dict.erase_of_get?_eq_none absent]
          exact struck

theorem dropAll (keeps : KeepsBook id? book) (consistent : bridge.table.Consistent)
    (booked : bridge.Booked id? book) (handles : List Handle) :
    (bridge.dropAll handles).Booked id? book := by
  refine (Bridge.dropAll_induction
    (fun after => after.table.Consistent ∧ after.Booked id? book)
    (fun handle before => ?_) ⟨consistent, booked⟩ handles).2
  exact ⟨Bridge.consistent_drop before.1 handle, keeps.drop before.1 before.2 handle⟩

/-- Every operation keeps the book, also one that fails. -/
theorem perform (keeps : KeepsBook id? book) (consistent : bridge.table.Consistent)
    (booked : bridge.Booked id? book) (operation : Operation) :
    (bridge.perform operation).Booked id? book := by
  -- A proxy that is entered goes to the end of the table, and its line to the end of the book.
  have entered {after : Bridge μ} {handle : Handle} {proxy : Proxy}
      (entries : after.table.entries =
        Dict.insert bridge.table.entries handle ⟨bridge.table.nextGeneration, proxy⟩)
      (fresh : ∃ allocator, bridge.table.allocator.allocate? = some (handle, allocator))
      (opened : book after.middleware = book bridge.middleware ++ (proxy.line? id?).toList) :
      after.Booked id? book := by
    obtain ⟨allocator, allocated⟩ := fresh
    have absent : Dict.get? bridge.table.entries handle = none :=
      consistent.get?_eq_none allocated
    have lines : after.table.lines id? = bridge.table.lines id? ++ (proxy.line? id?).toList := by
      rw [Table.lines, entries, Dict.insert_of_get?_eq_none _ absent, List.filterMap_append,
        List.filterMap_cons]
      cases proxy.line? id? <;> rfl
    rw [Bridge.Booked, lines, opened]
    exact booked.append_right _
  have effect := bridge.rebinds operation
  generalize bridge.perform operation = after at effect ⊢
  cases effect with
  | kept entries middleware none =>
      rw [Bridge.Booked, Table.lines_congr entries, middleware]
      exact booked
  | sent entries middleware none =>
      rw [Bridge.Booked, Table.lines_congr entries, middleware, keeps.published]
      exact booked
  | advertised entries fresh opens none => exact entered entries fresh (keeps.advertised opens rfl)
  | subscribed entries fresh opens none => exact entered entries fresh (keeps.subscribed opens rfl)
  | removed entries middleware =>
      rw [Bridge.Booked, Table.lines_congr entries, middleware]
      exact keeps.dropAll consistent booked _

end KeepsBook

end Books

/-! ## Runs -/

/-- The messaging layer moves by itself only as `moves` says: nobody else uses it. -/
def OnlyUser (moves : μ → μ → Prop) (past : List (Moment μ)) : Prop :=
  ∀ moment ∈ past, ∀ middleware, moment.event = .layer middleware →
    moves moment.world.bridge.middleware middleware

/-- If the messaging layer moves by itself, the move passes a check. -/
def Moment.passes (check : μ → μ → Bool) (moment : Moment μ) : Bool :=
  match moment.event with
  | .layer middleware => check moment.world.bridge.middleware middleware
  | _ => true

theorem OnlyUser.of_passes {past : List (Moment μ)} {moves : μ → μ → Prop} {check : μ → μ → Bool}
    (sound : ∀ {layer moved}, check layer moved = true → moves layer moved)
    (all : past.all (Moment.passes check) = true) : OnlyUser moves past := by
  intro moment member middleware same
  have checked := List.all_eq_true.mp all moment member
  rw [Moment.passes, same] at checked
  exact sound checked

/-- A layer that never moves by itself has no other user. -/
theorem OnlyUser.of_still {past : List (Moment μ)} {moves : μ → μ → Prop}
    (all : past.all (Moment.passes fun _ _ => false) = true) : OnlyUser moves past :=
  of_passes (fun passed => absurd passed Bool.false_ne_true) all

section Runs

variable [Middleware μ] {world after : World μ} {event : Event μ} {moves : μ → μ → Prop}

/-- The messaging layer changes by operations and by moves of its own. -/
theorem World.step_middleware (stepped : world.step event = some after) :
    (∃ operation, event = .operation operation ∧
      after.bridge = world.bridge.perform operation) ∨
    (∃ middleware, event = .layer middleware ∧
      after.bridge = { world.bridge with middleware }) ∨
    ((∀ operation, event ≠ .operation operation) ∧ after.bridge.table = world.bridge.table ∧
      after.bridge.middleware = world.bridge.middleware) := by
  rcases step_table stepped with ⟨operation, same, performed⟩ | ⟨other, table, _⟩
  · exact Or.inl ⟨operation, same, performed⟩
  cases event with
  | operation operation => exact absurd rfl (other operation)
  | layer middleware =>
      cases stepped
      exact Or.inr (Or.inl ⟨middleware, rfl, rfl⟩)
  | deliver subscription payload =>
      cases stepped
      exact Or.inr (Or.inr ⟨other, table, (Bridge.SameLinks.deliver _ subscription payload).middleware⟩)
  | beginDrain =>
      obtain ⟨_, rfl⟩ := step_beginDrain stepped
      exact Or.inr (Or.inr ⟨other, rfl, rfl⟩)
  | take =>
      obtain ⟨_, _, _, _, rfl⟩ := step_take stepped
      refine Or.inr (Or.inr ⟨other, table, ?_⟩)
      rw [bridge_takeNext]
      exact (Bridge.SameLinks.takePending _).middleware
  | finish outcome =>
      obtain ⟨_, _, invocation, _, _, rfl⟩ := step_finish stepped
      exact Or.inr (Or.inr ⟨other, table, (Bridge.SameLinks.finish _ invocation outcome).middleware⟩)
  | endDrain =>
      obtain ⟨_, _, _, rfl⟩ := step_endDrain stepped
      exact Or.inr (Or.inr ⟨other, rfl, rfl⟩)

theorem KeepsBook.step [DecidableEq κ] {id? : Proxy → Option κ} {book : μ → Dict κ String}
    (keeps : KeepsBook id? book)
    (unseen : ∀ {layer moved}, moves layer moved → book moved = book layer)
    (consistent : world.bridge.table.Consistent) (booked : world.bridge.Booked id? book)
    (alone : OnlyUser moves [⟨world, event⟩]) (stepped : world.step event = some after) :
    after.bridge.Booked id? book := by
  rcases World.step_middleware stepped with
    ⟨operation, _, same⟩ | ⟨middleware, rfl, same⟩ | ⟨_, table, middleware⟩
  · rw [same]
    exact keeps.perform consistent booked operation
  · rw [same, Bridge.Booked]
    rw [unseen (alone _ List.mem_cons_self middleware rfl)]
    exact booked
  · rw [Bridge.Booked, table, middleware]
    exact booked

omit [Middleware μ] in
theorem OnlyUser.append {past later : List (Moment μ)} (alone : OnlyUser moves (past ++ later)) :
    OnlyUser moves past ∧ OnlyUser moves later :=
  ⟨fun moment member => alone moment (List.mem_append_left _ member),
    fun moment member => alone moment (List.mem_append_right _ member)⟩

/-- In every run over a layer that nobody else uses, the lines of its book are
those of the live proxies. -/
theorem Run.booked [DecidableEq κ] {id? : Proxy → Option κ} {book : μ → Dict κ String}
    (keeps : KeepsBook id? book)
    (unseen : ∀ {layer moved}, moves layer moved → book moved = book layer)
    {types : Catalog} {config : BridgeConfig} {middleware : μ} (blank : book middleware = [])
    {past : List (Moment μ)} (run : Run (World.fresh types config middleware) past world)
    (alone : OnlyUser moves past) : world.bridge.Booked id? book := by
  induction run with
  | start =>
      change List.Perm _ (book middleware)
      rw [blank]
      exact List.Perm.refl _
  | @next past world after event run stepped ih =>
      obtain ⟨before, last⟩ := alone.append
      exact keeps.step unseen run.consistent_mirrors.1 (ih before) last stepped

/-- Every operation of a messaging layer preserves the property. -/
structure Lasting (holds : μ → Prop) : Prop where
  advertised : ∀ {layer after : μ} {topic typeName options id},
    Middleware.advertise layer topic typeName options = .ok (id, after) →
    holds layer → holds after
  subscribed : ∀ {layer after : μ} {topic typeName options id},
    Middleware.subscribe layer topic typeName options = .ok (id, after) →
    holds layer → holds after
  published : ∀ {layer : μ} id payload, holds layer → holds (Middleware.publish layer id payload)
  closed : ∀ {layer : μ} proxy, holds layer → holds (Bridge.close layer proxy)

namespace Lasting

variable {holds : μ → Prop} (lasting : Lasting holds)

include lasting

theorem dropAll {bridge : Bridge μ} (before : holds bridge.middleware) (handles : List Handle) :
    holds (bridge.dropAll handles).middleware := by
  refine Bridge.dropAll_induction (fun after => holds after.middleware)
    (fun {bridge} handle before => ?_) before handles
  cases found : bridge.table.get? handle with
  | none =>
      rw [Bridge.drop, found]
      exact before
  | some entry =>
      rw [Bridge.middleware_drop found]
      exact lasting.closed _ before

theorem perform {bridge : Bridge μ} (before : holds bridge.middleware) (operation : Operation) :
    holds (bridge.perform operation).middleware := by
  have effect := bridge.rebinds operation
  generalize bridge.perform operation = after at effect ⊢
  cases effect with
  | kept entries middleware none => exact middleware ▸ before
  | sent entries middleware none => exact middleware ▸ lasting.published _ _ before
  | advertised entries fresh opens none => exact lasting.advertised opens before
  | subscribed entries fresh opens none => exact lasting.subscribed opens before
  | removed entries middleware => exact middleware ▸ lasting.dropAll before _

/-- What every operation of a layer and every move of its own preserves holds
after every run. -/
theorem run (owned : ∀ {layer moved}, moves layer moved → holds layer → holds moved)
    {start : World μ} (before : holds start.bridge.middleware) {past : List (Moment μ)}
    (run : Run start past world) (alone : OnlyUser moves past) :
    holds world.bridge.middleware := by
  induction run with
  | start => exact before
  | @next past world after event _ stepped ih =>
      obtain ⟨earlier, last⟩ := alone.append
      rcases World.step_middleware stepped with
        ⟨operation, _, same⟩ | ⟨middleware, rfl, same⟩ | ⟨_, _, same⟩
      · rw [same]
        exact lasting.perform (ih earlier) operation
      · rw [same]
        exact owned (last _ List.mem_cons_self middleware rfl) (ih earlier)
      · rw [same]
        exact ih earlier

end Lasting

end Runs

/-! ## Nothing left -/

/-- The operation removes every proxy. -/
def Operation.clears : Operation → Bool
  | .clear | .shutdown | .unload => true
  | _ => false

theorem Bridge.entries_of_clears [Middleware μ] (bridge : Bridge μ) {operation : Operation}
    (clears : operation.clears = true) : (bridge.perform operation).table.entries = [] := by
  have none : (bridge.dropAll bridge.handles).table.entries = [] := by
    rw [List.eq_nil_iff_forall_not_mem]
    rintro ⟨handle, entry⟩ member
    have listed := (Dict.mem_keys_iff _ handle).mp (List.mem_map_of_mem member)
    have gone : Dict.get? _ handle = none := bridge.get?_dropAll_handles handle
    rw [gone] at listed
    cases listed
  cases operation with
  | clear | shutdown | unload => exact none
  | _ => cases clears

end TopicBridge
