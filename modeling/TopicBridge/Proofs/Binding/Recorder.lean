import TopicBridge.Proofs.Binding.Book
import TopicBridge.Proofs.Bus.Ledger

/-!
# Proxies over a recorder

A recorder marks the subscriptions that are cancelled and forgets none.  Those
that listen to a topic are the subscriptions of the live subscribers on it, and
those that are cancelled are as many as the subscribers that were destroyed.
-/

namespace TopicBridge

namespace Recorder

/-- The subscriptions that are not cancelled. -/
def openSubscriptions (recorder : Recorder) : Dict SubscriptionId String :=
  openFrom SubscriptionId.mk (fun listener => !listener.isCancelled) (·.topic) 0 recorder.listeners

/-- What a recorder does besides the operations of the bridge: an observer asks
it something, or switches it off or on. -/
def MovesOn (recorder after : Recorder) : Prop :=
  ∃ request, after = (recorder.steer request).2.2

theorem MovesOn.frame {recorder after : Recorder} (moves : recorder.MovesOn after) :
    after = { recorder with isUnavailable := after.isUnavailable } := by
  obtain ⟨request, rfl⟩ := moves
  cases request <;> rfl

theorem MovesOn.listeners {recorder after : Recorder} (moves : recorder.MovesOn after) :
    after.listeners = recorder.listeners := by
  rw [moves.frame]

/-- Only what listens decides what is open and what is cancelled. -/
theorem congr {recorder after : Recorder} (same : after.listeners = recorder.listeners) :
    after.openSubscriptions = recorder.openSubscriptions ∧
      after.cancelledCount = recorder.cancelledCount := by
  simp [openSubscriptions, cancelledCount, same]

theorem advertise_eq_ok {recorder after : Recorder} {topic typeName : String}
    {options : AdvertiseOptions} {id : PublicationId}
    (advertised : recorder.advertise topic typeName options = .ok (id, after)) :
    id = ⟨recorder.advertised.length⟩ ∧
      after = { recorder with
        advertised := recorder.advertised ++ [⟨topic, typeName, options⟩] } := by
  unfold advertise at advertised
  split at advertised
  · cases advertised
  · cases advertised
    exact ⟨rfl, rfl⟩

theorem subscribe_eq_ok {recorder after : Recorder} {topic : String} {options : SubscribeOptions}
    {id : SubscriptionId} (subscribed : recorder.subscribe topic options = .ok (id, after)) :
    id = ⟨recorder.listeners.length⟩ ∧
      after = { recorder with
        listeners := recorder.listeners ++ [{ topic, options }] } := by
  unfold subscribe at subscribed
  split at subscribed
  · cases subscribed
  · cases subscribed
    exact ⟨rfl, rfl⟩

theorem publish_frame (recorder : Recorder) (id : PublicationId) (payload : Bytes) :
    recorder.publish id payload =
      { recorder with published := (recorder.publish id payload).published } := by
  unfold publish
  split <;> rfl

theorem listeners_publish (recorder : Recorder) (id : PublicationId) (payload : Bytes) :
    (recorder.publish id payload).listeners = recorder.listeners := by
  rw [publish_frame]

/-- Closing a proxy concerns nothing but what listens. -/
theorem close_frame (recorder : Recorder) (proxy : Proxy) :
    Bridge.close recorder proxy =
      { recorder with listeners := (Bridge.close recorder proxy).listeners } := by
  cases proxy <;> rfl

theorem openSubscriptions_cancel (recorder : Recorder) (id : SubscriptionId) :
    (recorder.cancel id).openSubscriptions = Dict.erase recorder.openSubscriptions id := by
  obtain ⟨number⟩ := id
  have distinct : ∀ n m, SubscriptionId.mk n = SubscriptionId.mk m → n = m :=
    fun _ _ => congrArg SubscriptionId.number
  cases found : recorder.listeners[number]? with
  | some listener => exact openFrom_zero_close _ _ distinct found rfl
  | none =>
      have outside := List.getElem?_eq_none_iff.mp found
      have absent : Dict.get? recorder.openSubscriptions ⟨number⟩ = none :=
        get?_openFrom_eq_none _ _ distinct (Or.inr (by simpa using outside))
      rw [Dict.erase_of_get?_eq_none absent]
      exact (congr (List.modify_eq_self outside)).1

theorem mem_openSubscriptions_iff {recorder : Recorder} {id : SubscriptionId} {topic : String} :
    (id, topic) ∈ recorder.openSubscriptions ↔
      ∃ listener, recorder.listeners[id.number]? = some listener ∧
        (!listener.isCancelled) = true ∧ listener.topic = topic :=
  mem_openFrom_zero_iff _ _ fun _ _ => congrArg SubscriptionId.number

/-- A recorder keeps a book of its subscriptions. -/
theorem keepsBook : KeepsBook Proxy.subscription? openSubscriptions where
  distinct := fun layer => nodup_openFrom _ _ (fun _ _ => congrArg SubscriptionId.number) _ _
  advertised := by
    intro layer after topic typeName options publisher opens _
    obtain ⟨_, rfl⟩ := advertise_eq_ok opens
    exact (List.append_nil _).symm
  subscribed := by
    rintro layer after topic typeName options subscriber opens rfl
    obtain ⟨last, rfl⟩ := subscribe_eq_ok opens
    rw [openSubscriptions, openFrom_append _ _ _ _ _ rfl, Nat.zero_add, ← last]
    rfl
  published := fun layer id payload => (congr (layer.listeners_publish id payload)).1
  closed := by
    intro layer proxy
    cases proxy with
    | publisher publisher => rfl
    | subscriber subscriber => exact layer.openSubscriptions_cancel subscriber.subscription

/-- Those that listen to a topic are those that are open on it. -/
theorem listening_eq (recorder : Recorder) (topic : String) :
    recorder.listening topic =
      (recorder.openSubscriptions.filter fun line => line.2 = topic).map Prod.fst := by
  rw [listening, openSubscriptions]
  generalize 0 = start
  induction recorder.listeners generalizing start with
  | nil => rfl
  | cons listener rest ih =>
      rw [List.zipIdx_cons, List.filterMap_cons, ih, openFrom]
      cases cancelled : listener.isCancelled with
      | true => simp [Listener.listensTo, cancelled]
      | false =>
          by_cases own : listener.topic = topic <;> simp [Listener.listensTo, cancelled, own]

/-! ## What was cancelled -/

/-- Cancelling counts once, for a subscription that is open. -/
theorem cancelledCount_cancel {recorder : Recorder} {id : SubscriptionId} {topic : String}
    (listed : (id, topic) ∈ recorder.openSubscriptions) :
    (recorder.cancel id).cancelledCount = recorder.cancelledCount + 1 := by
  obtain ⟨listener, found, isOpen, _⟩ := mem_openSubscriptions_iff.mp listed
  obtain ⟨before, after, parted, changed⟩ :=
    Bus.modify_split (fun listener => { listener with isCancelled := true }) found
  rw [Bool.not_eq_true'] at isOpen
  rw [cancelledCount, cancelledCount, cancel, changed, parted, List.countP_append,
    List.countP_append, List.countP_cons, List.countP_cons, isOpen]
  simp
  omega

/-- Cancelling again changes nothing. -/
theorem cancel_cancel (recorder : Recorder) (id : SubscriptionId) :
    (recorder.cancel id).cancel id = recorder.cancel id := by
  rw [cancel, cancel, List.modify_modify_eq]
  rfl

end Recorder

/-! ## Destroyed proxies -/

section Destroyed

variable {μ : Type}

/-- The live proxies under handles. -/
def Bridge.proxiesUnder (bridge : Bridge μ) (handles : List Handle) : List Proxy :=
  handles.filterMap fun handle => (bridge.table.get? handle).map Entry.proxy

/-- The proxies that a moment destroys. -/
def Moment.destroys (moment : Moment μ) : List Proxy :=
  match moment.event with
  | .operation operation =>
      moment.world.bridge.proxiesUnder (moment.world.bridge.removes operation)
  | _ => []

/-- The proxies that were destroyed, oldest first. -/
def destroyedIn (past : List (Moment μ)) : List Proxy :=
  past.flatMap Moment.destroys

/-- The number of subscribers that were destroyed. -/
def subscribersDestroyedIn (past : List (Moment μ)) : Nat :=
  (destroyedIn past).countP fun proxy => proxy.kind = .subscriber

theorem subscribersDestroyedIn_append (past later : List (Moment μ)) :
    subscribersDestroyedIn (past ++ later) =
      subscribersDestroyedIn past + subscribersDestroyedIn later := by
  rw [subscribersDestroyedIn, destroyedIn, List.flatMap_append, List.countP_append]
  rfl

theorem subscribersDestroyedIn_single (moment : Moment μ) :
    subscribersDestroyedIn [moment] = moment.destroys.countP fun proxy => proxy.kind = .subscriber := by
  rw [subscribersDestroyedIn, destroyedIn, List.flatMap_cons, List.flatMap_nil, List.append_nil]

theorem Moment.destroys_of_other {world : World μ} {event : Event μ}
    (other : ∀ operation, event ≠ .operation operation) : (Moment.mk world event).destroys = [] := by
  cases event with
  | operation operation => exact absurd rfl (other operation)
  | _ => rfl

theorem Bridge.proxiesUnder_drop [Middleware μ] (bridge : Bridge μ) {handle : Handle}
    {handles : List Handle} (apart : handle ∉ handles) :
    (bridge.drop handle).proxiesUnder handles = bridge.proxiesUnder handles := by
  induction handles with
  | nil => rfl
  | cons other rest ih =>
      obtain ⟨different, apart⟩ := not_or.mp (mt List.mem_cons.mpr apart)
      rw [proxiesUnder] at ih ⊢
      rw [List.filterMap_cons, ih apart, get?_drop, if_neg different]
      rfl

end Destroyed

namespace Recorder

variable {bridge : Bridge Recorder}

/-- The subscription of a live subscriber is open. -/
theorem mem_openSubscriptions (consistent : bridge.table.Consistent)
    (booked : bridge.Booked Proxy.subscription? openSubscriptions) {handle : Handle}
    {generation : Nat} {subscriber : Subscriber}
    (found : bridge.table.get? handle = some ⟨generation, .subscriber subscriber⟩) :
    (subscriber.subscription, subscriber.topic) ∈ bridge.middleware.openSubscriptions :=
  booked.mem_iff.mp (consistent.mem_lines_iff.mpr ⟨handle, _, found, rfl, rfl⟩)

theorem cancelledCount_drop (consistent : bridge.table.Consistent)
    (booked : bridge.Booked Proxy.subscription? openSubscriptions) (handle : Handle) :
    (bridge.drop handle).middleware.cancelledCount = bridge.middleware.cancelledCount +
      (bridge.proxiesUnder [handle]).countP fun proxy => proxy.kind = .subscriber := by
  cases found : bridge.table.get? handle with
  | none => simp [Bridge.drop, Bridge.proxiesUnder, found]
  | some entry =>
      rw [Bridge.middleware_drop found]
      obtain ⟨generation, proxy⟩ := entry
      cases proxy with
      | publisher publisher => simp [Bridge.proxiesUnder, found, Bridge.close, Proxy.kind, Middleware.withdraw]
      | subscriber subscriber =>
          have counted := cancelledCount_cancel (mem_openSubscriptions consistent booked found)
          rw [Bridge.close, Bridge.proxiesUnder, List.filterMap_cons, found]
          exact counted

/-- As many subscriptions are cancelled as subscribers are dropped. -/
theorem cancelledCount_dropAll (consistent : bridge.table.Consistent)
    (booked : bridge.Booked Proxy.subscription? openSubscriptions) {handles : List Handle}
    (distinct : handles.Nodup) :
    (bridge.dropAll handles).middleware.cancelledCount = bridge.middleware.cancelledCount +
      (bridge.proxiesUnder handles).countP fun proxy => proxy.kind = .subscriber := by
  induction handles generalizing bridge with
  | nil => rfl
  | cons handle rest ih =>
      obtain ⟨apart, distinct⟩ := List.nodup_cons.mp distinct
      have parted : bridge.proxiesUnder (handle :: rest) =
          bridge.proxiesUnder [handle] ++ bridge.proxiesUnder rest :=
        List.filterMap_append (l := [handle])
      rw [Bridge.dropAll_cons, ih (Bridge.consistent_drop consistent handle)
        (keepsBook.drop consistent booked handle) distinct, cancelledCount_drop consistent booked,
        Bridge.proxiesUnder_drop bridge apart, parted, List.countP_append, Nat.add_assoc]

theorem cancelledCount_perform (consistent : bridge.table.Consistent)
    (booked : bridge.Booked Proxy.subscription? openSubscriptions) (operation : Operation) :
    (bridge.perform operation).middleware.cancelledCount = bridge.middleware.cancelledCount +
      (bridge.proxiesUnder (bridge.removes operation)).countP
        fun proxy => proxy.kind = .subscriber := by
  have unchanged {after : Recorder} (same : after.cancelledCount = bridge.middleware.cancelledCount)
      (none : bridge.removes operation = []) : after.cancelledCount =
        bridge.middleware.cancelledCount + (bridge.proxiesUnder (bridge.removes operation)).countP
          fun proxy => proxy.kind = .subscriber := by
    rw [same, none]
    rfl
  have removes := (bridge.removes_spec consistent operation).1
  have effect := bridge.rebinds operation
  generalize bridge.perform operation = after at effect ⊢
  cases effect with
  | kept entries middleware none => exact unchanged (by rw [middleware]) none
  | sent entries middleware none =>
      refine unchanged ?_ none
      rw [middleware]
      exact (congr (listeners_publish _ _ _)).2
  | advertised entries fresh opens none =>
      refine unchanged ?_ none
      rw [(advertise_eq_ok opens).2]
      rfl
  | subscribed entries fresh opens none =>
      refine unchanged ?_ none
      rw [cancelledCount, (subscribe_eq_ok opens).2, List.countP_append]
      rfl
  | removed entries middleware =>
      rw [middleware]
      exact cancelledCount_dropAll consistent booked removes

/-! ## Runs -/

variable {types : Catalog} {config : BridgeConfig} {past : List (Moment Recorder)}
  {world : World Recorder}

/-- The subscriptions that are open in a recorder are those of the live
subscribers. -/
theorem booked (run : Run (World.fresh types config ({} : Recorder)) past world)
    (alone : OnlyUser MovesOn past) : world.bridge.Booked Proxy.subscription? openSubscriptions :=
  run.booked keepsBook (fun moves => (congr moves.listeners).1) rfl alone

/-- As many subscriptions are cancelled as subscribers were destroyed. -/
theorem cancelledCount_eq (run : Run (World.fresh types config ({} : Recorder)) past world)
    (alone : OnlyUser MovesOn past) :
    world.bridge.middleware.cancelledCount = subscribersDestroyedIn past := by
  induction run with
  | start => rfl
  | @next past world after event run stepped ih =>
      obtain ⟨before, last⟩ := alone.append
      rw [subscribersDestroyedIn_append, subscribersDestroyedIn_single, ← ih before]
      rcases World.step_middleware stepped with
        ⟨operation, rfl, same⟩ | ⟨middleware, rfl, same⟩ | ⟨other, table, same⟩
      · rw [same, cancelledCount_perform run.consistent_mirrors.1 (booked run before)]
        rfl
      · rw [same]
        exact (congr (last _ List.mem_cons_self middleware rfl).listeners).2
      · rw [same, Moment.destroys_of_other other]
        rfl

end Recorder

end TopicBridge
