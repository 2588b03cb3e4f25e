import TopicBridge.Proofs.World.Effect

/-!
# What enters and leaves the queue

A delivery offers an invocation to the queue if it reads and its subscriber
incarnation is live, and the queue accepts the offer if it is not full.  What
was accepted departs in one of three ways: it is called, it is discarded because
its subscriber incarnation is gone, or it is flushed by a shutdown.  At every
moment of a run, what was accepted so far is what departed so far followed by
what is queued.
-/

namespace TopicBridge

variable {μ : Type}

namespace Bridge

/-- The invocation that a payload of a subscription stands for, if the payload
can be read and is for a live subscriber incarnation. -/
def offered? (bridge : Bridge μ) (subscription : SubscriptionId) (payload : Bytes) :
    Option Invocation :=
  if bridge.isLoaded then do
    let target ← Dict.get? bridge.targets subscription
    let value ← (target.codec.decode payload).toOption
    let callback ← bridge.table.callbackOf? target.handle target.generation
    return ⟨target.handle, target.generation, callback, value⟩
  else none

/-- The queue takes one more invocation. -/
def hasSpace (bridge : Bridge μ) : Bool :=
  bridge.pending.size < bridge.config.queueCapacity

/-- What a delivery adds to the queue. -/
def accepted (bridge : Bridge μ) (subscription : SubscriptionId) (payload : Bytes) :
    List Invocation :=
  if bridge.hasSpace then (bridge.offered? subscription payload).toList else []

/-- How a delivery ends.  Only the last end touches the queue. -/
inductive Delivery (bridge : Bridge μ) (subscription : SubscriptionId) (payload : Bytes) :
    Bridge μ → Prop
  /-- Nobody receives for the subscription. -/
  | ignored (unheard : bridge.isLoaded = false ∨ Dict.get? bridge.targets subscription = none) :
      Delivery bridge subscription payload bridge
  | unreadable {target : Target} {e : WireError} (loaded : bridge.isLoaded = true)
      (found : Dict.get? bridge.targets subscription = some target)
      (failed : target.codec.decode payload = .error e) :
      Delivery bridge subscription payload { bridge with
        counters := { bridge.counters with
          delivered := bridge.counters.delivered + 1
          decodeFailures := bridge.counters.decodeFailures + 1 }
        reports := bridge.reports.push (.unreadable target.handle e) }
  | gone {target : Target} {value : Value} (loaded : bridge.isLoaded = true)
      (found : Dict.get? bridge.targets subscription = some target)
      (decoded : target.codec.decode payload = .ok value)
      (absent : bridge.table.callbackOf? target.handle target.generation = none) :
      Delivery bridge subscription payload { bridge with
        counters := { bridge.counters with
          delivered := bridge.counters.delivered + 1
          droppedUnknown := bridge.counters.droppedUnknown + 1 } }
  | full {invocation : Invocation} (offer : bridge.offered? subscription payload = some invocation)
      (space : bridge.hasSpace = false) :
      Delivery bridge subscription payload { bridge with
        counters := { bridge.counters with
          delivered := bridge.counters.delivered + 1
          droppedQueueFull := bridge.counters.droppedQueueFull + 1 }
        reports := bridge.reports.push (.queueFull invocation.handle) }
  | queued {invocation : Invocation}
      (offer : bridge.offered? subscription payload = some invocation)
      (space : bridge.hasSpace = true) :
      Delivery bridge subscription payload { bridge with
        pending := bridge.pending.push invocation
        counters := { bridge.counters with
          delivered := bridge.counters.delivered + 1
          enqueued := bridge.counters.enqueued + 1 } }

/-- Every delivery ends in one of these ways. -/
theorem delivery (bridge : Bridge μ) (subscription : SubscriptionId) (payload : Bytes) :
    bridge.Delivery subscription payload (bridge.deliver subscription payload) := by
  unfold deliver
  cases loaded : bridge.isLoaded with
  | false => exact .ignored (Or.inl loaded)
  | true =>
      rw [if_pos rfl]
      cases found : Dict.get? bridge.targets subscription with
      | none => exact .ignored (Or.inr found)
      | some target =>
          dsimp only [receive]
          cases decoded : target.codec.decode payload with
          | error e => exact .unreadable loaded found decoded
          | ok value =>
              dsimp only [count]
              cases live : bridge.table.callbackOf? target.handle target.generation with
              | none => exact .gone loaded found decoded live
              | some callback =>
                  have offer : bridge.offered? subscription payload =
                      some ⟨target.handle, target.generation, callback, value⟩ := by
                    simp [offered?, loaded, found, decoded, live, Except.toOption]
                  dsimp only [enqueue]
                  cases space : bridge.hasSpace with
                  | false =>
                      rw [if_neg (by simpa [hasSpace] using space)]
                      exact .full offer space
                  | true =>
                      rw [if_pos (by simpa [hasSpace] using space)]
                      exact .queued offer space

@[simp]
theorem table_deliver (bridge : Bridge μ) (subscription : SubscriptionId) (payload : Bytes) :
    (bridge.deliver subscription payload).table = bridge.table := by
  have outcome := bridge.delivery subscription payload
  generalize bridge.deliver subscription payload = after at outcome ⊢
  cases outcome <;> rfl

@[simp]
theorem targets_deliver (bridge : Bridge μ) (subscription : SubscriptionId) (payload : Bytes) :
    (bridge.deliver subscription payload).targets = bridge.targets := by
  have outcome := bridge.delivery subscription payload
  generalize bridge.deliver subscription payload = after at outcome ⊢
  cases outcome <;> rfl

/-- A delivery puts what it adds behind everything that is queued. -/
theorem toList_pending_deliver (bridge : Bridge μ) (subscription : SubscriptionId)
    (payload : Bytes) :
    (bridge.deliver subscription payload).pending.toList =
      bridge.pending.toList ++ bridge.accepted subscription payload := by
  unfold accepted
  have outcome := bridge.delivery subscription payload
  generalize bridge.deliver subscription payload = after at outcome ⊢
  cases outcome with
  | ignored unheard => rcases unheard with unloaded | unheard <;> simp [offered?, *]
  | unreadable loaded found failed => simp [offered?, loaded, found, failed, Except.toOption]
  | gone loaded found decoded absent => simp [offered?, loaded, found, decoded, absent]
  | full offer space => simp [space]
  | queued offer space => simp [offer, space]

/-- An invocation that is offered is for a live subscriber, carries its callback
and what its codec reads off the payload. -/
theorem of_offered? {bridge : Bridge μ} {subscription : SubscriptionId} {payload : Bytes}
    {invocation : Invocation} (offer : bridge.offered? subscription payload = some invocation) :
    ∃ codec,
      Dict.get? bridge.targets subscription =
        some ⟨invocation.handle, invocation.generation, codec⟩ ∧
      codec.decode payload = .ok invocation.payload ∧
      bridge.table.callbackOf? invocation.handle invocation.generation =
        some invocation.callback := by
  unfold offered? at offer
  split at offer
  · obtain ⟨⟨handle, generation, codec⟩, found, offer⟩ := Option.bind_eq_some_iff.mp offer
    obtain ⟨value, decoded, offer⟩ := Option.bind_eq_some_iff.mp offer
    obtain ⟨callback, live, offer⟩ := Option.bind_eq_some_iff.mp offer
    cases offer
    refine ⟨codec, found, ?_, live⟩
    cases read : codec.decode payload with
    | error e => simp [read, Except.toOption] at decoded
    | ok other => simpa [read, Except.toOption] using decoded
  · simp at offer

/-- So is one that is accepted. -/
theorem of_mem_accepted {bridge : Bridge μ} {subscription : SubscriptionId} {payload : Bytes}
    {invocation : Invocation} (member : invocation ∈ bridge.accepted subscription payload) :
    ∃ codec,
      Dict.get? bridge.targets subscription =
        some ⟨invocation.handle, invocation.generation, codec⟩ ∧
      codec.decode payload = .ok invocation.payload ∧
      bridge.table.callbackOf? invocation.handle invocation.generation =
        some invocation.callback := by
  apply of_offered?
  unfold accepted at member
  split at member
  · simpa using member
  · simp at member

/-- What looking at the front of the queue finds and does. -/
inductive Taking (bridge : Bridge μ) : Taken × Bridge μ → Prop
  | nothing (empty : bridge.pending.toList = []) : Taking bridge (.nothing, bridge)
  | stale {invocation : Invocation} {rest : Queue Invocation}
      (popped : bridge.pending.pop? = some (invocation, rest))
      (gone : bridge.isLive invocation = false) :
      Taking bridge (.stale, { bridge with
        pending := rest
        counters := { bridge.counters with
          discardedStale := bridge.counters.discardedStale + 1 } })
  | due {invocation : Invocation} {rest : Queue Invocation}
      (popped : bridge.pending.pop? = some (invocation, rest))
      (live : bridge.isLive invocation = true) :
      Taking bridge (.due invocation, { bridge with pending := rest })

theorem taking (bridge : Bridge μ) : bridge.Taking bridge.takePending := by
  unfold takePending
  cases popped : bridge.pending.pop? with
  | none => exact .nothing (bridge.pending.pop?_eq_none_iff.mp popped)
  | some taken =>
      obtain ⟨invocation, rest⟩ := taken
      have sameTable : ({ bridge with pending := rest } : Bridge μ).isLive invocation =
          bridge.isLive invocation := rfl
      dsimp only
      cases live : bridge.isLive invocation with
      | false =>
          rw [if_neg (by rw [sameTable, live]; exact Bool.false_ne_true)]
          exact .stale popped live
      | true =>
          rw [if_pos (sameTable.trans live)]
          exact .due popped live

@[simp]
theorem table_takePending (bridge : Bridge μ) :
    bridge.takePending.2.table = bridge.table := by
  have found := bridge.taking
  generalize bridge.takePending = taken at found ⊢
  cases found <;> rfl

@[simp]
theorem targets_takePending (bridge : Bridge μ) :
    bridge.takePending.2.targets = bridge.targets := by
  have found := bridge.taking
  generalize bridge.takePending = taken at found ⊢
  cases found <;> rfl

@[simp]
theorem table_finish (bridge : Bridge μ) (invocation : Invocation)
    (outcome : Except String Unit) : (bridge.finish invocation outcome).table = bridge.table := by
  cases outcome <;> rfl

@[simp]
theorem targets_finish (bridge : Bridge μ) (invocation : Invocation)
    (outcome : Except String Unit) :
    (bridge.finish invocation outcome).targets = bridge.targets := by
  cases outcome <;> rfl

@[simp]
theorem pending_finish (bridge : Bridge μ) (invocation : Invocation)
    (outcome : Except String Unit) :
    (bridge.finish invocation outcome).pending = bridge.pending := by
  cases outcome <;> rfl

/-- A drain that may take one more invocation goes on with what it finds at the front
of the queue, and is over if it finds nothing. -/
theorem drainUpTo_succ {η : Type}
    (call : Invocation → Bridge μ × η → Except String Unit × Bridge μ × η) (budget : Nat)
    (report : DrainReport) (bridge : Bridge μ) (host : η) :
    drainUpTo call (budget + 1) report (bridge, host) =
      match bridge.takePending with
      | (.nothing, next) => (report, next, host)
      | (.stale, next) =>
          drainUpTo call budget { report with discarded := report.discarded + 1 } (next, host)
      | (.due invocation, next) =>
          let (outcome, after, host) := call invocation (next, host)
          drainUpTo call budget (report.finish outcome)
            (after.finish invocation outcome, host) := by
  rw [drainUpTo, takeNext]
  rcases bridge.takePending with ⟨taken, next⟩
  cases taken with
  | nothing => rfl
  | stale => cases budget <;> rfl
  | due invocation => rfl

end Bridge

/-- How an invocation leaves the queue. -/
inductive Departure where
  /-- A drain took it and called its callback. -/
  | called
  /-- A drain took it, and its subscriber incarnation was gone. -/
  | discarded
  /-- A shutdown dropped it. -/
  | flushed
  deriving DecidableEq

namespace Moment

/-- What the event adds to the queue. -/
def accepted (moment : Moment μ) : List Invocation :=
  match moment.event with
  | .deliver subscription payload => moment.world.bridge.accepted subscription payload
  | _ => []

/-- The invocation whose callback the event calls. -/
def call? (moment : Moment μ) : Option Invocation :=
  match moment.event with
  | .take =>
      match moment.world.bridge.takePending.1 with
      | .due invocation => some invocation
      | _ => none
  | _ => none

/-- What the event takes off the queue. -/
def departed (moment : Moment μ) : List (Invocation × Departure) :=
  match moment.event with
  | .take =>
      match moment.world.bridge.pending.pop? with
      | none => []
      | some (invocation, _) =>
          [(invocation,
            if moment.world.bridge.isLive invocation then .called else .discarded)]
  | .operation operation =>
      if operation.flushes then
        moment.world.bridge.pending.toList.map fun invocation => (invocation, .flushed)
      else []
  | _ => []

end Moment

@[simp]
theorem World.bridge_takeNext (bridge : Bridge μ) (budget : Nat) (report : DrainReport)
    (outer : List Drain) : (takeNext bridge budget report outer).bridge = bridge.takePending.2 := by
  unfold takeNext Bridge.takeNext
  rcases bridge.takePending with ⟨_ | _ | _, _⟩ <;> rfl

/-- An event neither loses nor reorders what is queued: what was queued and what
it adds is what it takes off followed by what is queued after it. -/
theorem World.pending_step [Middleware μ] {world after : World μ} {event : Event μ}
    (stepped : world.step event = some after) :
    world.bridge.pending.toList ++ (Moment.mk world event).accepted =
      (Moment.mk world event).departed.map Prod.fst ++ after.bridge.pending.toList := by
  cases event with
  | operation operation =>
      obtain ⟨_, rfl⟩ := step_operation stepped
      rw [Bridge.toList_pending_perform]
      cases flushes : operation.flushes <;>
        simp [Moment.accepted, Moment.departed, flushes, Function.comp_def]
  | deliver subscription payload =>
      cases stepped
      simp [Moment.accepted, Moment.departed, Bridge.toList_pending_deliver]
  | layer middleware =>
      cases stepped
      simp [Moment.accepted, Moment.departed]
  | beginDrain =>
      obtain ⟨_, rfl⟩ := step_beginDrain stepped
      simp [Moment.accepted, Moment.departed]
  | take =>
      obtain ⟨budget, report, outer, _, rfl⟩ := step_take stepped
      simp only [Moment.accepted, Moment.departed, List.append_nil, bridge_takeNext]
      have found := world.bridge.taking
      generalize world.bridge.takePending = taken at found ⊢
      cases found with
      | nothing empty => simp [(Queue.pop?_eq_none_iff _).mpr empty]
      | stale popped gone => simp [popped, Queue.toList_of_pop? popped]
      | due popped live => simp [popped, Queue.toList_of_pop? popped]
  | finish outcome =>
      obtain ⟨budget, report, invocation, outer, _, rfl⟩ := step_finish stepped
      simp [Moment.accepted, Moment.departed]
  | endDrain =>
      obtain ⟨report, outer, _, rfl⟩ := step_endDrain stepped
      simp [Moment.accepted, Moment.departed]

/-- At every moment of a run, what was accepted is what departed followed by
what is queued. -/
theorem Run.accepted_eq [Middleware μ] {start world : World μ} {past : List (Moment μ)}
    (run : Run start past world) :
    start.bridge.pending.toList ++ past.flatMap Moment.accepted =
      (past.flatMap Moment.departed).map Prod.fst ++ world.bridge.pending.toList := by
  induction run with
  | start => simp
  | @next past world after event _ stepped ih =>
      have balance := World.pending_step stepped
      calc
        start.bridge.pending.toList ++ (past ++ [Moment.mk world event]).flatMap Moment.accepted =
            (start.bridge.pending.toList ++ past.flatMap Moment.accepted) ++
              (Moment.mk world event).accepted := by simp
        _ = (past.flatMap Moment.departed).map Prod.fst ++
              (world.bridge.pending.toList ++ (Moment.mk world event).accepted) := by
            rw [ih, List.append_assoc]
        _ = (past.flatMap Moment.departed).map Prod.fst ++
              ((Moment.mk world event).departed.map Prod.fst ++
                after.bridge.pending.toList) := by rw [balance]
        _ = ((past ++ [Moment.mk world event]).flatMap Moment.departed).map Prod.fst ++
              after.bridge.pending.toList := by simp

end TopicBridge
