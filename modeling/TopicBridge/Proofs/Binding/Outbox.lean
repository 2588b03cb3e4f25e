import TopicBridge.Proofs.Lifetime.Reissue

/-!
# What handles publish

Who sees only the operations on a bridge and their outcomes knows for every handle
what the latest creation under it was for: a publisher on some topic, with the codec
that its type stood for, or a subscriber.  From this and from the publish calls that
succeed follows what was sent, and in which order.
-/

namespace TopicBridge

variable {μ : Type}

/-! ## The outbox -/

/-- The topic that a handle publishes on, and the codec that writes its values. -/
abbrev Post := String × Codec

/-- What the live proxy is for: a subscriber publishes nothing. -/
def Proxy.post? : Proxy → Option Post
  | publisher p => some (p.topic, p.codec)
  | subscriber _ => none

/-- What the operation creates a publisher for. -/
def Bridge.offers? (bridge : Bridge μ) : Operation → Option Post
  | .createPublisher _ topic typeName _ =>
      (bridge.types.lookup typeName).toOption.map fun codec => (topic, codec)
  | _ => none

/-- The handle that a call publishes on. -/
def Operation.publishesOn? : Operation → Option Handle
  | .publish handle _ => some handle
  | .publishValue handle _ => some handle
  | _ => none

/-- The payload that a publish call stands for: a payload is sent as it is, a value
as the codec writes it. -/
def Operation.payload? (codec : Codec) : Operation → Option Bytes
  | .publish _ payload => some payload
  | .publishValue _ value => (codec.encode value).toOption
  | _ => none

/-- What an observer has put down: what the latest creation under each handle was
for, and every message that was sent. -/
structure Outbox where
  posts : Handle → Option Post := fun _ => none
  sent : List (String × Bytes) := []

/-- The message that a publish call stands for. -/
def Outbox.message? (outbox : Outbox) (operation : Operation) : Option (String × Bytes) := do
  let handle ← operation.publishesOn?
  let (topic, codec) ← outbox.posts handle
  let payload ← operation.payload? codec
  return (topic, payload)

section Observing

variable [Middleware μ]

/-- The operation is a publish call that succeeds. -/
def Bridge.publishes (bridge : Bridge μ) (operation : Operation) : Bool :=
  operation.publishesOn?.isSome && (bridge.outcome operation).isOk

/-- The event is a publish call that succeeds. -/
def Moment.publishes (moment : Moment μ) : Bool :=
  match moment.event with
  | .operation operation => moment.world.bridge.publishes operation
  | _ => false

/-- Put down a moment. -/
def Moment.post (outbox : Outbox) (moment : Moment μ) : Outbox :=
  match moment.event with
  | .operation operation =>
      { posts := fun handle =>
          if moment.issued? = some handle then moment.world.bridge.offers? operation
          else outbox.posts handle
        sent := outbox.sent ++
          if moment.publishes then (outbox.message? operation).toList else [] }
  | _ => outbox

/-- The outbox of a run that started without proxies. -/
def outboxOf (past : List (Moment μ)) : Outbox :=
  past.foldl Moment.post {}

theorem outboxOf_snoc (past : List (Moment μ)) (last : Moment μ) :
    outboxOf (past ++ [last]) = last.post (outboxOf past) := by
  rw [outboxOf, List.foldl_append]
  rfl

end Observing

/-! ## What handles are for -/

/-- Every live proxy is what the latest creation under its handle was for. -/
def Bridge.Posted (bridge : Bridge μ) (posts : Handle → Option Post) : Prop :=
  ∀ handle entry, bridge.table.get? handle = some entry → posts handle = entry.proxy.post?

section Posting

variable [Middleware μ] {bridge : Bridge μ} {operation : Operation}

/-- A creation that succeeds opens what it is for. -/
theorem Bridge.offers_of_outcome {handle : Handle}
    (opened : bridge.outcome operation = .ok (some handle)) :
    ∃ allocator middleware proxy targets,
      bridge.perform operation = bridge.opened handle allocator middleware proxy targets ∧
        bridge.offers? operation = proxy.post? := by
  obtain ⟨allocator, middleware, proxy, targets, _, performed, created⟩ :=
    Bridge.opened_of_outcome opened
  refine ⟨allocator, middleware, proxy, targets, performed, ?_⟩
  rcases created with ⟨_, _, _, _, _, _, rfl, known, rfl⟩ | ⟨_, _, _, _, _, _, rfl, rfl⟩
  · rw [offers?, known]
    rfl
  · rfl

/-- Every event keeps the posts right. -/
theorem World.posted_step {world after : World μ} {event : Event μ} {outbox : Outbox}
    (posted : world.bridge.Posted outbox.posts) (stepped : world.step event = some after) :
    after.bridge.Posted (Moment.post outbox ⟨world, event⟩).posts := by
  intro handle entry found
  rcases World.step_table stepped with ⟨operation, rfl, same⟩ | ⟨other, table, _⟩
  · rw [same] at found
    change (if _ then _ else _) = _
    by_cases issues : ∃ drawn, world.bridge.outcome operation = .ok (some drawn)
    · obtain ⟨drawn, opened⟩ := issues
      have issued : (Moment.mk world (.operation operation)).issued? = some drawn :=
        Moment.issued?_eq_some_iff.mpr ⟨operation, rfl, opened⟩
      obtain ⟨_, _, proxy, _, performed, offers⟩ := Bridge.offers_of_outcome opened
      rw [performed, Bridge.get?_opened] at found
      rw [issued]
      by_cases own : drawn = handle
      · rw [if_pos own] at found
        rw [if_pos (congrArg some own), offers, ← Option.some.inj found]
      · rw [if_neg own] at found
        rw [if_neg fun same => own (Option.some.inj same), posted _ _ found]
    · have none : ∀ drawn, world.bridge.outcome operation ≠ .ok (some drawn) :=
        fun drawn opened => issues ⟨drawn, opened⟩
      rw [world.bridge.get?_perform_of_removes none] at found
      split at found
      · cases found
      · rw [if_neg, posted _ _ found]
        intro issued
        obtain ⟨_, same, opened⟩ := Moment.issued?_eq_some_iff.mp issued
        cases same
        exact none handle opened
  · rw [table] at found
    cases event with
    | operation operation => exact absurd rfl (other operation)
    | _ => exact posted _ _ found

end Posting

/-! ## What publish calls answer -/

namespace Bridge

variable [Middleware μ] (bridge : Bridge μ) {operation : Operation} {handle : Handle}

/-- The operation fails and changes nothing. -/
def Fails (operation : Operation) (e : BridgeError) : Prop :=
  bridge.outcome operation = .error e ∧ bridge.perform operation = bridge

variable {bridge}

theorem fails_of_absent (target : operation.publishesOn? = some handle)
    (absent : bridge.table.get? handle = none) :
    bridge.Fails operation (.unknownHandle handle) := by
  cases operation with
  | publish | publishValue =>
      cases target
      constructor <;>
        simp [outcome, perform, publish, publishValue, findPublisher, find, absent, bind,
          Except.bind, Except.map]
  | _ => cases target

theorem fails_of_subscriber (target : operation.publishesOn? = some handle) {generation : Nat}
    {subscriber : Subscriber}
    (found : bridge.table.get? handle = some ⟨generation, .subscriber subscriber⟩) :
    bridge.Fails operation (.wrongKind handle .publisher .subscriber) := by
  cases operation with
  | publish | publishValue =>
      cases target
      constructor <;>
        simp [outcome, perform, publish, publishValue, findPublisher, find, found, bind,
          Except.bind, Except.map]
  | _ => cases target

/-- On a publisher a publish call sends its payload, or has none to send. -/
theorem sends_of_publisher (operation : Operation)
    (target : operation.publishesOn? = some handle) {generation : Nat} {publisher : Publisher}
    (found : bridge.table.get? handle = some ⟨generation, .publisher publisher⟩) :
    match operation.payload? publisher.codec with
    | some payload =>
        bridge.outcome operation = .ok none ∧
          bridge.perform operation = bridge.send publisher payload
    | none => ∃ value cause, publisher.codec.encode value = .error cause ∧
        operation = .publishValue handle value ∧ bridge.Fails operation (.unwritable cause) := by
  have known : bridge.findPublisher handle = .ok publisher := by
    simp [findPublisher, find, found, bind, Except.bind, pure, Except.pure]
  cases operation with
  | publish _ payload =>
      cases target
      simp [Operation.payload?, outcome, perform, publish, known, Except.map]
  | publishValue _ value =>
      cases target
      cases encoded : publisher.codec.encode value with
      | ok payload =>
          simp [Operation.payload?, outcome, perform, publishValue, known, encoded, Except.map,
            Except.toOption]
      | error cause =>
          simp [Operation.payload?, Fails, outcome, perform, publishValue, known, encoded,
            Except.map, Except.toOption]
  | _ => cases target

theorem Fails.not_publishes {e : BridgeError} (fails : bridge.Fails operation e) :
    bridge.publishes operation = false := by
  rw [publishes, fails.1]
  exact Bool.and_false _

end Bridge

end TopicBridge
