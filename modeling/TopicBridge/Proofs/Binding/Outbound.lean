import TopicBridge.Proofs.Binding.Outbox
import TopicBridge.Proofs.Lifetime.Teardown
import TopicBridge.Proofs.Traffic.EndToEnd

/-!
# What is sent

Over a recorder what was sent is exactly what the successful publish calls stand
for, also where handles go from publishers to subscribers and back while callbacks
publish.  A publisher sends on the topic that its publication was opened on, and
no other operation and no event adds to what was sent.
-/

namespace TopicBridge

/-! ## What a recorder is sent -/

namespace Recorder

variable {bridge after : Bridge Recorder} {operation : Operation}

/-- Nothing is sent. -/
structure Quiet (bridge after : Bridge Recorder) : Prop where
  published : after.middleware.published = bridge.middleware.published
  counted : after.counters.published = bridge.counters.published

/-- The operation sends a message, and does nothing else. -/
def Sends (bridge : Bridge Recorder) (operation : Operation) (message : String × Bytes) : Prop :=
  bridge.outcome operation = .ok none ∧
    bridge.perform operation = { bridge with
      middleware := { bridge.middleware with
        published := bridge.middleware.published ++ [message] }
      counters := { bridge.counters with published := bridge.counters.published + 1 } }

/-- The publication of every live publisher was opened on its topic. -/
def Advertised (bridge : Bridge Recorder) : Prop :=
  ∀ handle generation publisher,
    bridge.table.get? handle = some ⟨generation, .publisher publisher⟩ →
    ∃ advertisement,
      bridge.middleware.advertised[publisher.publication.number]? = some advertisement ∧
        advertisement.topic = publisher.topic

/-- Every operation keeps the publications of the live publishers. -/
theorem Advertised.perform (advertised : Advertised bridge) (operation : Operation) :
    Advertised (bridge.perform operation) := by
  have kept {after : Bridge Recorder} (same : after.middleware.advertised =
      bridge.middleware.advertised) {handle : Handle} {generation : Nat} {publisher : Publisher}
      (found : bridge.table.get? handle = some ⟨generation, .publisher publisher⟩) :
      ∃ advertisement,
        after.middleware.advertised[publisher.publication.number]? = some advertisement ∧
          advertisement.topic = publisher.topic := by
    rw [same]
    exact advertised _ _ _ found
  have effect := bridge.rebinds operation
  generalize bridge.perform operation = after at effect ⊢
  intro handle generation publisher found
  rw [Table.get?] at found
  cases effect with
  | kept entries middleware none =>
      rw [entries] at found
      exact kept (by rw [middleware]) found
  | sent entries middleware none =>
      rw [entries] at found
      refine kept ?_ found
      rw [middleware]
      exact (congrArg Recorder.advertised (publish_frame _ _ _)).trans rfl
  | advertised entries fresh opens none =>
      obtain ⟨number, appended⟩ := advertise_eq_ok opens
      rw [entries, Dict.get?_insert] at found
      split at found
      · cases found
        rw [appended, number]
        exact ⟨_, List.getElem?_concat_length, rfl⟩
      · obtain ⟨advertisement, earlier, topic⟩ := advertised _ _ _ found
        have inside := (List.getElem?_eq_some_iff.mp earlier).1
        rw [appended, List.getElem?_append_left inside]
        exact ⟨advertisement, earlier, topic⟩
  | subscribed entries fresh opens none =>
      rw [entries, Dict.get?_insert] at found
      split at found
      · cases found
      · exact kept (by rw [(subscribe_eq_ok opens).2]) found
  | removed entries middleware =>
      have found : (bridge.dropAll (bridge.removes operation)).table.get? handle =
          some ⟨generation, .publisher publisher⟩ := by
        rw [Table.get?, ← entries]
        exact found
      rw [Bridge.get?_dropAll] at found
      split at found
      · cases found
      · refine kept ?_ found
        rw [middleware]
        exact Bridge.dropAll_keeps Recorder.advertised
          fun _ _ entry _ layer => by rw [layer.close_frame entry.proxy]

theorem Quiet.dropAll (bridge : Bridge Recorder) (handles : List Handle) :
    Quiet bridge (bridge.dropAll handles) where
  published := Bridge.dropAll_keeps Recorder.published
    fun _ _ entry _ layer => by rw [layer.close_frame entry.proxy]
  counted := by
    refine Bridge.dropAll_leaves (·.counters.published) (fun bridge handle => ?_) bridge handles
    unfold Bridge.drop
    cases bridge.table.get? handle <;> rfl

/-- Whatever is no publish call sends nothing. -/
theorem Quiet.perform (bridge : Bridge Recorder) (silent : operation.publishesOn? = none) :
    Quiet bridge (bridge.perform operation) := by
  have refused {after : Bridge Recorder} (refuses : bridge.Refuses after) : Quiet bridge after := by
    rcases refuses with rfl | ⟨_, _, _, rfl⟩ <;> exact ⟨rfl, rfl⟩
  cases operation with
  | createPublisher owner topic typeName options =>
      rcases bridge.createPublisher_cases owner topic typeName options with
        ⟨e, after, equal, refuses⟩ | ⟨_, _, _, _, _, _, _, advertised, equal⟩
      · rw [Bridge.perform, equal]
        exact refused refuses
      · rw [Bridge.perform, equal, (advertise_eq_ok advertised).2]
        exact ⟨rfl, rfl⟩
  | createSubscriber hasEntryPoint topic typeName callback options =>
      rcases bridge.createSubscriber_cases hasEntryPoint topic typeName callback options with
        ⟨e, after, equal, refuses⟩ | ⟨_, _, _, _, _, _, _, _, subscribed, equal⟩
      · rw [Bridge.perform, equal]
        exact refused refuses
      · rw [Bridge.perform, equal, (subscribe_eq_ok subscribed).2]
        exact ⟨rfl, rfl⟩
  | destroy handle =>
      rw [Bridge.perform, Bridge.destroy_snd]
      exact Quiet.dropAll bridge [handle]
  | destroyKind handle kind =>
      obtain ⟨handles, equal⟩ := bridge.destroyKind_snd handle kind
      rw [Bridge.perform, equal]
      exact Quiet.dropAll bridge handles
  | destroyOwnedBy | clear => exact Quiet.dropAll bridge _
  | shutdown | unload =>
      obtain ⟨published, counted⟩ := Quiet.dropAll bridge bridge.handles
      exact ⟨published, counted⟩
  | publish | publishValue => cases silent

/-- A live publisher sends on its topic. -/
theorem send_eq (advertised : Advertised bridge) {handle : Handle} {generation : Nat}
    {publisher : Publisher}
    (found : bridge.table.get? handle = some ⟨generation, .publisher publisher⟩)
    (payload : Bytes) :
    bridge.send publisher payload = { bridge with
      middleware := { bridge.middleware with
        published := bridge.middleware.published ++ [(publisher.topic, payload)] }
      counters := { bridge.counters with published := bridge.counters.published + 1 } } := by
  obtain ⟨advertisement, opened, topic⟩ := advertised _ _ _ found
  have recorded : bridge.middleware.publish publisher.publication payload =
      { bridge.middleware with
        published := bridge.middleware.published ++ [(publisher.topic, payload)] } := by
    rw [publish, opened, ← topic]
  rw [← recorded]
  rfl

/-- On a publisher a publish call sends what it stands for, or has nothing to
send. -/
theorem sends_of_publisher (advertised : Advertised bridge) (operation : Operation)
    {handle : Handle} (target : operation.publishesOn? = some handle) {generation : Nat}
    {publisher : Publisher}
    (found : bridge.table.get? handle = some ⟨generation, .publisher publisher⟩) :
    match operation.payload? publisher.codec with
    | some payload => Sends bridge operation (publisher.topic, payload)
    | none => ∃ value cause, publisher.codec.encode value = .error cause ∧
        operation = .publishValue handle value ∧ bridge.Fails operation (.unwritable cause) := by
  have answers := Bridge.sends_of_publisher operation target found
  cases stands : operation.payload? publisher.codec with
  | none => simpa only [stands] using answers
  | some payload =>
      simp only [stands] at answers
      obtain ⟨outcome, sent⟩ := answers
      exact ⟨outcome, sent.trans (send_eq advertised found payload)⟩

/-- A publish call that succeeds sends the message that it stands for, and every
other operation sends nothing. -/
theorem perform_cases {outbox : Outbox} (posted : bridge.Posted outbox.posts)
    (advertised : Advertised bridge) (operation : Operation) :
    bridge.publishes operation = false ∧ Quiet bridge (bridge.perform operation) ∨
      bridge.publishes operation = true ∧
        ∃ message, outbox.message? operation = some message ∧ Sends bridge operation message := by
  have failed {e : BridgeError} (fails : bridge.Fails operation e) :
      bridge.publishes operation = false ∧ Quiet bridge (bridge.perform operation) := by
    refine ⟨fails.not_publishes, ?_⟩
    rw [fails.2]
    exact ⟨rfl, rfl⟩
  cases target : operation.publishesOn? with
  | none =>
      refine Or.inl ⟨?_, Quiet.perform bridge target⟩
      rw [Bridge.publishes, target]
      rfl
  | some handle =>
      cases found : bridge.table.get? handle with
      | none => exact Or.inl (failed (Bridge.fails_of_absent target found))
      | some entry =>
          obtain ⟨generation, proxy⟩ := entry
          cases proxy with
          | subscriber subscriber =>
              exact Or.inl (failed (Bridge.fails_of_subscriber target found))
          | publisher publisher =>
              have answers := sends_of_publisher advertised operation target found
              have post : outbox.posts handle = some (publisher.topic, publisher.codec) :=
                posted _ _ found
              cases stands : operation.payload? publisher.codec with
              | none =>
                  simp only [stands] at answers
                  obtain ⟨_, _, _, _, fails⟩ := answers
                  exact Or.inl (failed fails)
              | some payload =>
                  simp only [stands] at answers
                  refine Or.inr ⟨?_, (publisher.topic, payload), ?_, answers⟩
                  · rw [Bridge.publishes, target, answers.1]
                    rfl
                  · simp [Outbox.message?, target, post, stands]

end Recorder

/-! ## Runs -/

namespace Recorder

/-- What was sent is what the observer has put down. -/
structure Sent (past : List (Moment Recorder)) (world : World Recorder) : Prop where
  posted : world.bridge.Posted (outboxOf past).posts
  advertised : Advertised world.bridge
  traffic : world.bridge.middleware.published = (outboxOf past).sent
  counted : world.bridge.middleware.published.length = world.bridge.counters.published
  calls : world.bridge.middleware.published.length = past.countP Moment.publishes

/-- Every event of the only user keeps what was sent right. -/
theorem Sent.step {past : List (Moment Recorder)} {world after : World Recorder}
    {event : Event Recorder} (sent : Sent past world) (alone : OnlyUser MovesOn [⟨world, event⟩])
    (stepped : world.step event = some after) : Sent (past ++ [⟨world, event⟩]) after := by
  have posted := outboxOf_snoc past ⟨world, event⟩ ▸ World.posted_step sent.posted stepped
  have quiet (none : (Moment.mk world event).publishes = false)
      (silent : Quiet world.bridge after.bridge) (advertised : Advertised after.bridge) :
      Sent (past ++ [⟨world, event⟩]) after := by
    have unsent : (outboxOf (past ++ [⟨world, event⟩])).sent = (outboxOf past).sent := by
      rw [outboxOf_snoc, Moment.post]
      cases event with
      | operation operation => simp [none]
      | _ => rfl
    refine ⟨posted, advertised, ?_, ?_, ?_⟩
    · rw [silent.published, unsent, sent.traffic]
    · rw [silent.published, silent.counted, sent.counted]
    · rw [silent.published, sent.calls, List.countP_append, List.countP_singleton, none]
      rfl
  rcases World.step_middleware stepped with
    ⟨operation, rfl, same⟩ | ⟨middleware, rfl, same⟩ | ⟨other, table, same⟩
  · have advertised : Advertised after.bridge := same ▸ sent.advertised.perform operation
    rcases perform_cases sent.posted sent.advertised operation with
      ⟨none, silent⟩ | ⟨publishes, message, stands, _, performed⟩
    · exact quiet none (same ▸ silent) advertised
    · rw [← same] at performed
      have publishes : (Moment.mk world (.operation operation)).publishes = true := publishes
      refine ⟨posted, advertised, ?_, ?_, ?_⟩
      · rw [outboxOf_snoc, Moment.post, performed, sent.traffic]
        simp [publishes, stands]
      · rw [performed, List.length_append, sent.counted]
        rfl
      · rw [performed, List.length_append, sent.calls, List.countP_append, List.countP_singleton,
          publishes]
        rfl
  · have frame := (alone _ List.mem_cons_self middleware rfl).frame
    cases stepped
    refine quiet rfl ⟨by rw [frame], rfl⟩ fun _ _ _ found => ?_
    dsimp only
    rw [frame]
    exact sent.advertised _ _ _ found
  · have none : (Moment.mk world event).publishes = false := by
      cases event with
      | operation operation => exact absurd rfl (other operation)
      | _ => rfl
    obtain ⟨_, _, _, _, bridge, _, _, counted⟩ := World.step_other other stepped
    have silent : Quiet world.bridge after.bridge := ⟨by rw [same], by rw [bridge, counted]⟩
    refine quiet none silent fun _ _ _ found => ?_
    rw [table] at found
    rw [same]
    exact sent.advertised _ _ _ found

theorem Sent.run {types : Catalog} {config : BridgeConfig} {past : List (Moment Recorder)}
    {world : World Recorder} (run : Run (World.fresh types config ({} : Recorder)) past world)
    (alone : OnlyUser MovesOn past) : Sent past world := by
  induction run with
  | start =>
      exact ⟨fun _ _ found => (nomatch found), fun _ _ _ found => (nomatch found), rfl, rfl, rfl⟩
  | next _ stepped ih =>
      obtain ⟨before, last⟩ := alone.append
      exact (ih before).step last stepped

end Recorder

/-- What was sent is exactly what the successful publish calls stand for, and on
each handle publish calls answer what the observer expects. -/
structure OutboundExact (past : List (Moment Recorder)) (world : World Recorder) : Prop where
  /-- What was sent are the messages of the successful publish calls, in order. -/
  traffic : world.bridge.middleware.published = (outboxOf past).sent
  counted : world.bridge.middleware.published.length = world.bridge.counters.published
  /-- Each successful publish call has sent one message. -/
  calls : world.bridge.middleware.published.length = past.countP Moment.publishes
  /-- On a handle without a proxy nothing is sent. -/
  absent : ∀ {operation handle}, operation.publishesOn? = some handle →
    ledgerOf past handle = none → world.bridge.Fails operation (.unknownHandle handle)
  /-- On a subscriber nothing is sent. -/
  subscriber : ∀ {operation handle info}, operation.publishesOn? = some handle →
    ledgerOf past handle = some info → info.kind = .subscriber →
    world.bridge.Fails operation (.wrongKind handle .publisher .subscriber)
  /-- A publisher sends on its topic what it is given, or what its codec writes. -/
  publisher : ∀ {handle info}, ledgerOf past handle = some info → info.kind = .publisher →
    ∃ codec, (outboxOf past).posts handle = some (info.topic, codec) ∧
      (∀ payload,
        Recorder.Sends world.bridge (.publish handle payload) (info.topic, payload)) ∧
      ∀ value, match codec.encode value with
        | .ok payload =>
            Recorder.Sends world.bridge (.publishValue handle value) (info.topic, payload)
        | .error cause => world.bridge.Fails (.publishValue handle value) (.unwritable cause)
  /-- A publish command is a publish call, and no other command sends anything. -/
  command : ∀ hasEntryPoint script name arguments,
    let after := world.bridge.callCommand hasEntryPoint script name arguments
    match Command.parse name arguments world.bridge.config with
    | .ok (.publish handle message) => after =
        ((world.bridge.publishValue handle message).1.map fun _ => [],
          world.bridge.perform (.publishValue handle message))
    | _ => after.2.middleware.published = world.bridge.middleware.published

/-- In every run over a recorder that nobody else uses, what was sent is exactly
what the successful publish calls stand for. -/
theorem Run.outboundExact {types : Catalog} {config : BridgeConfig}
    {past : List (Moment Recorder)} {world : World Recorder}
    (run : Run (World.fresh types config ({} : Recorder)) past world)
    (alone : OnlyUser Recorder.MovesOn past) : OutboundExact past world := by
  obtain ⟨posted, advertised, traffic, counted, calls⟩ := Recorder.Sent.run run alone
  have mirrors := run.consistent_mirrors.2
  have live {handle : Handle} {info : ProxyInfo} (listed : ledgerOf past handle = some info) :
      ∃ generation proxy, world.bridge.table.get? handle = some ⟨generation, proxy⟩ ∧
        proxy.info handle = info := by
    rw [← mirrors handle] at listed
    obtain ⟨⟨generation, proxy⟩, found, same⟩ := Option.map_eq_some_iff.mp listed
    exact ⟨generation, proxy, found, same⟩
  refine ⟨traffic, counted, calls, ?_, ?_, ?_, ?_⟩
  · intro operation handle target none
    rw [← mirrors handle, Option.map_eq_none_iff] at none
    exact Bridge.fails_of_absent target none
  · intro operation handle info target listed kind
    obtain ⟨generation, proxy, found, rfl⟩ := live listed
    cases proxy with
    | publisher publisher => cases kind
    | subscriber subscriber => exact Bridge.fails_of_subscriber target found
  · intro handle info listed kind
    obtain ⟨generation, proxy, found, rfl⟩ := live listed
    cases proxy with
    | subscriber subscriber => cases kind
    | publisher publisher =>
        refine ⟨publisher.codec, posted _ _ found, fun payload => ?_, fun value => ?_⟩
        · exact Recorder.sends_of_publisher advertised (.publish handle payload) rfl found
        · have answers :=
            Recorder.sends_of_publisher advertised (.publishValue handle value) rfl found
          cases encoded : publisher.codec.encode value with
          | ok payload =>
              simp only [Operation.payload?, encoded, Except.toOption] at answers
              exact answers
          | error cause =>
              simp only [Operation.payload?, encoded, Except.toOption] at answers
              obtain ⟨_, _, failed, same, fails⟩ := answers
              cases same
              cases encoded.symm.trans failed
              exact fails
  · intro hasEntryPoint script name arguments
    dsimp only
    have commanded := world.bridge.callCommand_snd hasEntryPoint script name arguments
    cases parsed : Command.parse name arguments world.bridge.config with
    | error e =>
        rw [parsed] at commanded
        rw [commanded]
    | ok command =>
        rw [parsed] at commanded
        cases command with
        | publish handle message => simp [Bridge.callCommand, parsed, Bridge.execute, Bridge.perform]
        | _ =>
            rw [commanded]
            exact (Recorder.Quiet.perform world.bridge rfl).published

/-- In every run and in every session of a bridge that is the only user of its
recorder, what was sent is exactly what the successful publish calls stand for. -/
theorem outbound_exact (types : Catalog) (config : BridgeConfig) :
    (∀ {past : List (Moment Recorder)} {world : World Recorder},
      Run (World.fresh types config ({} : Recorder)) past world →
      OnlyUser Recorder.MovesOn past → OutboundExact past world) ∧
    ∀ (host : Host Recorder.Request Recorder.Answer) (steps : List (Step Recorder.Request)),
      let start : Bridge Recorder := { types, config, middleware := {} }
      let after := steps.foldl (fun session step => (Session.advance session step).2) (start, host)
      ∃ past, Run ⟨start, []⟩ past ⟨after.1, []⟩ ∧ OutboundExact past ⟨after.1, []⟩ := by
  refine ⟨fun run alone => run.outboundExact alone, fun host steps => ?_⟩
  intro start after
  obtain ⟨past, run, alone⟩ := Session.attains steps (start, host)
  exact ⟨past, run, run.outboundExact fun moment member middleware same =>
    Recorder.movesOn_of_steered (alone moment member middleware same)⟩

/-- A handle goes from a publisher to a subscriber, and from the subscriber, in its
own callback, to a publisher on another topic.  On the way values and payloads are
published that do and do not go out. -/
def reposting : List (Event Recorder) :=
  let advertise (topic typeName : String) : Event Recorder :=
    .operation (.createPublisher ⟨1⟩ topic typeName {})
  let publish (handle : Nat) (payload : Bytes) : Event Recorder :=
    .operation (.publish ⟨handle⟩ payload)
  let publishValue (handle : Nat) (value : Value) : Event Recorder :=
    .operation (.publishValue ⟨handle⟩ (.table [("data", value)]))
  let subscribe : Event Recorder :=
    .operation (.createSubscriber (fun _ => true) "/count" "Count" ⟨⟨2⟩, "onCount"⟩ {})
  [advertise "/count" "Count", publishValue 0 (.int 7), publish 0 [1, 2],
    publishValue 0 (.string "x"), publish 1 [3], .operation (.destroy ⟨0⟩), publish 0 [4],
    subscribe, publish 0 [5], advertise "/name" "Name", .deliver ⟨0⟩ [7, 0, 0, 0], .beginDrain, .take,
    publishValue 1 (.string "x"), .operation (.destroy ⟨0⟩), advertise "/other" "Name",
    publishValue 0 (.string "y"), .finish (.ok ())]

/-- Four of the eight publish calls go out, each on the topic that its handle had
then. -/
theorem outbound_exact_reposting :
    ∃ past world, Run (World.fresh countsAndNames {} ({} : Recorder)) past world ∧
      world.bridge.middleware.published = [("/count", [7, 0, 0, 0]), ("/count", [1, 2]),
        ("/name", [1, 0, 0, 0, 120]), ("/other", [1, 0, 0, 0, 121])] ∧
      past.countP Moment.publishes = 4 ∧ OutboundExact past world := by
  have computed : ((World.fresh countsAndNames {} ({} : Recorder)).replay reposting).map
      (fun replayed => (replayed.2.bridge.middleware.published,
        replayed.1.countP Moment.publishes,
        replayed.1.all (Moment.passes fun _ _ => false))) =
        some ([("/count", [7, 0, 0, 0]), ("/count", [1, 2]), ("/name", [1, 0, 0, 0, 120]),
          ("/other", [1, 0, 0, 0, 121])], 4, true) := by
    decide +kernel
  obtain ⟨⟨past, world⟩, replayed, same⟩ := Option.map_eq_some_iff.mp computed
  simp only [Prod.mk.injEq] at same
  obtain ⟨published, calls, all⟩ := same
  have alone : OnlyUser Recorder.MovesOn past := OnlyUser.of_still all
  have run := Run.ofReplay replayed
  exact ⟨past, world, run, published, calls, (outbound_exact _ _).1 run alone⟩

end TopicBridge
