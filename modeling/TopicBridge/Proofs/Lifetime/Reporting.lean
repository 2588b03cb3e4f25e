import TopicBridge.Proofs.Lifetime.Removal
import TopicBridge.Proofs.Traffic.EndToEnd

/-!
# Whom a report is about

An error that has no caller to return to is reported.  It is given by one event
of the run, a delivery or the end of a call, and it is about the subscriber
incarnation that the event is for: the target of the subscription, or the one
whose callback returns.  A report that the queue is full is always about a live
subscriber.  A payload is read before anyone looks whether its subscriber is
still there, so an unreadable one is reported even if the subscriber is gone, and
under a handle that another proxy may have by then.
-/

namespace TopicBridge

variable {μ : Type} [Middleware μ] {world after : World μ} {event : Event μ}

/-- What the event reports. -/
def Moment.reported (moment : Moment μ) : List BridgeError :=
  match moment.world.step moment.event with
  | some after => after.bridge.reports.toList.drop moment.world.bridge.reports.size
  | none => []

/-! ## What an event reports -/

/-- What there is to report about an event, told by its world. -/
inductive World.Complains (world : World μ) : Event μ → List BridgeError → Prop
  | nothing {event : Event μ} : Complains world event []
  /-- A payload cannot be read. -/
  | unreadable {subscription : SubscriptionId} {payload : Bytes} {target : Target}
      {cause : WireError} (loaded : world.bridge.isLoaded = true)
      (found : Dict.get? world.bridge.targets subscription = some target)
      (failed : target.codec.decode payload = .error cause) :
      Complains world (.deliver subscription payload) [.unreadable target.handle cause]
  /-- An invocation has no place in the queue. -/
  | full {subscription : SubscriptionId} {payload : Bytes} {invocation : Invocation}
      (offer : world.bridge.offered? subscription payload = some invocation)
      (space : world.bridge.hasSpace = false) :
      Complains world (.deliver subscription payload) [.queueFull invocation.handle]
  /-- A callback fails. -/
  | failed {reason : String} {drain : Drain} {outer : List Drain} {invocation : Invocation}
      (drains : world.drains = drain :: outer) (running : drain.running = some invocation) :
      Complains world (.finish (.error reason)) [.callbackFailed invocation.handle reason]

/-- An event adds its own reports to those before. -/
theorem World.reports_step (stepped : world.step event = some after) :
    ∃ errors, world.Complains event errors ∧
      after.bridge.reports.toList = world.bridge.reports.toList ++ errors := by
  have quiet (same : after.bridge.reports = world.bridge.reports) :
      ∃ errors, world.Complains event errors ∧
        after.bridge.reports.toList = world.bridge.reports.toList ++ errors :=
    ⟨[], .nothing, by rw [same, List.append_nil]⟩
  cases event with
  | operation operation =>
      obtain ⟨_, rfl⟩ := step_operation stepped
      exact quiet (world.bridge.reports_perform operation)
  | deliver subscription payload =>
      cases stepped
      have outcome := world.bridge.delivery subscription payload
      dsimp only
      generalize world.bridge.deliver subscription payload = delivered at outcome quiet ⊢
      cases outcome with
      | ignored | gone | queued => exact quiet rfl
      | unreadable loaded found failed =>
          exact ⟨_, .unreadable loaded found failed, Array.toList_push⟩
      | full offer space => exact ⟨_, .full offer space, Array.toList_push⟩
  | layer middleware =>
      cases stepped
      exact quiet rfl
  | beginDrain =>
      obtain ⟨_, rfl⟩ := step_beginDrain stepped
      exact quiet rfl
  | take =>
      obtain ⟨budget, report, outer, _, rfl⟩ := step_take stepped
      apply quiet
      rw [bridge_takeNext]
      have found := world.bridge.taking
      generalize world.bridge.takePending = taken at found ⊢
      cases found <;> rfl
  | finish outcome =>
      obtain ⟨budget, report, invocation, outer, busy, rfl⟩ := step_finish stepped
      cases outcome with
      | ok => exact quiet rfl
      | error reason => exact ⟨_, .failed busy rfl, Array.toList_push⟩
  | endDrain =>
      obtain ⟨_, _, _, rfl⟩ := step_endDrain stepped
      exact quiet rfl

theorem World.reported_step (stepped : world.step event = some after) :
    world.Complains event (Moment.mk world event).reported ∧
      after.bridge.reports.toList =
        world.bridge.reports.toList ++ (Moment.mk world event).reported := by
  obtain ⟨errors, complains, added⟩ := World.reports_step stepped
  have same : (Moment.mk world event).reported = errors := by
    simp only [Moment.reported, stepped]
    rw [added, List.drop_append_of_le_length (Nat.le_of_eq Array.length_toList.symm),
      List.drop_of_length_le (Nat.le_of_eq Array.length_toList), List.nil_append]
  rw [same]
  exact ⟨complains, added⟩

/-- A payload for a subscriber that is gone is reported exactly if it cannot be
read. -/
theorem World.reported_of_gone {subscription : SubscriptionId} {payload : Bytes} {target : Target}
    (loaded : world.bridge.isLoaded = true)
    (found : Dict.get? world.bridge.targets subscription = some target)
    (gone : world.bridge.table.callbackOf? target.handle target.generation = none) :
    (Moment.mk world (.deliver subscription payload)).reported =
      match target.codec.decode payload with
      | .error cause => [.unreadable target.handle cause]
      | .ok _ => [] := by
  simp only [Moment.reported, step, Bridge.deliver, loaded, found, if_true, Bridge.receive]
  cases target.codec.decode payload with
  | error cause => simp [Bridge.report, Bridge.count]
  | ok value => simp [Bridge.count, gone]

/-! ## Running callbacks -/

/-- A callback that is running after an event was running before, or the event
called it. -/
theorem World.running_step (stepped : world.step event = some after) {drain : Drain}
    (member : drain ∈ after.drains) {invocation : Invocation}
    (running : drain.running = some invocation) :
    (∃ before ∈ world.drains, before.running = some invocation) ∨
      (Moment.mk world event).call? = some invocation := by
  have idle {budget : Nat} {report : DrainReport} {outer : List Drain}
      (kept : ∀ other ∈ outer, other ∈ world.drains)
      (member : drain ∈ ⟨budget, report, none⟩ :: outer) :
      ∃ before ∈ world.drains, before.running = some invocation := by
    rcases List.mem_cons.mp member with rfl | outside
    · cases running
    · exact ⟨drain, kept drain outside, running⟩
  cases event with
  | operation operation =>
      obtain ⟨_, rfl⟩ := step_operation stepped
      exact Or.inl ⟨drain, member, running⟩
  | deliver subscription payload =>
      cases stepped
      exact Or.inl ⟨drain, member, running⟩
  | layer middleware =>
      cases stepped
      exact Or.inl ⟨drain, member, running⟩
  | beginDrain =>
      obtain ⟨_, rfl⟩ := step_beginDrain stepped
      exact Or.inl (idle (fun _ outside => outside) member)
  | take =>
      obtain ⟨budget, report, outer, waiting, rfl⟩ := step_take stepped
      have kept : ∀ other ∈ outer, other ∈ world.drains := fun _ outside => by
        rw [waiting]
        exact List.mem_cons_of_mem _ outside
      simp only [Moment.call?]
      unfold takeNext Bridge.takeNext at member
      rcases taken : world.bridge.takePending with ⟨kind, next⟩
      rw [taken] at member
      cases kind with
      | nothing => exact Or.inl (idle kept member)
      | stale => exact Or.inl (idle kept member)
      | due found =>
          rcases List.mem_cons.mp member with rfl | outside
          · exact Or.inr running
          · exact Or.inl ⟨drain, kept drain outside, running⟩
  | finish outcome =>
      obtain ⟨budget, report, _, outer, busy, rfl⟩ := step_finish stepped
      refine Or.inl (idle (fun _ outside => ?_) member)
      rw [busy]
      exact List.mem_cons_of_mem _ outside
  | endDrain =>
      obtain ⟨report, outer, spent, rfl⟩ := step_endDrain stepped
      refine Or.inl ⟨drain, ?_, running⟩
      rw [spent]
      exact List.mem_cons_of_mem _ member

section Runs

variable {past : List (Moment μ)}

/-- A callback that is running was called. -/
theorem Run.called_of_running {start : World μ} (idle : start.drains = [])
    (run : Run start past world) {drain : Drain} (member : drain ∈ world.drains)
    {invocation : Invocation} (running : drain.running = some invocation) :
    ∃ (place : Nat) (caller : Moment μ),
      past[place]? = some caller ∧ caller.call? = some invocation := by
  induction run generalizing drain with
  | start =>
      rw [idle] at member
      cases member
  | @next past world after event _ stepped ih =>
      rcases World.running_step stepped member running with ⟨before, member, running⟩ | called
      · obtain ⟨place, caller, found, called⟩ := ih member running
        have bound := (List.getElem?_eq_some_iff.mp found).1
        exact ⟨place, caller, by rwa [List.getElem?_append_left bound], called⟩
      · exact ⟨past.length, ⟨world, event⟩, by simp, called⟩

/-! ## Incarnations and reports -/

/-- Why an event reports an error on behalf of a subscriber incarnation, after
what happened before. -/
inductive Concerns (past : List (Moment μ)) (moment : Moment μ) (handle : Handle)
    (generation : Nat) (subscriber : Subscriber) (codec : Codec) : BridgeError → Prop
  /-- A payload of its subscription cannot be read, whether it is live or not. -/
  | unreadable {payload : Bytes} {cause : WireError}
      (event : moment.event = .deliver subscriber.subscription payload)
      (target : Dict.get? moment.world.bridge.targets subscriber.subscription =
        some ⟨handle, generation, codec⟩)
      (failed : codec.decode payload = .error cause) :
      Concerns past moment handle generation subscriber codec (.unreadable handle cause)
  /-- A payload of its subscription can be read and has no place in the queue.  It
  is live, and no other proxy has its handle. -/
  | full {payload : Bytes} {value : Value}
      (event : moment.event = .deliver subscriber.subscription payload)
      (target : Dict.get? moment.world.bridge.targets subscriber.subscription =
        some ⟨handle, generation, codec⟩)
      (decoded : codec.decode payload = .ok value)
      (live : moment.world.bridge.table.get? handle = some ⟨generation, .subscriber subscriber⟩)
      (space : moment.world.bridge.hasSpace = false) :
      Concerns past moment handle generation subscriber codec (.queueFull handle)
  /-- Its callback fails.  It was live when the callback was called. -/
  | failed {reason : String} {drain : Drain} {outer : List Drain} {invocation : Invocation}
      {place : Nat} {caller : Moment μ} (event : moment.event = .finish (.error reason))
      (drains : moment.world.drains = drain :: outer) (running : drain.running = some invocation)
      (names : invocation.handle = handle ∧ invocation.generation = generation)
      (found : past[place]? = some caller) (called : caller.call? = some invocation)
      (live : caller.world.bridge.table.get? handle = some ⟨generation, .subscriber subscriber⟩) :
      Concerns past moment handle generation subscriber codec (.callbackFailed handle reason)

/-- Every report of a run is about one subscriber incarnation, and names its
handle. -/
structure ReportsNamed (past : List (Moment μ)) (world : World μ) : Prop where
  whole : world.bridge.reports.toList = past.flatMap Moment.reported
  named : ∀ {position moment e}, past[position]? = some moment → e ∈ moment.reported →
    moment.reported = [e] ∧ ∃ opening handle generation subscriber codec,
      OpenedAt (past.take position) opening handle generation subscriber codec ∧
        Concerns (past.take position) moment handle generation subscriber codec e
  /-- The handle is its own exactly until it is removed. -/
  own : ∀ {position moment opening handle generation subscriber codec},
    past[position]? = some moment →
    OpenedAt (past.take position) opening handle generation subscriber codec →
    (moment.world.bridge.table.get? handle = some ⟨generation, .subscriber subscriber⟩ ↔
      ¬ RemovedIn (past.take position) handle generation)
  /-- Once it is removed, all that is still reported is that a payload cannot be
  read, or that the callback fails that was running when it was removed. -/
  removed : ∀ {position moment handle generation subscriber codec e},
    past[position]? = some moment → RemovedIn (past.take position) handle generation →
    Concerns (past.take position) moment handle generation subscriber codec e →
    (∃ cause, e = .unreadable handle cause) ∨ ∃ reason, e = .callbackFailed handle reason
  /-- A late payload is reported exactly if it cannot be read. -/
  late : ∀ {position moment subscription payload target}, past[position]? = some moment →
    moment.event = .deliver subscription payload → moment.world.bridge.isLoaded = true →
    Dict.get? moment.world.bridge.targets subscription = some target →
    RemovedIn (past.take position) target.handle target.generation →
    moment.reported =
      match target.codec.decode payload with
      | .error cause => [.unreadable target.handle cause]
      | .ok _ => []

variable {types : Catalog} {config : BridgeConfig} {middleware : μ}

/-- The reports of a run are those of its events. -/
theorem Run.reports_eq {start : World μ} (run : Run start past world) :
    world.bridge.reports.toList =
      start.bridge.reports.toList ++ past.flatMap Moment.reported := by
  induction run with
  | start => simp
  | @next past world after event _ stepped ih =>
      rw [(World.reported_step stepped).2, ih]
      simp

/-- A subscriber incarnation that is live and one that was opened in the same
generation are one. -/
theorem Sourced.get?_of_callbackOf? (sourced : Sourced past world) {opening : Nat}
    {handle : Handle} {generation : Nat} {subscriber : Subscriber} {codec : Codec}
    (opened : OpenedAt past opening handle generation subscriber codec) {callback : Callback}
    (looked : world.bridge.table.callbackOf? handle generation = some callback) :
    world.bridge.table.get? handle = some ⟨generation, .subscriber subscriber⟩ := by
  obtain ⟨another, live, _⟩ := Table.callbackOf?_eq_some_iff.mp looked
  obtain ⟨_, _, openedLive, _⟩ := sourced.live live
  obtain ⟨_, _, rfl, _⟩ := sourced.incarnation opened openedLive
  exact live

/-- What there is to report about an event of a run is about an incarnation that
was opened before. -/
theorem World.Complains.concerns (run : Run (World.fresh types config middleware) past world)
    {errors : List BridgeError} (complains : world.Complains event errors) {e : BridgeError}
    (member : e ∈ errors) :
    errors = [e] ∧ ∃ opening handle generation subscriber codec,
      OpenedAt past opening handle generation subscriber codec ∧
        Concerns past ⟨world, event⟩ handle generation subscriber codec e := by
  have sourced := Sourced.ofRun run
  cases complains with
  | nothing => cases member
  | @unreadable subscription payload target cause loaded found failed =>
      rw [List.mem_singleton] at member
      subst member
      obtain ⟨opening, subscriber, rfl, opened⟩ := sourced.target found
      exact ⟨rfl, opening, _, _, subscriber, _, opened, .unreadable rfl found failed⟩
  | @full subscription payload invocation offer space =>
      rw [List.mem_singleton] at member
      subst member
      obtain ⟨codec, found, decoded, looked⟩ := Bridge.of_offered? offer
      obtain ⟨opening, subscriber, rfl, opened⟩ := sourced.target found
      exact ⟨rfl, opening, _, _, subscriber, codec, opened,
        .full rfl found decoded (sourced.get?_of_callbackOf? opened looked) space⟩
  | @failed reason drain outer invocation drains running =>
      rw [List.mem_singleton] at member
      subst member
      have inside : drain ∈ world.drains := by
        rw [drains]
        exact List.mem_cons_self
      obtain ⟨place, caller, found, called⟩ := run.called_of_running rfl inside running
      obtain ⟨_, _, isLive⟩ := Moment.of_call? called
      obtain ⟨callback, looked⟩ := Option.isSome_iff_exists.mp isLive
      obtain ⟨subscriber, live, _⟩ := Table.callbackOf?_eq_some_iff.mp looked
      obtain ⟨opening, codec, opened, _⟩ := (Sourced.ofRun (run.before found)).live live
      exact ⟨rfl, opening, _, _, subscriber, codec, opened.of_take.1,
        .failed rfl drains running ⟨rfl, rfl⟩ found called live⟩

/-- In every run of a bridge, every report is about one subscriber incarnation.
It names the handle of that incarnation, which is its own until it is removed.
From then on a message for it is dropped without a report if it can be read; one
that cannot be read is still reported. -/
theorem reports_named (run : Run (World.fresh types config middleware) past world) :
    ReportsNamed past world := by
  have complains {position : Nat} {moment : Moment μ} (found : past[position]? = some moment) :
      moment.world.Complains moment.event moment.reported := by
    obtain ⟨_, stepped, _⟩ := run.onward found
    exact (World.reported_step stepped).1
  have own {position : Nat} {moment : Moment μ} {opening : Nat} {handle : Handle}
      {generation : Nat} {subscriber : Subscriber} {codec : Codec}
      (found : past[position]? = some moment)
      (opened : OpenedAt (past.take position) opening handle generation subscriber codec) :
      moment.world.bridge.table.get? handle = some ⟨generation, .subscriber subscriber⟩ ↔
        ¬ RemovedIn (past.take position) handle generation :=
    (run.before found).live_iff_not_removedIn opened
  refine ⟨run.reports_eq, fun found member => ?_, own, ?_, ?_⟩
  · exact (complains found).concerns (run.before found) member
  · intro position moment handle generation subscriber codec e found removed concerns
    cases concerns with
    | unreadable => exact Or.inl ⟨_, rfl⟩
    | failed => exact Or.inr ⟨_, rfl⟩
    | full event target decoded live space =>
        obtain ⟨_, _, opened, _⟩ := (Sourced.ofRun (run.before found)).live live
        exact absurd removed ((own found opened).mp live)
  · rintro position ⟨world, event⟩ subscription payload target found rfl loaded targeted removed
    obtain ⟨_, subscriber, _, opened⟩ := (Sourced.ofRun (run.before found)).target targeted
    have gone : world.bridge.table.callbackOf? target.handle target.generation = none := by
      cases looked : world.bridge.table.callbackOf? target.handle target.generation with
      | none => rfl
      | some callback =>
          have live := (Sourced.ofRun (run.before found)).get?_of_callbackOf? opened looked
          exact absurd removed ((own found opened).mp live)
    exact World.reported_of_gone loaded targeted gone

end Runs

/-- A subscriber fills the queue, and its callback destroys it.  Then another one
has its handle, two messages for the first one come in, of which one can be read,
and its callback fails. -/
def blaming : List (Event Recorder) :=
  let subscribe : Event Recorder :=
    .operation (.createSubscriber (fun _ => true) "/count" "Count" ⟨⟨1⟩, "onCount"⟩ {})
  [subscribe, .deliver ⟨0⟩ [7, 0, 0, 0], .deliver ⟨0⟩ [8, 0, 0, 0], .deliver ⟨0⟩ [9], .beginDrain,
    .take, .operation (.destroy ⟨0⟩), subscribe, .deliver ⟨0⟩ [8, 0, 0, 0], .deliver ⟨0⟩ [9],
    .finish (.error "stopped")]

theorem reports_named_blaming :
    ∃ past world, Run (World.fresh countsAndNames { pendingCapacity := 1 } ({} : Recorder)) past
        world ∧
      past.map Moment.reported =
        [[], [], [.queueFull ⟨0⟩], [.unreadable ⟨0⟩ .unexpectedEnd], [], [], [], [], [],
          [.unreadable ⟨0⟩ .unexpectedEnd], [.callbackFailed ⟨0⟩ "stopped"]] ∧
      ReportsNamed past world := by
  have computed : ((World.fresh countsAndNames { pendingCapacity := 1 } ({} : Recorder)).replay
      blaming).map (fun replayed => replayed.1.map Moment.reported) =
        some [[], [], [.queueFull ⟨0⟩], [.unreadable ⟨0⟩ .unexpectedEnd], [], [], [], [], [],
          [.unreadable ⟨0⟩ .unexpectedEnd], [.callbackFailed ⟨0⟩ "stopped"]] := by
    decide +kernel
  obtain ⟨⟨past, world⟩, replayed, reported⟩ := Option.map_eq_some_iff.mp computed
  have run := Run.ofReplay replayed
  exact ⟨past, world, run, reported, reports_named run⟩

/-- A subscriber is destroyed, and a publisher gets its handle. -/
def recycled : List (Event Recorder) :=
  [.operation (.createSubscriber (fun _ => true) "/count" "Count" ⟨⟨1⟩, "onCount"⟩ {}),
    .operation (.destroy ⟨0⟩), .operation (.createPublisher ⟨2⟩ "/out" "Count" {})]

/-- Then a message for the subscriber that cannot be read is reported under the
handle of the publisher. -/
theorem concerns_removed_recycled :
    ∃ past world opening subscriber codec entry,
      Run (World.fresh countsAndNames {} ({} : Recorder)) past world ∧
      OpenedAt past opening ⟨0⟩ 1 subscriber codec ∧ RemovedIn past ⟨0⟩ 1 ∧
      world.bridge.table.get? ⟨0⟩ = some entry ∧
      entry.generation = 2 ∧ entry.proxy.kind = .publisher ∧
      let late : Moment Recorder := ⟨world, .deliver subscriber.subscription [1]⟩
      late.reported = [.unreadable ⟨0⟩ .unexpectedEnd] ∧
        Concerns past late ⟨0⟩ 1 subscriber codec (.unreadable ⟨0⟩ .unexpectedEnd) := by
  have computed : ((World.fresh countsAndNames {} ({} : Recorder)).replay recycled).bind
      (fun replayed => (Dict.get? replayed.2.bridge.targets ⟨0⟩).bind fun target =>
        (replayed.2.bridge.table.get? ⟨0⟩).map fun entry =>
          ((target.handle, target.generation), (entry.generation, entry.proxy.kind),
            target.codec.decode [1] matches .error .unexpectedEnd, replayed.2.bridge.isLoaded)) =
      some ((⟨0⟩, 1), (2, .publisher), true, true) := by
    decide +kernel
  obtain ⟨⟨past, world⟩, replayed, computed⟩ := Option.bind_eq_some_iff.mp computed
  obtain ⟨⟨handle, generation, codec⟩, targeted, computed⟩ := Option.bind_eq_some_iff.mp computed
  obtain ⟨entry, found, same⟩ := Option.map_eq_some_iff.mp computed
  simp only [Prod.mk.injEq] at same
  obtain ⟨⟨rfl, rfl⟩, ⟨drawn, kind⟩, unreadable, loaded⟩ := same
  have failed : codec.decode [1] = .error .unexpectedEnd := by
    split at unreadable
    · assumption
    · cases unreadable
  have run := Run.ofReplay replayed
  obtain ⟨opening, subscriber, subscription, opened⟩ := (Sourced.ofRun run).target targeted
  have gone : world.bridge.table.get? ⟨0⟩ ≠ some ⟨1, .subscriber subscriber⟩ := by
    rw [found]
    rintro same
    cases same
    cases drawn
  have removed : RemovedIn past ⟨0⟩ 1 :=
    Classical.byContradiction fun absent => gone ((run.live_iff_not_removedIn opened).mpr absent)
  rw [← subscription] at targeted
  refine ⟨past, world, opening, subscriber, codec, entry, run, opened, removed, found, drawn, kind,
    ?_, .unreadable rfl targeted failed⟩
  rw [World.reported_of_gone loaded targeted]
  · rw [failed]
  · cases looked : world.bridge.table.callbackOf? ⟨0⟩ 1 with
    | none => rfl
    | some callback => exact absurd ((Sourced.ofRun run).get?_of_callbackOf? opened looked) gone

end TopicBridge
