import TopicBridge.Proofs.Traffic.Settle
import TopicBridge.Proofs.World.Progress

/-!
# Sessions over a bus

A session is ordinary if its bridge stays loaded, the bus is left running, and
whatever the steps and the callbacks publish is written by a codec, by a call or
by a command of a script.  Each ordinary session is a course, in which the
workers have their turn after every step, and nothing waits at its end.
-/

namespace TopicBridge

/-- The request only asks, and leaves the bus running. -/
def Bus.Request.observes : Bus.Request → Bool
  | .hold | .release | .shutdown => false
  | .stats | .topicType _ | .describe => true

/-- The step uses a bridge that stays loaded, over a bus that goes on, and what
it publishes is written by a codec. -/
def Step.isOrdinary : Step Bus.Request → Bool
  | .publish _ _ | .stray _ _ | .unload => false
  | .layer request => request.observes
  | _ => true

namespace Bridge

/-- The bridge is loaded, and its bus goes on. -/
structure IsRunning (bridge : Bridge Bus) : Prop where
  loaded : bridge.isLoaded = true
  goesOn : bridge.middleware.goesOn = true

namespace IsRunning

variable {bridge after : Bridge Bus}

theorem of_same (running : bridge.IsRunning) (same : bridge.SameLinks after) :
    after.IsRunning where
  loaded := same.isLoaded ▸ running.loaded
  goesOn := same.middleware ▸ running.goesOn

theorem settle (running : bridge.IsRunning) : bridge.settle.IsRunning := by
  have moved : IsRunning { bridge with middleware := bridge.middleware.arrivals.2 } :=
    ⟨running.loaded, bridge.middleware.goesOn_arrivals.trans running.goesOn⟩
  exact moved.of_same bridge.sameLinks_settle

theorem drop (running : bridge.IsRunning) (handle : Handle) : (bridge.drop handle).IsRunning := by
  rw [Bridge.drop]
  split
  · exact running
  · rename_i entry _
    obtain ⟨generation, proxy⟩ := entry
    cases proxy with
    | publisher publisher =>
        exact ⟨running.loaded, (Bus.goesOn_withdraw _ _).trans running.goesOn⟩
    | subscriber subscriber =>
        exact ⟨running.loaded, (Bus.goesOn_cancel _ _).trans running.goesOn⟩

theorem dropAll (running : bridge.IsRunning) (handles : List Handle) :
    (bridge.dropAll handles).IsRunning :=
  Bridge.dropAll_induction IsRunning (fun handle before => before.drop handle) running handles

theorem publish (running : bridge.IsRunning) (id : PublicationId) (payload : Bytes) :
    IsRunning { bridge with
      middleware := bridge.middleware.publish id payload
      counters := { bridge.counters with published := bridge.counters.published + 1 } } :=
  ⟨running.loaded, (Bus.goesOn_publish _ _ _).trans running.goesOn⟩

/-- No operation but unloading stops the bridge. -/
theorem perform (running : bridge.IsRunning) {operation : Operation}
    (stays : operation ≠ .unload) : (bridge.perform operation).IsRunning := by
  cases operation with
  | createPublisher owner topic typeName options =>
      rcases bridge.createPublisher_cases owner topic typeName options with
        ⟨_, after, equal, refuses⟩ | ⟨_, _, _, _, bus, _, _, advertised, equal⟩
      · simp only [Bridge.perform, equal]
        exact running.of_same (.refuse refuses)
      · simp only [Bridge.perform, equal]
        obtain ⟨_, _, _, _, rfl⟩ := Bus.advertise_eq_ok advertised
        exact ⟨running.loaded, running.goesOn⟩
  | createSubscriber hasEntryPoint topic typeName callback options =>
      rcases bridge.createSubscriber_cases hasEntryPoint topic typeName callback options with
        ⟨_, after, equal, refuses⟩ | ⟨_, _, _, _, bus, _, _, _, subscribed, equal⟩
      · simp only [Bridge.perform, equal]
        exact running.of_same (.refuse refuses)
      · simp only [Bridge.perform, equal]
        obtain ⟨_, _, _, _, rfl⟩ := Bus.subscribe_eq_ok subscribed
        exact ⟨running.loaded, running.goesOn⟩
  | destroy handle =>
      simp only [Bridge.perform, Bridge.destroy_snd]
      exact running.dropAll [handle]
  | destroyKind handle kind =>
      obtain ⟨handles, equal⟩ := bridge.destroyKind_snd handle kind
      simp only [Bridge.perform, equal]
      exact running.dropAll handles
  | destroyOwnedBy script => exact running.dropAll _
  | clear => exact running.dropAll _
  | shutdown =>
      have cleared := running.dropAll bridge.handles
      exact ⟨cleared.loaded, cleared.goesOn⟩
  | unload => exact absurd rfl stays
  | publish handle payload =>
      rcases bridge.publish_cases handle payload with ⟨_, equal⟩ | ⟨publisher, _, equal⟩
      · simp only [Bridge.perform, equal]
        exact running
      · simp only [Bridge.perform, equal]
        exact running.publish _ _
  | publishValue handle value =>
      rcases bridge.publishValue_cases handle value with ⟨_, equal⟩ | ⟨publisher, _, _, _, equal⟩
      · simp only [Bridge.perform, equal]
        exact running
      · simp only [Bridge.perform, equal]
        exact running.publish _ _

end IsRunning

end Bridge

/-- An ordinary step asks for nothing but operations that publish what a codec
writes. -/
theorem Session.operation_ordinary {session : Session Bus Bus.Request Bus.Answer}
    {step : Step Bus.Request} (ordinary : step.isOrdinary = true) {operation : Operation}
    (asks : operation? session step = some operation) :
    operation.isTyped = true ∧ operation ≠ .unload := by
  cases step with
  | publish | stray | unload => cases ordinary
  | command script name arguments =>
      obtain ⟨command, _, rfl⟩ := Option.map_eq_some_iff.mp asks
      cases command <;> exact ⟨rfl, nofun⟩
  | event event => cases event <;> cases asks <;> exact ⟨rfl, nofun⟩
  | _ => cases asks <;> exact ⟨rfl, nofun⟩

namespace Traffic

/-- A world on whose bridge a session may go on. -/
structure IsReady (types : Catalog) (world : World Bus) : Prop where
  sound : (Traffic.mk world []).Sound types
  running : world.bridge.IsRunning

/-- A course leads from one world to another, and leaves nothing in the hands of
the workers. -/
def Leads (types : Catalog) (world after : World Bus) : Prop :=
  IsReady types world → IsReady types after ∧ ∃ past, Course ⟨world, []⟩ past ⟨after, []⟩

namespace Leads

variable {types : Catalog} {world middle after : World Bus}

theorem rest (world : World Bus) : Leads types world world :=
  fun ready => ⟨ready, [], .rest _⟩

theorem trans (first : Leads types world middle) (second : Leads types middle after) :
    Leads types world after := by
  intro ready
  obtain ⟨ready, past, course⟩ := first ready
  obtain ⟨ready, later, course'⟩ := second ready
  exact ⟨ready, past ++ later, course.trans course'⟩

/-- An event happens that leaves the bridge running. -/
theorem event (registered : types.Registered) {event : Event Bus}
    (stepped : world.step event = some after)
    (admitted : world.bridge.isLoaded = true → world.bridge.admits event = true)
    (keeps : world.bridge.IsRunning → after.bridge.IsRunning) : Leads types world after := by
  intro ready
  have happens : Traffic.step ⟨world, []⟩ (.event event) = some ⟨after, []⟩ := by
    have admitted : (Traffic.mk world []).bridge.admits event = true :=
      admitted ready.running.loaded
    simp [Traffic.step, admitted, stepped]
  exact ⟨⟨ready.sound.step registered happens, keeps ready.running⟩, _, .next happens (.rest _)⟩

/-- A drain looks at the front of the queue. -/
theorem take (registered : types.Registered) (stepped : world.step .take = some after)
    {kind : Bridge.Taken} (taken : world.bridge.takePending = (kind, after.bridge)) :
    Leads types world after := by
  refine event registered stepped (fun _ => rfl) fun running => ?_
  have same := Bridge.SameLinks.takePending world.bridge
  rw [taken] at same
  exact running.of_same same

theorem settle (registered : types.Registered) (bridge : Bridge Bus) (drains : List Drain) :
    Leads types ⟨bridge, drains⟩ ⟨bridge.settle, drains⟩ := by
  intro ready
  obtain ⟨past, course⟩ := ready.sound.settle registered rfl
  exact ⟨⟨course.sound registered ready.sound, ready.running.settle⟩, past, course⟩

/-- Whatever an ordinary step does that runs no drain, it does by one event. -/
theorem brief (registered : types.Registered) {step : Step Bus.Request}
    (ordinary : step.isOrdinary = true) (brief : step.drains = false)
    (session : Session Bus Bus.Request Bus.Answer) (drains : List Drain)
    (free : World.isFree ⟨session.1, drains⟩ = true) :
    Leads types ⟨session.1, drains⟩
      ⟨(Session.perform (fun _ session => session) step session).2.1, drains⟩ := by
  cases own : step.takesIn with
  | true =>
      cases step with
      | stray subscription payload => cases ordinary
      | layer request =>
          cases request with
          | hold | release | shutdown => cases ordinary
          | stats | topicType | describe => exact rest _
      | _ => cases own
  | false =>
      rw [Session.bridge_perform _ brief own]
      cases asks : Session.operation? session step with
      | none => exact rest _
      | some operation =>
          obtain ⟨typed, stays⟩ := Session.operation_ordinary ordinary asks
          have stepped : World.step ⟨session.1, drains⟩ (.operation operation) =
              some ⟨session.1.perform operation, drains⟩ := by
            simp [World.step, free]
          refine event registered stepped (fun loaded => ?_) fun running => running.perform stays
          simp only [Bridge.admits, typed, Bool.and_true]
          exact loaded

/-- Courses cover whatever a session does with ordinary steps. -/
theorem covers (registered : types.Registered) :
    Session.Covers (fun world (_ : Host Bus.Request Bus.Answer) after _ => Leads types world after)
      fun step => step.isOrdinary = true where
  refl := fun world _ => rest world
  trans := trans
  brief := brief registered
  settle := fun bridge drains _ => settle registered bridge drains
  beginDrain := fun _ _ _ free => event registered (World.begins free) (fun _ => rfl) id
  nothing := fun taken budget report outer _ =>
    take registered (World.takes_nothing taken budget report outer) taken
  stale := fun taken budget report outer _ =>
    take registered (World.takes_stale taken budget report outer) taken
  due := fun taken budget report outer _ =>
    take registered (World.takes_due taken budget report outer) taken
  finish := fun bridge budget report invocation outer outcome _ =>
    event registered (World.finishes bridge budget report invocation outer outcome)
      (fun _ => rfl) fun running => running.of_same (.finish bridge invocation outcome)
  endDrain := fun bridge report outer _ =>
    event registered (World.ends bridge report outer) (fun _ => rfl) id
  react := fun _ world => rest world
  answer := fun world _ _ => rest world

end Leads

end Traffic

/-- An ordinary session on a new bridge over a new bus is a course. -/
theorem Session.isCourse {types : Catalog} (registered : types.Registered) (config : BridgeConfig)
    (options : BusConfig) {host : Host Bus.Request Bus.Answer}
    (offers : host.Offers fun step => step.isOrdinary = true) {steps : List (Step Bus.Request)}
    (ordinary : ∀ step ∈ steps, step.isOrdinary = true) :
    let after := steps.foldl (fun session step => (advance session step).2)
      (({ types, config, middleware := { config := options } }, host) : Session Bus _ _)
    (∃ past, Course (Traffic.fresh types config options) past ⟨⟨after.1, []⟩, []⟩) ∧
      ∀ id, after.1.middleware.waiting id = [] := by
  have ready : Traffic.IsReady types (World.fresh types config ({ config := options } : Bus)) :=
    ⟨Traffic.Sound.fresh types config options, rfl, rfl⟩
  obtain ⟨still, course⟩ := (Traffic.Leads.covers registered).whole ordinary
    (({ types, config, middleware := { config := options } }, host) : Session Bus _ _) offers ready
  have running := still.running.goesOn
  refine ⟨course, fun id => ?_⟩
  clear still course
  rcases List.eq_nil_or_concat steps with rfl | ⟨others, last, rfl⟩
  · rfl
  · rw [List.concat_eq_append, List.foldl_append] at running ⊢
    exact Bridge.waiting_settle _ running id

end TopicBridge
