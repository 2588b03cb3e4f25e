import TopicBridge.Proofs.World.Session

/-!
# Stages

A stage is a world with the scripting host that its drains call.  An act is the
smallest thing that can happen on a stage: the stepping loop, or the callback
that is running, takes a step; the messaging layer moves on and delivers; a
drain begins, takes from the queue, gets a callback back, or ends; or the host
does something of its own.

What an act shows is what comes out of it, and the view of a stage is all that
can be learned by asking.  Generations are in neither.
-/

namespace TopicBridge

variable {μ κ ρ : Type}

/-- A world and the host that runs its scripts. -/
structure Stage (μ κ ρ : Type) where
  world : World μ
  host : Host κ ρ

/-- Something that a host does of its own, whatever failures its scripts were
told. -/
structure HostMove (κ ρ : Type) where
  move : Host κ ρ → Host κ ρ
  blind : ∀ host failures, move { host with failures } = { move host with failures }

/-- What can happen on a stage. -/
inductive Act (μ κ ρ : Type) where
  /-- The stepping loop or a callback takes a step that runs no drain. -/
  | step (step : Step κ)
  /-- The messaging layer moves on, and the bridge takes in what it delivers. -/
  | layer (move : μ → List Arrival × μ)
  | beginDrain
  | take
  | finish (outcome : Except String Unit)
  | endDrain
  | host (move : HostMove κ ρ)

/-- What comes out of an act. -/
structure Shown (ρ : Type) where
  answer : Option (Answer ρ) := none
  arrivals : List Arrival := []
  /-- The call that the host is asked to make. -/
  call : Option Call := none
  /-- The report of a drain that is over. -/
  report : Option DrainReport := none
  /-- The command and the message of the failures that scripts are told. -/
  told : List (String × String) := []

/-- What can be learned about a stage. -/
structure View (μ : Type) where
  handles : List Handle
  info : Handle → Except BridgeError ProxyInfo
  callback : Handle → Except BridgeError Callback
  stats : Stats
  description : String
  reports : Array BridgeError
  middleware : μ
  calls : Array Call
  /-- What the drains in progress have to report so far. -/
  drains : List DrainReport

namespace Stage

/-- The stage of a new bridge. -/
def fresh (types : Catalog) (config : BridgeConfig) (middleware : μ) (host : Host κ ρ) :
    Stage μ κ ρ :=
  ⟨.fresh types config middleware, host⟩

/-- What can be learned about a stage. -/
def view (stage : Stage μ κ ρ) : View μ where
  handles := stage.world.bridge.handles
  info := stage.world.bridge.info
  callback := stage.world.bridge.lookupCallback
  stats := stage.world.bridge.stats
  description := stage.world.bridge.describe
  reports := stage.world.bridge.reports
  middleware := stage.world.bridge.middleware
  calls := stage.host.calls
  drains := stage.world.drains.map Drain.report

/-- The host after a drain has looked at the front of the queue. -/
def answerCall (host : Host κ ρ) : Option Invocation → Host κ ρ
  | none => host
  | some invocation => (host.call invocation.callback [invocation.payload]).2

/-- What an act shows and the stage after it, if the act can happen. -/
def act [SteeredMiddleware μ κ ρ] (stage : Stage μ κ ρ) :
    Act μ κ ρ → Option (Shown ρ × Stage μ κ ρ)
  | .step step =>
      if stage.world.isFree && !step.drains then
        let (answer, bridge, host) :=
          Session.perform (fun _ session => session) step (stage.world.bridge, stage.host)
        some ({ answer := some answer, told := host.failures.drop stage.host.failures.length },
          ⟨⟨bridge, stage.world.drains⟩, host⟩)
      else none
  | .layer move =>
      let (arrivals, middleware) := move stage.world.bridge.middleware
      let bridge := { stage.world.bridge with middleware }.deliverAll arrivals
      some ({ arrivals }, ⟨⟨bridge, stage.world.drains⟩, stage.host⟩)
  | .beginDrain =>
      (stage.world.step .beginDrain).map fun world => ({}, ⟨world, stage.host⟩)
  | .take =>
      let called := (Moment.mk stage.world .take).call?
      (stage.world.step .take).map fun world =>
        ({ call := called.map Invocation.toCall }, ⟨world, answerCall stage.host called⟩)
  | .finish outcome =>
      (stage.world.step (.finish outcome)).map fun world => ({}, ⟨world, stage.host⟩)
  | .endDrain =>
      (stage.world.step .endDrain).map fun world =>
        ({ report := stage.world.drains.head?.map Drain.report }, ⟨world, stage.host⟩)
  | .host move => some ({}, ⟨stage.world, move.move stage.host⟩)

/-- What acts show one after another, each with the view after it, and the stage
after them, if they all can happen. -/
def play [SteeredMiddleware μ κ ρ] (stage : Stage μ κ ρ) :
    List (Act μ κ ρ) → Option (List (Shown ρ × View μ) × Stage μ κ ρ)
  | [] => some ([], stage)
  | act :: rest => do
      let (shown, next) ← stage.act act
      let (later, last) ← next.play rest
      return ((shown, next.view) :: later, last)

/-- Everything that can be learned while acts happen. -/
def trace [SteeredMiddleware μ κ ρ] (stage : Stage μ κ ρ) (acts : List (Act μ κ ρ)) :
    Option (List (Shown ρ × View μ)) :=
  (stage.play acts).map Prod.fst

variable [SteeredMiddleware μ κ ρ] {stage after : Stage μ κ ρ}

theorem play_cons (stage : Stage μ κ ρ) (act : Act μ κ ρ) (rest : List (Act μ κ ρ)) :
    stage.play (act :: rest) = (stage.act act).bind fun acted =>
      (acted.2.play rest).map fun played => ((acted.1, acted.2.view) :: played.1, played.2) := by
  rw [play]
  cases stage.act act with
  | none => rfl
  | some acted =>
      obtain ⟨shown, next⟩ := acted
      dsimp only [Option.bind_eq_bind, Option.bind_some]
      cases next.play rest <;> rfl

/-! ## Stages and worlds -/

omit [SteeredMiddleware μ κ ρ] in
/-- Deliveries are events, whatever drains are in progress. -/
theorem run_deliverAll [Middleware μ] (world : World μ) (arrivals : List Arrival) :
    ∃ past, Run world past { world with bridge := world.bridge.deliverAll arrivals } := by
  induction arrivals generalizing world with
  | nil => exact ⟨[], Run.start⟩
  | cons arrival rest ih =>
      have delivered : world.step (.deliver arrival.1 arrival.2) =
          some { world with bridge := world.bridge.deliver arrival.1 arrival.2 } := rfl
      obtain ⟨past, run⟩ := ih { world with bridge := world.bridge.deliver arrival.1 arrival.2 }
      exact ⟨_, (Run.single delivered).trans run⟩

/-- Whatever an act does to the world, it does by events. -/
theorem run_act {act : Act μ κ ρ} {shown : Shown ρ} (acted : stage.act act = some (shown, after)) :
    ∃ past, Run stage.world past after.world := by
  obtain ⟨world, host⟩ := stage
  have single {event : Event μ} {next : World μ} (stepped : world.step event = some next) :
      ∃ past, Run world past next := ⟨_, Run.single stepped⟩
  cases act with
  | step step =>
      simp only [Stage.act] at acted
      split at acted
      · rename_i allowed
        rw [Bool.and_eq_true, Bool.not_eq_true'] at allowed
        cases acted
        obtain ⟨past, run, _⟩ := Leads.brief allowed.2 (world.bridge, host) world.drains allowed.1
        exact ⟨past, run⟩
      · cases acted
  | layer move =>
      cases acted
      generalize move world.bridge.middleware = moved
      have stepped : world.step (.layer moved.2) =
          some { world with bridge := { world.bridge with middleware := moved.2 } } := rfl
      obtain ⟨past, run⟩ := run_deliverAll
        { world with bridge := { world.bridge with middleware := moved.2 } } moved.1
      exact ⟨_, (Run.single stepped).trans run⟩
  | beginDrain | take | finish | endDrain =>
      obtain ⟨next, stepped, same⟩ := Option.map_eq_some_iff.mp acted
      cases same
      exact single stepped
  | host move =>
      cases acted
      exact ⟨[], Run.start⟩

/-- Acts one after another are a run of the world. -/
theorem run_play {acts : List (Act μ κ ρ)} {traced : List (Shown ρ × View μ)}
    (played : stage.play acts = some (traced, after)) :
    ∃ past, Run stage.world past after.world := by
  induction acts generalizing stage traced with
  | nil =>
      cases played
      exact ⟨[], Run.start⟩
  | cons act rest ih =>
      rw [play_cons] at played
      obtain ⟨⟨shown, next⟩, acted, played⟩ := Option.bind_eq_some_iff.mp played
      obtain ⟨⟨traced, last⟩, continued, same⟩ := Option.map_eq_some_iff.mp played
      cases same
      obtain ⟨past, run⟩ := run_act acted
      obtain ⟨past', run'⟩ := ih continued
      exact ⟨past ++ past', run.trans run'⟩

end Stage

end TopicBridge
