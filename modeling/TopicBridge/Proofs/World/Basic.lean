import TopicBridge.Bridge.Delivery
import TopicBridge.Bridge.Proxies

/-!
# Worlds and their runs

A world is a bridge together with the drains that are in progress on it.  Drains
nest: the callback that a drain is running may use the bridge and start a drain
of its own.  An event is the smallest thing that can happen to a world, and a
run records every event with the world in which it happened, oldest first.

Messages come in at any moment and the messaging layer moves on by itself at any
moment.  Everything else is done by the stepping loop, or by the callback that
the innermost drain is running.
-/

namespace TopicBridge

/-- A bridge and the drains in progress on it, the innermost first. -/
structure World (μ : Type) where
  bridge : Bridge μ
  drains : List Drain

/-- What the stepping loop or a callback may ask of a bridge, drains apart. -/
inductive Operation where
  | createPublisher (owner : ScriptId) (topic typeName : String) (options : AdvertiseOptions)
  | createSubscriber (hasEntryPoint : Callback → Bool) (topic typeName : String)
      (callback : Callback) (options : SubscribeOptions)
  | destroy (handle : Handle)
  | destroyKind (handle : Handle) (kind : ProxyKind)
  | destroyOwnedBy (script : ScriptId)
  | clear
  | shutdown
  | unload
  | publish (handle : Handle) (payload : Bytes)
  | publishValue (handle : Handle) (value : Value)

/-- The operation drops what is queued. -/
def Operation.flushes : Operation → Bool
  | .shutdown => true
  | .unload => true
  | _ => false

/-- What can happen to a world. -/
inductive Event (μ : Type) where
  | operation (operation : Operation)
  /-- A payload comes in for a subscription, open or not. -/
  | deliver (subscription : SubscriptionId) (payload : Bytes)
  /-- The messaging layer moves on. -/
  | layer (middleware : μ)
  | beginDrain
  /-- The innermost drain looks at the front of the queue, and calls the
  callback of what it finds unless its subscriber is gone. -/
  | take
  /-- The callback that the innermost drain is running returns. -/
  | finish (outcome : Except String Unit)
  | endDrain

variable {μ : Type}

/-- The bridge after an operation, successful or not. -/
def Bridge.perform [Middleware μ] (bridge : Bridge μ) : Operation → Bridge μ
  | .createPublisher owner topic typeName options =>
      (bridge.createPublisher owner topic typeName options).2
  | .createSubscriber hasEntryPoint topic typeName callback options =>
      (bridge.createSubscriber hasEntryPoint topic typeName callback options).2
  | .destroy handle => (bridge.destroy handle).2
  | .destroyKind handle kind => (bridge.destroyKind handle kind).2
  | .destroyOwnedBy script => (bridge.destroyOwnedBy script).2
  | .clear => bridge.clear.2
  | .shutdown => bridge.shutdown
  | .unload => bridge.unload
  | .publish handle payload => (bridge.publish handle payload).2
  | .publishValue handle value => (bridge.publishValue handle value).2

namespace World

/-- The world of a new bridge. -/
def fresh (types : Catalog) (config : BridgeConfig) (middleware : μ) : World μ :=
  ⟨{ types, config, middleware }, []⟩

/-- The stepping loop is free, or a callback is running. -/
def isFree (world : World μ) : Bool :=
  match world.drains with
  | [] => true
  | drain :: _ => drain.running.isSome

/-- The innermost drain goes on: it may take one more invocation, and has `budget`
left after that. -/
def takeNext (bridge : Bridge μ) (budget : Nat) (report : DrainReport) (outer : List Drain) :
    World μ :=
  let (drain, bridge) := bridge.takeNext budget report
  ⟨bridge, drain :: outer⟩

/-- The world after an event, if the event can happen. -/
def step [Middleware μ] (world : World μ) : Event μ → Option (World μ)
  | .operation operation =>
      if world.isFree then some { world with bridge := world.bridge.perform operation } else none
  | .deliver subscription payload =>
      some { world with bridge := world.bridge.deliver subscription payload }
  | .layer middleware => some { world with bridge := { world.bridge with middleware } }
  | .beginDrain =>
      if world.isFree then
        some { world with drains := ⟨world.bridge.config.effectiveBudget, {}, none⟩ :: world.drains }
      else none
  | .take =>
      match world.drains with
      | ⟨budget + 1, report, none⟩ :: outer => some (takeNext world.bridge budget report outer)
      | _ => none
  | .finish outcome =>
      match world.drains with
      | ⟨budget, report, some invocation⟩ :: outer =>
          let (drain, bridge) := world.bridge.endCall budget report invocation outcome
          some ⟨bridge, drain :: outer⟩
      | _ => none
  | .endDrain =>
      match world.drains with
      | ⟨0, _, none⟩ :: outer => some { world with drains := outer }
      | _ => none

variable [Middleware μ] {world after : World μ}

/-! What each event needs and does. -/

theorem step_operation {operation : Operation}
    (stepped : world.step (.operation operation) = some after) :
    world.isFree = true ∧ after = { world with bridge := world.bridge.perform operation } := by
  simp only [step] at stepped
  split at stepped
  · rename_i free
    exact ⟨free, (Option.some.inj stepped).symm⟩
  · contradiction

theorem step_beginDrain (stepped : world.step .beginDrain = some after) :
    world.isFree = true ∧ after = { world with
      drains := ⟨world.bridge.config.effectiveBudget, {}, none⟩ :: world.drains } := by
  simp only [step] at stepped
  split at stepped
  · rename_i free
    exact ⟨free, (Option.some.inj stepped).symm⟩
  · contradiction

theorem step_take (stepped : world.step .take = some after) :
    ∃ budget report outer, world.drains = ⟨budget + 1, report, none⟩ :: outer ∧
      after = takeNext world.bridge budget report outer := by
  simp only [step] at stepped
  split at stepped
  · rename_i budget report outer idle
    exact ⟨budget, report, outer, idle, (Option.some.inj stepped).symm⟩
  · contradiction

theorem step_finish {outcome : Except String Unit}
    (stepped : world.step (.finish outcome) = some after) :
    ∃ budget report invocation outer,
      world.drains = ⟨budget, report, some invocation⟩ :: outer ∧
        after = ⟨world.bridge.finish invocation outcome,
          ⟨budget, report.finish outcome, none⟩ :: outer⟩ := by
  simp only [step] at stepped
  split at stepped
  · rename_i budget report invocation outer busy
    exact ⟨budget, report, invocation, outer, busy, (Option.some.inj stepped).symm⟩
  · contradiction

theorem step_endDrain (stepped : world.step .endDrain = some after) :
    ∃ report outer, world.drains = ⟨0, report, none⟩ :: outer ∧
      after = { world with drains := outer } := by
  simp only [step] at stepped
  split at stepped
  · rename_i report outer spent
    exact ⟨report, outer, spent, (Option.some.inj stepped).symm⟩
  · contradiction

end World

/-- An event of a run, with the world in which it happened. -/
structure Moment (μ : Type) where
  world : World μ
  event : Event μ

/-- The moments of events that happen one after another, if they all can, and
the world after them. -/
def World.replay [Middleware μ] (world : World μ) :
    List (Event μ) → Option (List (Moment μ) × World μ)
  | [] => some ([], world)
  | event :: rest => do
      let after ← world.step event
      let (moments, last) ← after.replay rest
      return (⟨world, event⟩ :: moments, last)

/-- The events that lead from one world to another, oldest first. -/
inductive Run [Middleware μ] (start : World μ) : List (Moment μ) → World μ → Prop
  | start : Run start [] start
  | next {past : List (Moment μ)} {world after : World μ} {event : Event μ} :
      Run start past world → world.step event = some after →
      Run start (past ++ [⟨world, event⟩]) after

namespace Run

variable [Middleware μ] {start world middle after : World μ} {past later : List (Moment μ)}

/-- One event is a run. -/
theorem single {event : Event μ} (stepped : world.step event = some after) :
    Run world [⟨world, event⟩] after :=
  Run.next Run.start stepped

/-- A run can be continued by another one. -/
theorem trans (first : Run start past middle) (second : Run middle later after) :
    Run start (past ++ later) after := by
  induction second with
  | start => simpa using first
  | next _ stepped ih =>
      rw [← List.append_assoc]
      exact Run.next ih stepped

/-- Events that can happen one after another make a run. -/
theorem ofReplay {events : List (Event μ)}
    (replayed : world.replay events = some (past, after)) : Run world past after := by
  induction events generalizing world past with
  | nil =>
      cases replayed
      exact Run.start
  | cons event rest ih =>
      obtain ⟨next, stepped, replayed⟩ := Option.bind_eq_some_iff.mp replayed
      obtain ⟨⟨moments, last⟩, later, same⟩ := Option.bind_eq_some_iff.mp replayed
      cases same
      exact (Run.single stepped).trans (ih later)

omit [Middleware μ] in
/-- A position in a run that has one more moment is an earlier one or the last. -/
theorem getElem?_snoc {moment last : Moment μ} {position : Nat}
    (found : (past ++ [last])[position]? = some moment) :
    past[position]? = some moment ∨ position = past.length ∧ last = moment := by
  by_cases earlier : position < past.length
  · rw [List.getElem?_append_left earlier] at found
    exact Or.inl found
  · rw [List.getElem?_append_right (Nat.le_of_not_lt earlier)] at found
    obtain ⟨bound, same⟩ := List.getElem?_eq_some_iff.mp found
    have : position - past.length < 1 := bound
    have isLast : position = past.length := by omega
    subst isLast
    exact Or.inr ⟨rfl, by simpa using same⟩

/-- What happened before a moment of a run is itself a run, which ends in the
world of that moment. -/
theorem before (run : Run start past after) {position : Nat} {moment : Moment μ}
    (found : past[position]? = some moment) :
    Run start (past.take position) moment.world := by
  induction run with
  | start => simp at found
  | @next past world after event run _ ih =>
      rcases getElem?_snoc found with earlier | ⟨rfl, rfl⟩
      · have bound := (List.getElem?_eq_some_iff.mp earlier).1
        rw [List.take_append_of_le_length (Nat.le_of_lt bound)]
        exact ih earlier
      · simpa using run

/-- What happened after a moment of a run is itself a run, which starts in the
world that the moment led to. -/
theorem onward (run : Run start past after) {position : Nat} {moment : Moment μ}
    (found : past[position]? = some moment) :
    ∃ next, moment.world.step moment.event = some next ∧
      Run next (past.drop (position + 1)) after := by
  induction run with
  | start => cases found
  | @next past world after event run stepped ih =>
      rcases getElem?_snoc found with earlier | ⟨rfl, rfl⟩
      · rcases ih earlier with ⟨next, first, rest⟩
        have bound := (List.getElem?_eq_some_iff.mp earlier).1
        rw [List.drop_append_of_le_length bound]
        exact ⟨next, first, rest.next stepped⟩
      · have nothing : (past ++ [Moment.mk world event]).drop (past.length + 1) = [] :=
          List.drop_eq_nil_of_le (Nat.le_of_eq List.length_append)
        rw [nothing]
        exact ⟨after, stepped, Run.start⟩

theorem eq_of_nil (run : Run start [] after) : after = start := by
  generalize nothing : ([] : List (Moment μ)) = past at run
  cases run with
  | start => rfl
  | next => exact absurd nothing.symm (List.append_ne_nil_of_right_ne_nil _ (List.cons_ne_nil _ _))

/-- A run of some moments begins with the first of them. -/
theorem uncons {moment : Moment μ} (run : Run start (moment :: later) after) :
    moment.world = start ∧ ∃ next, start.step moment.event = some next ∧ Run next later after := by
  have first : (moment :: later)[0]? = some moment := rfl
  have same : moment.world = start := (run.before first).eq_of_nil
  rw [← same]
  exact ⟨rfl, run.onward first⟩

end Run

end TopicBridge
