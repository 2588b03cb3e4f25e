import TopicBridge.Bridge.Basic

/-!
# Delivering messages and calling scripts

A message that comes in is read and queued, unless its subscriber incarnation
is gone or the queue is full.  A drain takes invocations off the front of the
queue one at a time.  One whose subscriber incarnation is gone is discarded; any
other is passed to its callback, which may itself use the bridge, drain
included, before the outer drain goes on.
-/

namespace TopicBridge

/-- What one drain did with the invocations it took. -/
structure DrainReport where
  /-- Callbacks that ran to completion. -/
  invoked : Nat := 0
  /-- Invocations whose subscriber was gone. -/
  discarded : Nat := 0
  /-- Callbacks that failed. -/
  failed : Nat := 0
  deriving DecidableEq

/-- The number of invocations that a drain took. -/
def DrainReport.total (report : DrainReport) : Nat :=
  report.invoked + report.discarded + report.failed

namespace Bridge

variable {μ : Type}

/-- The subscriber incarnation of an invocation is live. -/
def isLive (bridge : Bridge μ) (invocation : Invocation) : Bool :=
  (bridge.table.callbackOf? invocation.handle invocation.generation).isSome

/-- Queue a message for a callback, unless the queue is full. -/
def enqueue (bridge : Bridge μ) (invocation : Invocation) : Bridge μ :=
  if bridge.pending.size < bridge.config.queueCapacity then
    { bridge with pending := bridge.pending.push invocation }.count fun c =>
      { c with enqueued := c.enqueued + 1 }
  else
    (bridge.count fun c => { c with droppedQueueFull := c.droppedQueueFull + 1 }).report
      (.queueFull invocation.handle)

/-- Take in a payload for a target. -/
def receive (bridge : Bridge μ) (target : Target) (payload : Bytes) : Bridge μ :=
  let counted := bridge.count fun c => { c with delivered := c.delivered + 1 }
  match target.codec.decode payload with
  | .error e =>
      (counted.count fun c => { c with decodeFailures := c.decodeFailures + 1 }).report
        (.unreadable target.handle e)
  | .ok value =>
      match counted.table.callbackOf? target.handle target.generation with
      | none => counted.count fun c => { c with droppedUnknown := c.droppedUnknown + 1 }
      | some callback => counted.enqueue ⟨target.handle, target.generation, callback, value⟩

/-- Take in a payload of a subscription, open or not.  A bridge that is not
loaded takes nothing in. -/
def deliver (bridge : Bridge μ) (subscription : SubscriptionId) (payload : Bytes) : Bridge μ :=
  if bridge.isLoaded then
    match Dict.get? bridge.targets subscription with
    | none => bridge
    | some target => bridge.receive target payload
  else bridge

/-- Take in messages in order. -/
def deliverAll (bridge : Bridge μ) (arrivals : List Arrival) : Bridge μ :=
  arrivals.foldl (fun b arrival => b.deliver arrival.1 arrival.2) bridge

/-- Take in everything that the messaging layer can deliver now. -/
def settle [Middleware μ] (bridge : Bridge μ) : Bridge μ :=
  let (arrivals, middleware) := Middleware.arrivals bridge.middleware
  { bridge with middleware }.deliverAll arrivals

/-- What comes of looking at the front of the queue. -/
inductive Taken where
  /-- The queue is empty. -/
  | nothing
  /-- The invocation was discarded, because its subscriber is gone. -/
  | stale
  /-- The invocation is to be passed to its callback. -/
  | due (invocation : Invocation)

/-- Take an invocation off the front of the queue. -/
def takePending (bridge : Bridge μ) : Taken × Bridge μ :=
  match bridge.pending.pop? with
  | none => (.nothing, bridge)
  | some (invocation, rest) =>
      let taken := { bridge with pending := rest }
      if taken.isLive invocation then (.due invocation, taken)
      else (.stale, taken.count fun c => { c with discardedStale := c.discardedStale + 1 })

/-- Record how the call of an invocation ended. -/
def finish (bridge : Bridge μ) (invocation : Invocation) : Except String Unit → Bridge μ
  | .ok () => bridge.count fun c => { c with invoked := c.invoked + 1 }
  | .error reason =>
      (bridge.count fun c => { c with invokeFailures := c.invokeFailures + 1 }).report
        (.callbackFailed invocation.handle reason)

end Bridge

/-- Add the end of a call to a report. -/
def DrainReport.finish (report : DrainReport) : Except String Unit → DrainReport
  | .ok () => { report with invoked := report.invoked + 1 }
  | .error _ => { report with failed := report.failed + 1 }

/-- A drain in progress. -/
structure Drain where
  /-- How many invocations it may still take. -/
  budget : Nat
  report : DrainReport
  /-- The invocation whose callback is running. -/
  running : Option Invocation

namespace Bridge

variable {μ η : Type}

/-- Let a drain go on that may take one more invocation, and has `budget` left
after that.  It calls the callback of what it finds, unless the subscriber is
gone, and it is over if the queue is empty. -/
def takeNext (bridge : Bridge μ) (budget : Nat) (report : DrainReport) : Drain × Bridge μ :=
  match bridge.takePending with
  | (.nothing, bridge) => (⟨0, report, none⟩, bridge)
  | (.stale, bridge) =>
      (⟨budget, { report with discarded := report.discarded + 1 }, none⟩, bridge)
  | (.due invocation, bridge) => (⟨budget, report, some invocation⟩, bridge)

/-- Let a drain go on whose callback has returned. -/
def endCall (bridge : Bridge μ) (budget : Nat) (report : DrainReport) (invocation : Invocation)
    (outcome : Except String Unit) : Drain × Bridge μ :=
  (⟨budget, report.finish outcome, none⟩, bridge.finish invocation outcome)

/-- Take up to a number of invocations.  The scripting host `η` is reached by
`call`, which passes an invocation to its callback and tells how the call
ended; meanwhile the callback may have used the bridge. -/
def drainUpTo (call : Invocation → Bridge μ × η → Except String Unit × Bridge μ × η) :
    (budget : Nat) → DrainReport → Bridge μ × η → DrainReport × Bridge μ × η
  | 0, report, world => (report, world)
  | budget + 1, report, (bridge, host) =>
      match bridge.takeNext budget report with
      | (⟨_, report, some invocation⟩, bridge) =>
          let (outcome, bridge, host) := call invocation (bridge, host)
          let (drain, bridge) := bridge.endCall budget report invocation outcome
          drainUpTo call budget drain.report (bridge, host)
      | (⟨0, report, none⟩, bridge) => (report, bridge, host)
      | (⟨_ + 1, report, none⟩, bridge) => drainUpTo call budget report (bridge, host)

/-- Take pending invocations, oldest first, up to the budget. -/
def drain (call : Invocation → Bridge μ × η → Except String Unit × Bridge μ × η)
    (world : Bridge μ × η) : DrainReport × Bridge μ × η :=
  drainUpTo call world.1.config.effectiveBudget {} world

end Bridge

end TopicBridge
