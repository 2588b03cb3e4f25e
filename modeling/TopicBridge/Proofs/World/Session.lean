import TopicBridge.Proofs.World.Progress
import TopicBridge.Proofs.World.Queue

/-!
# Sessions are runs

Whatever a session does is a run of its bridge: each step of the stepping loop,
each step that a callback takes in the middle of a drain, and each delivery in
between is one event after another.  The calls that the host records are calls
of that run.
-/

namespace TopicBridge

variable {μ κ ρ : Type}

/-- The call that passes an invocation to its callback. -/
def Invocation.toCall (invocation : Invocation) : Call :=
  ⟨invocation.callback, [invocation.payload]⟩

/-- The calls of a run, oldest first. -/
def callsOf (past : List (Moment μ)) : List Call :=
  (past.filterMap Moment.call?).map Invocation.toCall

theorem callsOf_append (past later : List (Moment μ)) :
    callsOf (past ++ later) = callsOf past ++ callsOf later := by
  simp [callsOf]

/-- A run leads from one world to another, and the calls that the host records
meanwhile are among those of the run. -/
def Leads [Middleware μ] (world : World μ) (host : Host κ ρ) (after : World μ)
    (host' : Host κ ρ) : Prop :=
  ∃ past, Run world past after ∧
    host'.calls.toList.Sublist (host.calls.toList ++ callsOf past)

namespace Leads

section

variable [Middleware μ] {world middle after : World μ} {host host' host'' : Host κ ρ}

/-- Nothing happens, and the host records no call. -/
theorem rest (world : World μ) (quiet : host'.calls.toList.Sublist host.calls.toList) :
    Leads world host world host' :=
  ⟨[], Run.start, by simpa [callsOf] using quiet⟩

theorem unheard (world : World μ) (same : host'.calls = host.calls) :
    Leads world host world host' :=
  rest world (same ▸ List.Sublist.refl _)

theorem trans (first : Leads world host middle host') (second : Leads middle host' after host'') :
    Leads world host after host'' := by
  obtain ⟨past, run, recorded⟩ := first
  obtain ⟨later, continued, recorded'⟩ := second
  refine ⟨past ++ later, run.trans continued, ?_⟩
  rw [callsOf_append, ← List.append_assoc]
  exact recorded'.trans (recorded.append_right _)

/-- An event happens, and the host records no call. -/
theorem event {event : Event μ} (stepped : world.step event = some after) :
    Leads world host after host :=
  ⟨_, Run.single stepped, List.sublist_append_left _ _⟩

/-- An event calls a callback, and the host records the call. -/
theorem called {event : Event μ} {invocation : Invocation}
    (stepped : world.step event = some after)
    (calls : (Moment.mk world event).call? = some invocation)
    (records : host'.calls = host.calls.push invocation.toCall) :
    Leads world host after host' := by
  refine ⟨_, Run.single stepped, ?_⟩
  simp [callsOf, calls, records]

end

section

variable [Middleware μ] (bridge : Bridge μ) (drains : List Drain) (host : Host κ ρ)

theorem operation (free : World.isFree ⟨bridge, drains⟩ = true) (operation : Operation) :
    Leads ⟨bridge, drains⟩ host ⟨bridge.perform operation, drains⟩ host := by
  have stepped : World.step ⟨bridge, drains⟩ (.operation operation) =
      some ⟨bridge.perform operation, drains⟩ := by
    simp [World.step, free]
  exact event stepped

theorem deliverAll (arrivals : List Arrival) :
    Leads ⟨bridge, drains⟩ host ⟨bridge.deliverAll arrivals, drains⟩ host := by
  induction arrivals generalizing bridge with
  | nil => exact unheard _ rfl
  | cons arrival later ih =>
      have stepped : World.step ⟨bridge, drains⟩ (.deliver arrival.1 arrival.2) =
          some ⟨bridge.deliver arrival.1 arrival.2, drains⟩ := rfl
      exact (event stepped).trans (ih _)

/-- The messaging layer moves on, and the bridge takes in what it delivers. -/
theorem layer (middleware : μ) (arrivals : List Arrival) :
    Leads ⟨bridge, drains⟩ host
      ⟨{ bridge with middleware }.deliverAll arrivals, drains⟩ host := by
  have stepped : World.step ⟨bridge, drains⟩ (.layer middleware) =
      some ⟨{ bridge with middleware }, drains⟩ := rfl
  exact (event stepped).trans (deliverAll _ drains host arrivals)

end

/-- A host records the calls that succeed. -/
theorem calls_call (host : Host κ ρ) (invocation : Invocation) :
    (host.call invocation.callback [invocation.payload]).2.calls = host.calls ∨
      (host.call invocation.callback [invocation.payload]).2.calls =
        host.calls.push invocation.toCall := by
  unfold Host.call
  split
  · exact Or.inl rfl
  · split
    · exact Or.inl rfl
    · exact Or.inr rfl

theorem calls_nextReaction? {host host' : Host κ ρ} {callback : Callback} {steps : List (Step κ)}
    (next : host.nextReaction? callback = some (steps, host')) : host'.calls = host.calls := by
  unfold Host.nextReaction? at next
  split at next
  · cases next
    rfl
  · cases next

variable [SteeredMiddleware μ κ ρ]

/-- Whatever a step does that runs no drain, it does by events. -/
theorem brief {step : Step κ} (brief : step.drains = false) (session : Session μ κ ρ)
    (drains : List Drain) (free : World.isFree ⟨session.1, drains⟩ = true) :
    let after := (Session.perform (fun _ session => session) step session).2
    Leads ⟨session.1, drains⟩ session.2 ⟨after.1, drains⟩ after.2 := by
  cases own : step.takesIn with
  | true =>
      cases step with
      | stray subscription payload =>
          exact deliverAll session.1 drains session.2 [(subscription, payload)]
      | layer request => exact layer session.1 drains session.2 _ _
      | _ => cases own
  | false =>
      have does := Session.bridge_perform (fun _ session => session) brief own session
      have quiet := Session.calls_perform (fun _ session => session) brief session
      generalize Session.perform (fun _ session => session) step session = after at does quiet ⊢
      dsimp only
      rw [does]
      cases Session.operation? session step with
      | none => exact rest _ quiet
      | some operation =>
          exact (Leads.operation session.1 drains session.2 free operation).trans (rest _ quiet)

/-- Runs cover whatever a session does. -/
theorem covers : Session.Covers (Leads : World μ → Host κ ρ → _) fun _ => True where
  refl := fun world _ => unheard world rfl
  trans := trans
  brief := fun _ => brief
  settle := fun bridge drains host => layer bridge drains host _ _
  beginDrain := fun _ _ _ free => event (World.begins free)
  nothing := fun taken budget report outer _ => event (World.takes_nothing taken budget report outer)
  stale := fun taken budget report outer _ => event (World.takes_stale taken budget report outer)
  due := by
    intro bridge next invocation taken budget report outer host
    have stepped := World.takes_due taken budget report outer
    rcases calls_call host invocation with same | records
    · exact (event stepped).trans (unheard _ same)
    · exact called stepped (by simp [Moment.call?, taken]) records
  finish := fun bridge budget report invocation outer outcome _ =>
    event (World.finishes bridge budget report invocation outer outcome)
  endDrain := fun bridge report outer _ => event (World.ends bridge report outer)
  react := fun used world => unheard world (calls_nextReaction? used)
  answer := fun world _ _ => unheard world rfl

end Leads

/-- A whole session is a run of its bridge, and the host is called only by it. -/
theorem Session.isRun [SteeredMiddleware μ κ ρ] (steps : List (Step κ)) (session : Session μ κ ρ) :
    let after := steps.foldl (fun session step => (advance session step).2) session
    ∃ past, Run ⟨session.1, []⟩ past ⟨after.1, []⟩ ∧
      after.2.calls.toList.Sublist (session.2.calls.toList ++ callsOf past) :=
  Leads.covers.whole (fun _ _ => trivial) session fun _ _ _ _ _ => trivial

end TopicBridge
