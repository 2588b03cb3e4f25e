import TopicBridge.Proofs.Binding.Book
import TopicBridge.Proofs.World.Progress

/-!
# Sessions use their layer alone

In a session the messaging layer does nothing but what the bridge asks of it,
what an observer steers it to do, and its deliveries.  So a session is a run of a
bridge that is the only user of its layer, callbacks included.
-/

namespace TopicBridge

variable {μ κ ρ : Type} [SteeredMiddleware μ κ ρ]

/-- The layer is steered by an observer, or delivers. -/
def Steered (layer after : μ) : Prop :=
  (∃ request : κ, after = (SteeredMiddleware.steer layer request).2.2) ∨
    after = (Middleware.arrivals layer).2

/-- A run leads from one world to another in which the bridge uses its layer
alone. -/
def Attains (world after : World μ) : Prop :=
  ∃ past, Run world past after ∧ OnlyUser Steered past

namespace Attains

variable {world middle after : World μ}

theorem refl (world : World μ) : Attains world world :=
  ⟨[], Run.start, fun _ member => nomatch member⟩

theorem trans (first : Attains world middle) (second : Attains middle after) :
    Attains world after := by
  obtain ⟨past, run, alone⟩ := first
  obtain ⟨later, continued, alone'⟩ := second
  refine ⟨past ++ later, run.trans continued, fun moment member => ?_⟩
  rcases List.mem_append.mp member with earlier | later
  · exact alone moment earlier
  · exact alone' moment later

theorem single {event : Event μ} (stepped : world.step event = some after)
    (owned : ∀ middleware, event = .layer middleware →
      Steered world.bridge.middleware middleware) : Attains world after :=
  ⟨_, Run.single stepped, fun moment member => by
    rw [List.mem_singleton] at member
    subst member
    exact owned⟩

/-- An event that is none of the layer happens. -/
theorem event {event : Event μ} (stepped : world.step event = some after)
    (other : ∀ middleware, event ≠ .layer middleware) : Attains world after :=
  single stepped fun middleware same => absurd same (other middleware)

variable (bridge : Bridge μ) (drains : List Drain)

theorem deliverAll (arrivals : List Arrival) :
    Attains ⟨bridge, drains⟩ ⟨bridge.deliverAll arrivals, drains⟩ := by
  induction arrivals generalizing bridge with
  | nil => exact refl _
  | cons arrival later ih =>
      have stepped : World.step ⟨bridge, drains⟩ (.deliver arrival.1 arrival.2) =
          some ⟨bridge.deliver arrival.1 arrival.2, drains⟩ := rfl
      exact (event stepped fun _ => nofun).trans (ih _)

/-- The layer moves on, and the bridge takes in what it delivers. -/
theorem layer {middleware : μ} (steered : Steered bridge.middleware middleware)
    (arrivals : List Arrival) :
    Attains ⟨bridge, drains⟩ ⟨{ bridge with middleware }.deliverAll arrivals, drains⟩ := by
  have stepped : World.step ⟨bridge, drains⟩ (.layer middleware) =
      some ⟨{ bridge with middleware }, drains⟩ := rfl
  refine (single stepped fun moved same => ?_).trans (deliverAll _ drains arrivals)
  cases same
  exact steered

/-- Whatever a step does that runs no drain, it does without another user. -/
theorem brief {step : Step κ} (brief : step.drains = false) (session : Session μ κ ρ)
    (drains : List Drain) (free : World.isFree ⟨session.1, drains⟩ = true) :
    Attains ⟨session.1, drains⟩
      ⟨(Session.perform (fun _ session => session) step session).2.1, drains⟩ := by
  cases own : step.takesIn with
  | true =>
      cases step with
      | stray subscription payload =>
          exact deliverAll session.1 drains [(subscription, payload)]
      | layer request => exact layer session.1 drains (Or.inl ⟨request, rfl⟩) _
      | _ => cases own
  | false =>
      rw [Session.bridge_perform (fun _ session => session) brief own session]
      cases Session.operation? session step with
      | none => exact refl _
      | some operation =>
          have stepped : World.step ⟨session.1, drains⟩ (.operation operation) =
              some ⟨session.1.perform operation, drains⟩ := by
            simp [World.step, free]
          exact event stepped fun _ same => by cases same

theorem covers : Session.Covers (fun world (_ : Host κ ρ) after _ => Attains (μ := μ) world after)
    fun _ => True where
  refl := fun world _ => refl world
  trans := trans
  brief := fun _ => brief
  settle := fun bridge drains _ => layer bridge drains (Or.inr rfl) _
  beginDrain := fun _ _ _ free => event (World.begins free) fun _ => nofun
  nothing := fun taken budget report outer _ =>
    event (World.takes_nothing taken budget report outer) fun _ => nofun
  stale := fun taken budget report outer _ =>
    event (World.takes_stale taken budget report outer) fun _ => nofun
  due := fun taken budget report outer _ =>
    event (World.takes_due taken budget report outer) fun _ => nofun
  finish := fun bridge budget report invocation outer outcome _ =>
    event (World.finishes bridge budget report invocation outer outcome) fun _ => nofun
  endDrain := fun bridge report outer _ => event (World.ends bridge report outer) fun _ => nofun
  react := fun _ world => refl world
  answer := fun world _ _ => refl world

end Attains

/-- A whole session is a run in which the bridge uses its layer alone. -/
theorem Session.attains (steps : List (Step κ)) (session : Session μ κ ρ) :
    Attains ⟨session.1, []⟩
      ⟨(steps.foldl (fun session step => (advance session step).2) session).1, []⟩ :=
  Attains.covers.whole (fun _ _ => trivial) session fun _ _ _ _ _ => trivial

end TopicBridge
