import TopicBridge.Proofs.Stage.Basic

/-!
# Sessions are plays

A session runs a whole step at a time, and a callback takes all its steps inside
the drain that called it.  Taken apart, this is one act after another on the
stage of the session: each step, each message that comes in, each look at the
queue and each return of a callback.  So what holds of every play holds of every
session, also in the middle of its callbacks.
-/

namespace TopicBridge

variable {μ κ ρ : Type} [SteeredMiddleware μ κ ρ]

namespace Stage

variable {stage middle after : Stage μ κ ρ}

/-- Acts lead from one stage to another. -/
def Leads (stage after : Stage μ κ ρ) : Prop :=
  ∃ acts traced, stage.play acts = some (traced, after)

theorem Leads.refl (stage : Stage μ κ ρ) : stage.Leads stage :=
  ⟨[], [], rfl⟩

theorem Leads.act {act : Act μ κ ρ} {shown : Shown ρ}
    (acted : stage.act act = some (shown, after)) : stage.Leads after :=
  ⟨[act], [(shown, after.view)], by rw [play_cons, acted]; rfl⟩

theorem Leads.trans (first : stage.Leads middle) (second : middle.Leads after) :
    stage.Leads after := by
  rcases first with ⟨acts, traced, played⟩
  obtain ⟨later, traced', played'⟩ := second
  induction acts generalizing stage traced with
  | nil =>
      cases played
      exact ⟨later, traced', played'⟩
  | cons act rest ih =>
      rw [play_cons] at played
      obtain ⟨⟨shown, next⟩, acted, played⟩ := Option.bind_eq_some_iff.mp played
      obtain ⟨⟨traced, last⟩, continued, same⟩ := Option.map_eq_some_iff.mp played
      cases same
      obtain ⟨acts, traced, played⟩ := ih traced continued
      refine ⟨act :: acts, (shown, next.view) :: traced, ?_⟩
      rw [play_cons, acted]
      simp only [Option.bind_some, played, Option.map_some]

/-- What an innermost drain that may take one more invocation finds. -/
theorem act_take (bridge : Bridge μ) (host : Host κ ρ) (budget : Nat) (report : DrainReport)
    (outer : List Drain) :
    act ⟨⟨bridge, ⟨budget + 1, report, none⟩ :: outer⟩, host⟩ .take =
      match bridge.takePending with
      | (.nothing, next) => some ({}, ⟨⟨next, ⟨0, report, none⟩ :: outer⟩, host⟩)
      | (.stale, next) =>
          some ({}, ⟨⟨next, ⟨budget, { report with discarded := report.discarded + 1 }, none⟩ ::
            outer⟩, host⟩)
      | (.due invocation, next) =>
          some ({ call := some invocation.toCall },
            ⟨⟨next, ⟨budget, report, some invocation⟩ :: outer⟩,
              (host.call invocation.callback [invocation.payload]).2⟩) := by
  simp only [act, World.step, Moment.call?, World.takeNext, Bridge.takeNext]
  cases bridge.takePending with
  | mk kind next => cases kind <;> rfl

namespace Leads

/-- The host does something of its own. -/
theorem host (world : World μ) (host : Host κ ρ) (move : HostMove κ ρ) :
    Leads ⟨world, host⟩ ⟨world, move.move host⟩ := by
  have acted : Stage.act ⟨world, host⟩ (.host move) = some ({}, ⟨world, move.move host⟩) := rfl
  exact .act acted

/-- A step that runs no drain is an act. -/
theorem brief {step : Step κ} (brief : step.drains = false) (session : Session μ κ ρ)
    (drains : List Drain) (free : World.isFree ⟨session.1, drains⟩ = true) :
    let after := (Session.perform (fun _ session => session) step session).2
    Leads ⟨⟨session.1, drains⟩, session.2⟩ ⟨⟨after.1, drains⟩, after.2⟩ := by
  have acted : ∃ shown, Stage.act ⟨⟨session.1, drains⟩, session.2⟩ (.step step) =
      some (shown, ⟨⟨(Session.perform (fun _ session => session) step session).2.1, drains⟩,
        (Session.perform (fun _ session => session) step session).2.2⟩) := by
    simp only [Stage.act, free, brief]
    exact ⟨_, rfl⟩
  obtain ⟨_, acted⟩ := acted
  exact .act acted

/-- The host uses a reaction up, whatever failures its scripts were told. -/
theorem react (world : World μ) {host host' : Host κ ρ} {callback : Callback}
    {steps : List (Step κ)}
    (used : host.nextReaction? callback = some (steps, host')) :
    Leads ⟨world, host⟩ ⟨world, host'⟩ := by
  let next : HostMove κ ρ := {
    move host := ((host.nextReaction? callback).map Prod.snd).getD host
    blind host failures := by
      simp only [Host.nextReaction?]
      split <;> simp_all }
  have moved := Leads.host world host next
  simp only [next, used, Option.map_some, Option.getD_some] at moved
  exact moved

/-- Plays cover whatever a session does. -/
theorem covers : Session.Covers (fun (world : World μ) (host : Host κ ρ) after host' =>
    Leads ⟨world, host⟩ ⟨after, host'⟩) fun _ => True where
  refl := fun world host => .refl ⟨world, host⟩
  trans := trans
  brief := fun _ => brief
  settle := by
    intro bridge drains host
    have acted : Stage.act ⟨⟨bridge, drains⟩, host⟩ (.layer Middleware.arrivals) =
        some ({ arrivals := (Middleware.arrivals bridge.middleware).1 },
          ⟨⟨bridge.settle, drains⟩, host⟩) := rfl
    exact .act acted
  beginDrain := by
    intro bridge drains host free
    have acted : Stage.act ⟨⟨bridge, drains⟩, host⟩ .beginDrain =
        some ({}, ⟨⟨bridge, ⟨bridge.config.effectiveBudget, {}, none⟩ :: drains⟩, host⟩) := by
      simp [Stage.act, World.step, free]
    exact .act acted
  nothing := by
    intro bridge next taken budget report outer host
    have acted := act_take bridge host budget report outer
    rw [taken] at acted
    exact .act acted
  stale := by
    intro bridge next taken budget report outer host
    have acted := act_take bridge host budget report outer
    rw [taken] at acted
    exact .act acted
  due := by
    intro bridge next invocation taken budget report outer host
    have acted := act_take bridge host budget report outer
    rw [taken] at acted
    exact .act acted
  finish := by
    intro bridge budget report invocation outer outcome host
    have acted : Stage.act ⟨⟨bridge, ⟨budget, report, some invocation⟩ :: outer⟩, host⟩
        (.finish outcome) = some ({}, ⟨⟨bridge.finish invocation outcome,
          ⟨budget, report.finish outcome, none⟩ :: outer⟩, host⟩) := rfl
    exact .act acted
  endDrain := by
    intro bridge report outer host
    have acted : Stage.act ⟨⟨bridge, ⟨0, report, none⟩ :: outer⟩, host⟩ .endDrain =
        some ({ report := some report }, ⟨⟨bridge, outer⟩, host⟩) := rfl
    exact .act acted
  react := fun used world => react world used
  answer := by
    intro world host answer
    let answered : HostMove κ ρ := {
      move host := host.answerNested answer
      blind _ _ := rfl }
    exact Leads.host world host answered

end Leads

end Stage

/-- A whole session is a play on its stage. -/
theorem Session.isPlay (steps : List (Step κ)) (session : Session μ κ ρ) :
    let after := steps.foldl (fun session step => (advance session step).2) session
    Stage.Leads ⟨⟨session.1, []⟩, session.2⟩ ⟨⟨after.1, []⟩, after.2⟩ :=
  Stage.Leads.covers.whole (fun _ _ => trivial) session fun _ _ _ _ _ => trivial

end TopicBridge
