import TopicBridge.Proofs.World.Queue
import TopicBridge.Session.Run

/-!
# Sessions taken apart

A session runs a whole step at a time, and a callback takes all its steps inside
the drain that called it.  Taken apart, this is one thing after another: a step
that runs no drain, a delivery, each look at the queue, each return of a
callback.  A relation between what is before and what is after covers a session
if it covers each of these, and then nothing more has to be said about drains in
callbacks of drains.
-/

namespace TopicBridge

variable {μ κ ρ : Type}

/-! ## What a drain does -/

namespace World

section

variable [Middleware μ] {bridge next : Bridge μ}

theorem begins {drains : List Drain} (free : isFree ⟨bridge, drains⟩ = true) :
    step ⟨bridge, drains⟩ .beginDrain =
      some ⟨bridge, ⟨bridge.config.effectiveBudget, {}, none⟩ :: drains⟩ := by
  simp [step, free]

theorem takes_nothing (taken : bridge.takePending = (.nothing, next)) (budget : Nat)
    (report : DrainReport) (outer : List Drain) :
    step ⟨bridge, ⟨budget + 1, report, none⟩ :: outer⟩ .take =
      some ⟨next, ⟨0, report, none⟩ :: outer⟩ := by
  simp only [step, takeNext, Bridge.takeNext, taken]

theorem takes_stale (taken : bridge.takePending = (.stale, next)) (budget : Nat)
    (report : DrainReport) (outer : List Drain) :
    step ⟨bridge, ⟨budget + 1, report, none⟩ :: outer⟩ .take =
      some ⟨next, ⟨budget, { report with discarded := report.discarded + 1 }, none⟩ :: outer⟩ := by
  simp only [step, takeNext, Bridge.takeNext, taken]

theorem takes_due {invocation : Invocation} (taken : bridge.takePending = (.due invocation, next))
    (budget : Nat) (report : DrainReport) (outer : List Drain) :
    step ⟨bridge, ⟨budget + 1, report, none⟩ :: outer⟩ .take =
      some ⟨next, ⟨budget, report, some invocation⟩ :: outer⟩ := by
  simp only [step, takeNext, Bridge.takeNext, taken]

theorem finishes (bridge : Bridge μ) (budget : Nat) (report : DrainReport)
    (invocation : Invocation) (outer : List Drain) (outcome : Except String Unit) :
    step ⟨bridge, ⟨budget, report, some invocation⟩ :: outer⟩ (.finish outcome) =
      some ⟨bridge.finish invocation outcome, ⟨budget, report.finish outcome, none⟩ :: outer⟩ :=
  rfl

theorem ends (bridge : Bridge μ) (report : DrainReport) (outer : List Drain) :
    step ⟨bridge, ⟨0, report, none⟩ :: outer⟩ .endDrain = some ⟨bridge, outer⟩ :=
  rfl

end

end World

/-! ## What a step does that runs no drain -/

/-- The step runs a drain, so callbacks act before it is over. -/
def Step.drains : Step κ → Bool
  | .drain => true
  | .event .step => true
  | _ => false

/-- The step takes in messages, or lets the messaging layer move on. -/
def Step.takesIn : Step κ → Bool
  | .stray _ _ => true
  | .layer _ => true
  | _ => false

/-- The operation that a command asks of the bridge. -/
def Command.operation (hasEntryPoint : Callback → Bool) (script : ScriptId) : Command → Operation
  | .advertise topic typeName options => .createPublisher script topic typeName options
  | .subscribe topic typeName callback options =>
      .createSubscriber hasEntryPoint topic typeName ⟨script, callback⟩ options
  | .publish handle message => .publishValue handle message
  | .shutdownPublisher handle => .destroyKind handle .publisher
  | .shutdownSubscriber handle => .destroyKind handle .subscriber

/-- A command call of a script is the operation that it asks for, or nothing. -/
theorem Bridge.callCommand_snd [Middleware μ] (bridge : Bridge μ)
    (hasEntryPoint : Callback → Bool) (script : ScriptId) (name : String)
    (arguments : List Value) :
    (bridge.callCommand hasEntryPoint script name arguments).2 =
      match Command.parse name arguments bridge.config with
      | .ok command => bridge.perform (command.operation hasEntryPoint script)
      | .error _ => bridge := by
  unfold callCommand
  cases Command.parse name arguments bridge.config with
  | error e => rfl
  | ok command => cases command <;> rfl

namespace Session

variable [SteeredMiddleware μ κ ρ]

/-- What a callback would do does not matter to a step that runs no drain. -/
theorem perform_of_brief (react react' : Reaction μ κ ρ) {step : Step κ}
    (brief : step.drains = false) (session : Session μ κ ρ) :
    perform react step session = perform react' step session := by
  cases step with
  | drain => cases brief
  | event event =>
      cases event with
      | step => cases brief
      | _ => rfl
  | _ => rfl

/-- The operation that a step asks of the bridge, if it is a step of the stepping
loop or of a callback that asks for one. -/
def operation? (session : Session μ κ ρ) : Step κ → Option Operation
  | .command script name arguments =>
      (Command.parse name arguments session.1.config).toOption.map
        (Command.operation session.2.hasEntryPoint script)
  | .event .ended => some .clear
  | .event (.scriptDestroyed script) => some (.destroyOwnedBy script)
  | .unload => some .unload
  | .createPublisher script topic typeName options =>
      some (.createPublisher script topic typeName options)
  | .createSubscriber callback topic typeName options =>
      some (.createSubscriber session.2.hasEntryPoint topic typeName callback options)
  | .destroy handle => some (.destroy handle)
  | .destroyKind handle kind => some (.destroyKind handle kind)
  | .destroyOwnedBy script => some (.destroyOwnedBy script)
  | .clear => some .clear
  | .shutdown => some .shutdown
  | .publish handle payload => some (.publish handle payload)
  | .publishValue handle value => some (.publishValue handle value)
  | _ => none

/-- A step that runs no drain and takes nothing in does what it asks for. -/
theorem bridge_perform (react : Reaction μ κ ρ) {step : Step κ} (brief : step.drains = false)
    (own : step.takesIn = false) (session : Session μ κ ρ) :
    (perform react step session).2.1 =
      ((operation? session step).map session.1.perform).getD session.1 := by
  cases step with
  | drain => cases brief
  | stray | layer => cases own
  | event event =>
      cases event with
      | step => cases brief
      | _ => rfl
  | command script name arguments =>
      have commanded := session.1.callCommand_snd session.2.hasEntryPoint script name arguments
      have same : (perform react (.command script name arguments) session).2.1 =
          (session.1.callCommand session.2.hasEntryPoint script name arguments).2 := by
        simp only [perform, onCommand]
        split <;> simp_all
      rw [same, commanded, operation?]
      cases Command.parse name arguments session.1.config <;> rfl
  | _ => rfl

/-- A step that runs no drain makes the host record no call. -/
theorem calls_perform (react : Reaction μ κ ρ) {step : Step κ} (brief : step.drains = false)
    (session : Session μ κ ρ) :
    (perform react step session).2.2.calls.toList.Sublist session.2.calls.toList := by
  cases step with
  | drain => cases brief
  | clearCalls => exact List.nil_sublist _
  | event event =>
      cases event with
      | step => cases brief
      | _ => exact List.Sublist.refl _
  | command script name arguments =>
      simp only [perform, onCommand]
      split <;> exact List.Sublist.refl _
  | _ => exact List.Sublist.refl _

/-- A step that runs no drain uses up no reaction. -/
theorem reactions_perform (react : Reaction μ κ ρ) {step : Step κ} (brief : step.drains = false)
    (session : Session μ κ ρ) :
    (perform react step session).2.2.reactions = session.2.reactions := by
  cases step with
  | drain => cases brief
  | event event =>
      cases event with
      | step => cases brief
      | _ => rfl
  | command script name arguments =>
      simp only [perform, onCommand]
      split <;> rfl
  | _ => rfl

end Session

/-! ## What callbacks are going to do -/

namespace Host

/-- Whatever step a callback is going to take is admitted. -/
def Offers (host : Host κ ρ) (admits : Step κ → Prop) : Prop :=
  ∀ {callback reactions}, Dict.get? host.reactions callback = some reactions →
    ∀ steps ∈ reactions, ∀ step ∈ steps, admits step

theorem reactions_call (host : Host κ ρ) (callback : Callback) (arguments : List Value) :
    (host.call callback arguments).2.reactions = host.reactions := by
  unfold call
  split
  · rfl
  · split <;> rfl

theorem Offers.of_same {host host' : Host κ ρ} {admits : Step κ → Prop}
    (offers : host.Offers admits) (same : host'.reactions = host.reactions) :
    host'.Offers admits :=
  fun found => offers (same ▸ found)

/-- A reaction that is used up was on offer, and the others still are. -/
theorem Offers.nextReaction? {host host' : Host κ ρ} {admits : Step κ → Prop}
    (offers : host.Offers admits) {callback : Callback} {steps : List (Step κ)}
    (next : host.nextReaction? callback = some (steps, host')) :
    (∀ step ∈ steps, admits step) ∧ host'.Offers admits := by
  unfold Host.nextReaction? at next
  split at next
  · rename_i first later found
    cases next
    refine ⟨offers found _ List.mem_cons_self, fun {other reactions} found' => ?_⟩
    change Dict.get? (Dict.insert _ _ _) _ = _ at found'
    rw [Dict.get?_insert] at found'
    split at found'
    · cases found'
      exact fun steps member => offers found steps (List.mem_cons_of_mem _ member)
    · exact offers found'
  · cases next

end Host

/-! ## Whole sessions -/

namespace Session

variable [SteeredMiddleware μ κ ρ]

/-- A relation between what is before and what is after, the drains in progress
included, that covers all that a session does with admitted steps. -/
structure Covers (Leads : World μ → Host κ ρ → World μ → Host κ ρ → Prop)
    (admits : Step κ → Prop) : Prop where
  refl : ∀ world host, Leads world host world host
  trans : ∀ {world middle after host host' host''}, Leads world host middle host' →
    Leads middle host' after host'' → Leads world host after host''
  /-- A step that runs no drain. -/
  brief : ∀ {step : Step κ}, admits step → step.drains = false →
    ∀ (session : Session μ κ ρ) (drains : List Drain),
      World.isFree ⟨session.1, drains⟩ = true →
      let after := (perform (fun _ session => session) step session).2
      Leads ⟨session.1, drains⟩ session.2 ⟨after.1, drains⟩ after.2
  settle : ∀ bridge drains host, Leads ⟨bridge, drains⟩ host ⟨bridge.settle, drains⟩ host
  beginDrain : ∀ bridge drains host, World.isFree ⟨bridge, drains⟩ = true →
    Leads ⟨bridge, drains⟩ host ⟨bridge, ⟨bridge.config.effectiveBudget, {}, none⟩ :: drains⟩ host
  /-- The queue is empty. -/
  nothing : ∀ {bridge next}, bridge.takePending = (.nothing, next) →
    ∀ budget report outer host, Leads ⟨bridge, ⟨budget + 1, report, none⟩ :: outer⟩ host
      ⟨next, ⟨0, report, none⟩ :: outer⟩ host
  /-- An invocation is discarded. -/
  stale : ∀ {bridge next}, bridge.takePending = (.stale, next) →
    ∀ budget (report : DrainReport) outer host,
      Leads ⟨bridge, ⟨budget + 1, report, none⟩ :: outer⟩ host
        ⟨next, ⟨budget, { report with discarded := report.discarded + 1 }, none⟩ :: outer⟩ host
  /-- A callback is called. -/
  due : ∀ {bridge next invocation}, bridge.takePending = (.due invocation, next) →
    ∀ budget report outer host, Leads ⟨bridge, ⟨budget + 1, report, none⟩ :: outer⟩ host
      ⟨next, ⟨budget, report, some invocation⟩ :: outer⟩
        (host.call invocation.callback [invocation.payload]).2
  finish : ∀ (bridge : Bridge μ) budget (report : DrainReport) invocation outer outcome host,
    Leads ⟨bridge, ⟨budget, report, some invocation⟩ :: outer⟩ host
      ⟨bridge.finish invocation outcome, ⟨budget, report.finish outcome, none⟩ :: outer⟩ host
  endDrain : ∀ bridge report outer host,
    Leads ⟨bridge, ⟨0, report, none⟩ :: outer⟩ host ⟨bridge, outer⟩ host
  /-- The host uses up a reaction of a callback. -/
  react : ∀ {host host' callback steps}, host.nextReaction? callback = some (steps, host') →
    ∀ world, Leads world host world host'
  /-- The host records the answer to a step of a callback. -/
  answer : ∀ world host answer, Leads world host world (host.answerNested answer)

/-- Whatever drains are in progress, the relation holds between one session and
another, and the callbacks are only going to take admitted steps. -/
def Proceeds (Leads : World μ → Host κ ρ → World μ → Host κ ρ → Prop) (admits : Step κ → Prop)
    (session after : Session μ κ ρ) : Prop :=
  session.2.Offers admits → after.2.Offers admits ∧
    ∀ drains, World.isFree ⟨session.1, drains⟩ = true →
      Leads ⟨session.1, drains⟩ session.2 ⟨after.1, drains⟩ after.2

namespace Covers

variable {Leads : World μ → Host κ ρ → World μ → Host κ ρ → Prop} {admits : Step κ → Prop}
  {session middle after : Session μ κ ρ} {react : Reaction μ κ ρ}

theorem rest (covers : Covers Leads admits) (session : Session μ κ ρ) :
    Proceeds Leads admits session session :=
  fun offers => ⟨offers, fun _ _ => covers.refl _ _⟩

theorem next (covers : Covers Leads admits) (first : Proceeds Leads admits session middle)
    (second : Proceeds Leads admits middle after) : Proceeds Leads admits session after := by
  intro offers
  obtain ⟨offers, leads⟩ := first offers
  obtain ⟨offers, leads'⟩ := second offers
  exact ⟨offers, fun drains free => covers.trans (leads drains free) (leads' drains free)⟩

/-- A drain that may take `budget` more invocations goes on to its end. -/
theorem drainUpTo (covers : Covers Leads admits)
    (reacts : ∀ callback session, Proceeds Leads admits session (react callback session))
    (budget : Nat) (report : DrainReport) (session : Session μ κ ρ) (outer : List Drain)
    (offers : session.2.Offers admits) :
    let drained := Bridge.drainUpTo (call react) budget report session
    drained.2.2.Offers admits ∧
      Leads ⟨session.1, ⟨budget, report, none⟩ :: outer⟩ session.2
        ⟨drained.2.1, ⟨0, drained.1, none⟩ :: outer⟩ drained.2.2 := by
  induction budget generalizing report session with
  | zero => exact ⟨offers, covers.refl _ _⟩
  | succ budget ih =>
      obtain ⟨bridge, host⟩ := session
      cases taken : bridge.takePending with
      | mk kind next =>
          simp only [Bridge.drainUpTo_succ, taken]
          cases kind with
          | nothing => exact ⟨offers, covers.nothing taken budget report outer host⟩
          | stale =>
              have first := covers.stale taken budget report outer host
              exact (ih _ (next, host) offers).imp_right (covers.trans first)
          | due invocation =>
              have first := covers.due taken budget report outer host
              have offers : (host.call invocation.callback [invocation.payload]).2.Offers admits :=
                offers.of_same (host.reactions_call _ _)
              simp only [call]
              cases called : host.call invocation.callback [invocation.payload] with
              | mk outcome host' =>
                  rw [called] at first offers
                  cases outcome with
                  | error reason =>
                      have first := covers.trans first (covers.finish _ _ _ _ _ (.error reason) _)
                      exact (ih _ (next.finish invocation (.error reason), host') offers).imp_right
                        (covers.trans first)
                  | ok =>
                      dsimp only
                      obtain ⟨offers, reacted⟩ := reacts invocation.callback (next, host') offers
                      have reacted := reacted (⟨budget, report, some invocation⟩ :: outer) rfl
                      generalize react invocation.callback (next, host') = session
                        at offers reacted ⊢
                      have first := covers.trans first (covers.trans reacted
                        (covers.finish _ _ _ _ _ (.ok ()) _))
                      exact (ih _ (session.1.finish invocation (.ok ()), session.2)
                        offers).imp_right (covers.trans first)

/-- A drain is covered from its beginning to its end. -/
theorem drain (covers : Covers Leads admits)
    (reacts : ∀ callback session, Proceeds Leads admits session (react callback session))
    (session : Session μ κ ρ) : Proceeds Leads admits session (Session.drain react session).2 := by
  intro offers
  have drained := covers.drainUpTo reacts session.1.config.effectiveBudget {} session
  refine ⟨(drained [] offers).1, fun drains free => ?_⟩
  have begun := covers.beginDrain session.1 drains session.2 free
  exact covers.trans (covers.trans begun (drained drains offers).2) (covers.endDrain _ _ _ _)

/-- Whatever an admitted step does is covered. -/
theorem step (covers : Covers Leads admits)
    (reacts : ∀ callback session, Proceeds Leads admits session (react callback session))
    {step : Step κ} (admitted : admits step) (session : Session μ κ ρ) :
    Proceeds Leads admits session (runStep react session step).2 := by
  have performed : Proceeds Leads admits session (perform react step session).2 := by
    cases brief : step.drains with
    | false =>
        intro offers
        refine ⟨offers.of_same (reactions_perform react brief session), fun drains free => ?_⟩
        rw [perform_of_brief react (fun _ session => session) brief]
        exact covers.brief admitted brief session drains free
    | true =>
        cases step with
        | drain => exact covers.drain reacts session
        | event event =>
            cases event with
            | step => exact covers.drain reacts session
            | _ => cases brief
        | _ => cases brief
  exact covers.next performed fun offers => ⟨offers, fun drains _ => covers.settle _ drains _⟩

/-- Steps one after another are covered. -/
theorem steps (covers : Covers Leads admits) {run : Session μ κ ρ → Step κ → Session μ κ ρ}
    (runs : ∀ {step}, admits step → ∀ session, Proceeds Leads admits session (run session step))
    {steps : List (Step κ)} (admitted : ∀ step ∈ steps, admits step) (session : Session μ κ ρ) :
    Proceeds Leads admits session (steps.foldl run session) := by
  induction steps generalizing session with
  | nil => exact covers.rest session
  | cons step rest ih =>
      have first := runs (admitted step List.mem_cons_self) session
      exact covers.next first (ih (fun step member =>
        admitted step (List.mem_cons_of_mem _ member)) _)

/-- What callbacks do is covered, to whatever depth they are nested. -/
theorem reactWithin (covers : Covers Leads admits) (depth : Nat) (callback : Callback)
    (session : Session μ κ ρ) :
    Proceeds Leads admits session (Session.reactWithin depth callback session) := by
  induction depth generalizing callback session with
  | zero => exact covers.rest session
  | succ depth ih =>
      simp only [Session.reactWithin]
      split
      · exact covers.rest session
      · rename_i steps host used
        intro offers
        obtain ⟨admitted, left⟩ := offers.nextReaction? used
        have started : Proceeds Leads admits session (session.1, host) :=
          fun _ => ⟨left, fun _ _ => covers.react used _⟩
        refine covers.next started (covers.steps (fun allowed session => ?_) admitted _) offers
        exact covers.next (covers.step ih allowed session)
          fun offers => ⟨offers.of_same rfl, fun _ _ => covers.answer _ _ _⟩

/-- A whole session is covered. -/
theorem whole (covers : Covers Leads admits) {steps : List (Step κ)}
    (admitted : ∀ step ∈ steps, admits step) (session : Session μ κ ρ)
    (offers : session.2.Offers admits) :
    let after := steps.foldl (fun session step => (advance session step).2) session
    Leads ⟨session.1, []⟩ session.2 ⟨after.1, []⟩ after.2 := by
  have proceeds : Proceeds Leads admits session
      (steps.foldl (fun session step => (advance session step).2) session) :=
    covers.steps (fun allowed session => covers.step (covers.reactWithin _) allowed session)
      admitted session
  exact (proceeds offers).2 [] rfl

end Covers

end Session

end TopicBridge
