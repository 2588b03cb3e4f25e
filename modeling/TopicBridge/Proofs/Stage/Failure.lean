import TopicBridge.Middleware.Bus
import TopicBridge.Proofs.Stage.Basic
import TopicBridge.Proofs.Stage.Likeness
import TopicBridge.Proofs.World.Ledger

/-!
# Failures leave no trace

An operation that fails has at most drawn a handle and given it back.  The
stage it leaves looks like the one it found, and goes on looking like it
whatever happens next.  So nobody can tell later that the operation was ever
called, except that the script of a command that failed was told so once.
-/

namespace TopicBridge

variable {μ κ ρ : Type}

/-- What a script is told about the answer to a step. -/
def Step.tells (step : Step κ) (answer : Answer ρ) : List (String × String) :=
  match step, answer with
  | .command _ name _, .failed e => [(name, e.message)]
  | _, _ => []

/-! ## Stages that look alike -/

/-- What can be seen of a drain. -/
def Drain.seen (drain : Drain) : Nat × DrainReport × Option (Handle × Call) :=
  (drain.budget, drain.report,
    drain.running.map fun invocation => (invocation.handle, invocation.toCall))

/-- Two worlds are the same up to generations, and hand out the same handles from
now on. -/
structure World.Alike (rename : Nat → Nat) (one other : World μ) : Prop where
  bridge : one.bridge.Alike rename other.bridge
  drains : other.drains.map Drain.seen = one.drains.map Drain.seen

/-- Two stages are the same up to generations and to what scripts were told, and
hand out the same handles from now on. -/
structure Stage.Alike (rename : Nat → Nat) (one other : Stage μ κ ρ) : Prop where
  world : one.world.Alike rename other.world
  host : ∃ failures, other.host = { one.host with failures }

namespace World

variable {rename : Nat → Nat} {one other : World μ}

/-- Two events can both happen and leave worlds that look alike, or neither can. -/
inductive Matches (rename : Nat → Nat) : Option (World μ) → Option (World μ) → Prop
  | none : Matches rename none none
  | some {after after' : World μ} (alike : after.Alike rename after') :
      Matches rename (some after) (some after')

/-- The drains of worlds that look alike. -/
theorem Alike.innermost (alike : one.Alike rename other) :
    one.drains = [] ∧ other.drains = [] ∨
      ∃ budget report running running' outer outer',
        one.drains = ⟨budget, report, running⟩ :: outer ∧
        other.drains = ⟨budget, report, running'⟩ :: outer' ∧
        running'.map (fun invocation => (invocation.handle, invocation.toCall)) =
          running.map (fun invocation => (invocation.handle, invocation.toCall)) ∧
        outer'.map Drain.seen = outer.map Drain.seen := by
  have drains := alike.drains
  cases before : one.drains with
  | nil =>
      rw [before, List.map_nil, List.map_eq_nil_iff] at drains
      exact Or.inl ⟨rfl, drains⟩
  | cons drain outer =>
      rw [before, List.map_cons, List.map_eq_cons_iff] at drains
      obtain ⟨⟨budget', report', running'⟩, outer', before', seen, rest⟩ := drains
      obtain ⟨budget, report, running⟩ := drain
      simp only [Drain.seen, Prod.mk.injEq] at seen
      obtain ⟨rfl, rfl, running⟩ := seen
      exact Or.inr ⟨_, _, _, _, outer, outer', rfl, before', running, rest⟩

theorem Alike.isFree (alike : one.Alike rename other) : other.isFree = one.isFree := by
  rcases alike.innermost with ⟨before, before'⟩ |
    ⟨budget, report, running, running', outer, outer', before, before', same, _⟩
  · rw [World.isFree, World.isFree, before, before']
  · rw [World.isFree, World.isFree, before, before']
    simpa using congrArg Option.isSome same

variable [Middleware μ]

theorem Alike.beginDrain (alike : one.Alike rename other) :
    Matches rename (one.step .beginDrain) (other.step .beginDrain) := by
  simp only [World.step]
  rw [alike.isFree, alike.bridge.config]
  cases one.isFree with
  | false => exact .none
  | true => exact .some ⟨alike.bridge, congrArg (List.cons _) alike.drains⟩

theorem Alike.endDrain (alike : one.Alike rename other) :
    Matches rename (one.step .endDrain) (other.step .endDrain) := by
  simp only [World.step]
  rcases alike.innermost with ⟨before, before'⟩ |
    ⟨budget, report, running, running', outer, outer', before, before', same, rest⟩
  · rw [before, before']
    exact .none
  · rw [before, before']
    cases running with
    | some invocation =>
        obtain ⟨invocation', rfl, _⟩ := Option.map_eq_some_iff.mp same
        cases budget <;> exact .none
    | none =>
        cases Option.map_eq_none_iff.mp same
        cases budget with
        | zero => exact .some ⟨alike.bridge, rest⟩
        | succ budget => exact .none

theorem Alike.finish (alike : one.Alike rename other) (outcome : Except String Unit) :
    Matches rename (one.step (.finish outcome)) (other.step (.finish outcome)) := by
  simp only [World.step]
  rcases alike.innermost with ⟨before, before'⟩ |
    ⟨budget, report, running, running', outer, outer', before, before', same, rest⟩
  · rw [before, before']
    exact .none
  · rw [before, before']
    cases running with
    | some invocation =>
        obtain ⟨invocation', rfl, seen⟩ := Option.map_eq_some_iff.mp same
        have handle : invocation'.handle = invocation.handle := congrArg Prod.fst seen
        exact .some ⟨alike.bridge.finish handle outcome, congrArg (List.cons _) rest⟩
    | none =>
        cases Option.map_eq_none_iff.mp same
        exact .none

omit [Middleware μ] in
theorem Alike.takeNext {one other : Bridge μ} (alike : one.Alike rename other) (budget : Nat)
    (report : DrainReport) {outer outer' : List Drain}
    (same : outer'.map Drain.seen = outer.map Drain.seen) :
    (takeNext one budget report outer).Alike rename (takeNext other budget report outer') := by
  unfold World.takeNext Bridge.takeNext
  rcases alike.takePending with ⟨invocation, rest, rest', taken, taken', after⟩ |
    ⟨kind, rest, rest', idle, taken, taken', after⟩
  · rw [taken, taken']
    exact ⟨after, congrArg (List.cons _) same⟩
  · rw [taken, taken']
    cases kind with
    | nothing => exact ⟨after, congrArg (List.cons _) same⟩
    | stale => exact ⟨after, congrArg (List.cons _) same⟩
    | due invocation => exact absurd rfl (idle invocation)

theorem Alike.take (alike : one.Alike rename other) :
    Matches rename (one.step .take) (other.step .take) := by
  simp only [World.step]
  rcases alike.innermost with ⟨before, before'⟩ |
    ⟨budget, report, running, running', outer, outer', before, before', same, rest⟩
  · rw [before, before']
    exact .none
  · rw [before, before']
    cases running with
    | some invocation =>
        obtain ⟨invocation', rfl, _⟩ := Option.map_eq_some_iff.mp same
        cases budget <;> exact .none
    | none =>
        cases Option.map_eq_none_iff.mp same
        cases budget with
        | zero => exact .none
        | succ budget => exact .some (Alike.takeNext alike.bridge budget report rest)

omit [Middleware μ] in
/-- A look at the queue calls the same. -/
theorem Alike.call? (alike : one.Alike rename other) :
    (Moment.mk other .take).call? =
      (Moment.mk one .take).call?.map (Invocation.rename rename) := by
  simp only [Moment.call?]
  rcases alike.bridge.takePending with ⟨invocation, rest, rest', taken, taken', after⟩ |
    ⟨kind, rest, rest', idle, taken, taken', after⟩
  · rw [taken, taken']
    rfl
  · rw [taken, taken']
    cases kind with
    | nothing => rfl
    | stale => rfl
    | due invocation => exact absurd rfl (idle invocation)

end World

namespace Session

variable [SteeredMiddleware μ κ ρ] {rename : Nat → Nat} {one other : Bridge μ}

/-- Two answers to a step are the same, and leave sessions that look alike, in
which scripts were told the same. -/
structure Agree (rename : Nat → Nat) (step : Step κ) (told told' : List (String × String))
    (one other : Answer ρ × Session μ κ ρ) : Prop where
  answer : other.1 = one.1
  bridge : one.2.1.Alike rename other.2.1
  failures : one.2.2.failures = told ++ step.tells one.1
  host : other.2.2 = { one.2.2 with failures := told' ++ step.tells one.1 }

/-- A step that runs no drain is answered alike by bridges that look alike. -/
theorem agree_perform (react : Reaction μ κ ρ) (alike : one.Alike rename other) (host : Host κ ρ)
    (failures : List (String × String)) {step : Step κ} (brief : step.drains = false) :
    Agree rename step host.failures failures (perform react step (one, host))
      (perform react step (other, { host with failures })) := by
  have moved (after : Host κ ρ) {answer : Answer ρ} (unheard : after.failures = host.failures)
      (silent : step.tells answer = []) :
      Agree rename step host.failures failures (answer, one, after)
        (answer, other, { after with failures }) :=
    ⟨rfl, alike, by simp [silent, unheard], by simp [silent]⟩
  have quiet {answer : Answer ρ} {bridge bridge' : Bridge μ}
      (alike : bridge.Alike rename bridge') (silent : step.tells answer = []) :
      Agree rename step host.failures failures (answer, bridge, host)
        (answer, bridge', { host with failures }) :=
    ⟨rfl, alike, by simp [silent], by simp [silent]⟩
  have answered {answer answer' : Answer ρ} {bridge bridge' : Bridge μ}
      (same : answer' = answer) (alike : bridge.Alike rename bridge')
      (silent : step.tells answer = []) :
      Agree rename step host.failures failures (answer, bridge, host)
        (answer', bridge', { host with failures }) := by
    rw [same]
    exact quiet alike silent
  cases step with
  | addEntryPoint callback =>
      exact moved { host with entryPoints := callback :: host.entryPoints } rfl rfl
  | failCalls callback =>
      exact moved { host with failing := callback :: host.failing } rfl rfl
  | removeScript script =>
      let kept := host.entryPoints.filter fun callback => callback.script ≠ script
      exact moved { host with entryPoints := kept } rfl rfl
  | hasEntryPoint callback => exact quiet alike rfl
  | payloadsFor name => exact quiet alike rfl
  | clearCalls =>
      exact moved { host with calls := #[] } rfl rfl
  | command script name arguments =>
      have agree := alike.callCommand host.hasEntryPoint script name arguments
      have sameHost : Host.hasEntryPoint { host with failures } = host.hasEntryPoint := rfl
      simp only [perform, onCommand, sameHost]
      cases called : one.callCommand host.hasEntryPoint script name arguments with
      | mk outcome after =>
          cases called' : other.callCommand host.hasEntryPoint script name arguments with
          | mk outcome' after' =>
              rw [called, called'] at agree
              obtain ⟨same, after⟩ := agree
              cases same
              cases outcome with
              | ok values => exact quiet after rfl
              | error e => exact ⟨rfl, after, rfl, rfl⟩
  | event event =>
      cases event with
      | step => cases brief
      | ended => exact answered rfl alike.clear.after rfl
      | scriptDestroyed script => exact answered rfl (alike.destroyOwnedBy script).after rfl
      | other code => exact quiet alike rfl
  | unload => exact quiet alike.unload rfl
  | describe => exact answered (by rw [alike.describe]) alike rfl
  | createPublisher script topic typeName options =>
      have agree := alike.createPublisher script topic typeName options
      exact answered (congrArg _ agree.answer) agree.after rfl
  | createSubscriber callback topic typeName options =>
      have agree := alike.createSubscriber host.hasEntryPoint topic typeName callback options
      exact answered (congrArg _ agree.answer) agree.after rfl
  | destroy handle =>
      have agree := alike.destroy handle
      exact answered (congrArg _ agree.answer) agree.after rfl
  | destroyKind handle kind =>
      have agree := alike.destroyKind handle kind
      exact answered (congrArg _ agree.answer) agree.after rfl
  | destroyOwnedBy script =>
      have agree := alike.destroyOwnedBy script
      exact answered (congrArg _ agree.answer) agree.after rfl
  | clear => exact answered (congrArg _ alike.clear.answer) alike.clear.after rfl
  | shutdown => exact quiet alike.shutdown rfl
  | publish handle payload =>
      have agree := alike.publish handle payload
      exact answered (congrArg _ agree.answer) agree.after rfl
  | publishValue handle value =>
      have agree := alike.publishValue handle value
      exact answered (congrArg _ agree.answer) agree.after rfl
  | lookupCallback handle => exact answered (by rw [alike.lookupCallback]) alike rfl
  | drain => cases brief
  | size => exact answered (by rw [alike.size]) alike rfl
  | contains handle => exact answered (by rw [alike.contains]) alike rfl
  | info handle => exact answered (by rw [alike.info]) alike rfl
  | stats => exact answered (by rw [alike.stats]) alike rfl
  | typeNames => exact answered (by rw [alike.types]) alike rfl
  | stray subscription payload =>
      have known : Dict.contains other.targets subscription =
          Dict.contains one.targets subscription := by
        rw [Dict.contains, Dict.contains, alike.targets, Option.isSome_map]
      exact answered (by rw [known]) (alike.deliver subscription payload) rfl
  | layer request =>
      have steered : SteeredMiddleware.steer other.middleware request =
          SteeredMiddleware.steer one.middleware request := by rw [alike.middleware]
      simp only [perform, onRequest]
      rw [steered]
      exact quiet ((alike.layer _).deliverAll _) rfl

end Session


namespace Stage

variable {rename : Nat → Nat} {one other : Stage μ κ ρ}

/-- What can be learned about stages that look alike is the same. -/
theorem Alike.view (alike : one.Alike rename other) : other.view = one.view := by
  obtain ⟨⟨bridge, drains⟩, failures, host⟩ := alike
  have reports : other.world.drains.map Drain.report = one.world.drains.map Drain.report := by
    have seen := congrArg (List.map fun seen => seen.2.1) drains
    simpa [Drain.seen, Function.comp_def] using seen
  have info : other.world.bridge.info = one.world.bridge.info := funext bridge.info
  have callback : other.world.bridge.lookupCallback = one.world.bridge.lookupCallback :=
    funext bridge.lookupCallback
  rw [Stage.view, Stage.view, bridge.handles, info, callback, bridge.stats, bridge.describe,
    bridge.reports, bridge.middleware, host, reports]

/-- Two acts show the same and leave stages that look alike, or neither can
happen. -/
inductive Matches (rename : Nat → Nat) :
    Option (Shown ρ × Stage μ κ ρ) → Option (Shown ρ × Stage μ κ ρ) → Prop
  | none : Matches rename none none
  | some (shown : Shown ρ) {after after' : Stage μ κ ρ} (alike : after.Alike rename after') :
      Matches rename (some (shown, after)) (some (shown, after'))

/-- Events that match make acts that match, if they show the same. -/
theorem Matches.ofWorlds {before before' : Option (World μ)}
    (worlds : World.Matches rename before before') {shown shown' : Shown ρ}
    (same : shown' = shown) {host host' : Host κ ρ} {failures : List (String × String)}
    (told : host' = { host with failures }) :
    Matches rename (before.map fun world => (shown, ⟨world, host⟩))
      (before'.map fun world => (shown', ⟨world, host'⟩)) := by
  subst same told
  cases worlds with
  | none => exact .none
  | some alike => exact .some shown' ⟨alike, failures, rfl⟩

/-- A host records a call whatever failures its scripts were told. -/
theorem answerCall_rename (rename : Nat → Nat) (host : Host κ ρ) (failures : List (String × String))
    (called : Option Invocation) :
    answerCall { host with failures } (called.map (Invocation.rename rename)) =
      { answerCall host called with failures } := by
  cases called with
  | none => rfl
  | some invocation =>
      have sameCallback : (invocation.rename rename).callback = invocation.callback := rfl
      have samePayload : (invocation.rename rename).payload = invocation.payload := rfl
      have sameEntry : Host.hasEntryPoint { host with failures } = host.hasEntryPoint := rfl
      simp only [answerCall, Option.map_some, Host.call, sameCallback, samePayload, sameEntry]
      split
      · rfl
      · split <;> rfl

variable [SteeredMiddleware μ κ ρ]

/-- Whatever happens on stages that look alike shows the same. -/
theorem Alike.act (alike : one.Alike rename other) (act : Act μ κ ρ) :
    Matches rename (one.act act) (other.act act) := by
  obtain ⟨worlds, failures, host⟩ := alike
  cases act with
  | step step =>
      simp only [Stage.act]
      rw [worlds.isFree, host]
      cases allowed : one.world.isFree && !step.drains with
      | false => exact .none
      | true =>
          have brief : step.drains = false := by
            rw [Bool.and_eq_true] at allowed
            simpa using allowed.2
          rw [if_pos rfl, if_pos rfl]
          obtain ⟨answer, bridge, told, host⟩ :=
            Session.agree_perform (fun _ session => session) worlds.bridge one.host failures brief
          rw [answer, told, host]
          have sameTold (earlier : List (String × String)) (more : List (String × String)) :
              (earlier ++ more).drop earlier.length = more := by simp
          rw [sameTold, sameTold]
          exact .some _ ⟨⟨bridge, worlds.drains⟩, _, rfl⟩
  | layer move =>
      simp only [Stage.act]
      rw [worlds.bridge.middleware]
      exact .some _ ⟨⟨(worlds.bridge.layer _).deliverAll _, worlds.drains⟩, failures, host⟩
  | beginDrain => exact .ofWorlds worlds.beginDrain rfl host
  | take =>
      have recorded := answerCall_rename rename one.host failures (Moment.mk one.world .take).call?
      rw [← worlds.call?, ← host] at recorded
      refine .ofWorlds worlds.take ?_ recorded
      rw [worlds.call?, Option.map_map]
      rfl
  | finish outcome => exact .ofWorlds (worlds.finish outcome) rfl host
  | endDrain =>
      refine .ofWorlds worlds.endDrain ?_ host
      rcases worlds.innermost with ⟨before, before'⟩ | ⟨_, _, _, _, _, _, before, before', _⟩
      · rw [before, before']
      · rw [before, before']
        rfl
  | host move =>
      refine .some _ ⟨worlds, failures, ?_⟩
      rw [host, move.blind]

/-- Whatever happens on stages that look alike, nobody can tell them apart. -/
theorem Alike.trace (alike : one.Alike rename other) (acts : List (Act μ κ ρ)) :
    other.trace acts = one.trace acts := by
  unfold Stage.trace
  induction acts generalizing one other with
  | nil => rfl
  | cons act rest ih =>
      have matched := alike.act act
      rw [play_cons, play_cons]
      generalize one.act act = acted at matched ⊢
      generalize other.act act = acted' at matched ⊢
      cases matched with
      | none => rfl
      | @some shown after after' alike =>
          have later := ih alike
          simp only [Option.bind_some, alike.view]
          cases played : after.play rest <;> cases played' : after'.play rest <;>
            simp [played, played'] at later ⊢
          exact later

end Stage

/-! ## What a failure changes -/

namespace Bridge

/-- A bridge looks like itself. -/
theorem Alike.refl (bridge : Bridge μ) : bridge.Alike id bridge where
  types := rfl
  config := rfl
  middleware := rfl
  table := ⟨id, fun _ _ => rfl, (List.map_id' _).symm, .same _, rfl⟩
  pending := (List.map_id' _).symm
  targets := fun _ => Option.map_id'.symm
  counters := rfl
  reports := rfl
  isLoaded := rfl

/-- Every generation in use was drawn. -/
structure Drawn (bridge : Bridge μ) : Prop where
  entries : ∀ entry ∈ bridge.table.entries,
    entry.2.generation < bridge.table.nextGeneration
  targets : ∀ {subscription target}, Dict.get? bridge.targets subscription = some target →
    target.generation < bridge.table.nextGeneration
  pending : ∀ invocation ∈ bridge.pending.toList,
    invocation.generation < bridge.table.nextGeneration

/-- A refused creation leaves a bridge that looks like the one before: the
generation that it drew is skipped. -/
theorem Drawn.alike {bridge after : Bridge μ} (drawn : bridge.Drawn)
    (refuses : bridge.Refuses after) : ∃ rename, bridge.Alike rename after := by
  rcases refuses with rfl | ⟨handle, allocator, allocated, rfl⟩
  · exact ⟨id, Alike.refl _⟩
  · let skip (generation : Nat) : Nat :=
      if generation < bridge.table.nextGeneration then generation else generation + 1
    have kept {generation : Nat} (before : generation < bridge.table.nextGeneration) :
        skip generation = generation := if_pos before
    have later {generation : Nat} (drawn : bridge.table.nextGeneration ≤ generation) :
        skip generation = generation + 1 := if_neg (Nat.not_lt.mpr drawn)
    refine ⟨skip, rfl, rfl, rfl, ⟨?_, ?_, ?_, .redrawn allocated, (later (Nat.le_refl _)).symm⟩,
      ?_, ?_, rfl, rfl, rfl⟩
    · intro g g' same
      simp only [skip] at same
      split at same <;> split at same <;> omega
    · intro g onward
      rw [later onward, later (Nat.le_succ_of_le onward)]
    · have same : ∀ entry ∈ bridge.table.entries,
          (entry.1, entry.2.rename skip) = entry := by
        rintro ⟨key, entry⟩ member
        rw [Entry.rename, kept (drawn.entries _ member)]
      exact ((List.map_congr_left same).trans (List.map_id' _)).symm
    · have same : ∀ invocation ∈ bridge.pending.toList, invocation.rename skip = invocation := by
        intro invocation member
        rw [Invocation.rename, kept (drawn.pending _ member)]
      exact ((List.map_congr_left same).trans (List.map_id' _)).symm
    · intro subscription
      cases found : Dict.get? bridge.targets subscription with
      | none => rfl
      | some target => rw [Option.map_some, Target.rename, kept (drawn.targets found)]

/-! An operation that fails has at most drawn a handle and given it back. -/

section

variable [Middleware μ] {bridge : Bridge μ} {e : BridgeError}

theorem refuses_createPublisher {owner : ScriptId} {topic typeName : String}
    {options : AdvertiseOptions}
    (failed : (bridge.createPublisher owner topic typeName options).1 = .error e) :
    bridge.Refuses (bridge.createPublisher owner topic typeName options).2 := by
  rcases bridge.createPublisher_cases owner topic typeName options with
    ⟨_, after, equal, refuses⟩ | ⟨_, _, _, _, _, _, _, _, equal⟩
  · rw [equal]
    exact refuses
  · rw [equal] at failed
    cases failed

theorem refuses_createSubscriber {hasEntryPoint : Callback → Bool} {topic typeName : String}
    {callback : Callback} {options : SubscribeOptions}
    (failed : (bridge.createSubscriber hasEntryPoint topic typeName callback options).1 =
      .error e) :
    bridge.Refuses
      (bridge.createSubscriber hasEntryPoint topic typeName callback options).2 := by
  rcases bridge.createSubscriber_cases hasEntryPoint topic typeName callback options with
    ⟨_, after, equal, refuses⟩ | ⟨_, _, _, _, _, _, _, _, _, equal⟩
  · rw [equal]
    exact refuses
  · rw [equal] at failed
    cases failed

theorem refuses_destroy {handle : Handle} (failed : (bridge.destroy handle).1 = .error e) :
    bridge.Refuses (bridge.destroy handle).2 := by
  unfold destroy at failed ⊢
  cases found : bridge.find handle with
  | error e => exact Or.inl rfl
  | ok entry =>
      rw [found] at failed
      cases failed

theorem refuses_destroyKind {handle : Handle} {kind : ProxyKind}
    (failed : (bridge.destroyKind handle kind).1 = .error e) :
    bridge.Refuses (bridge.destroyKind handle kind).2 := by
  unfold destroyKind at failed ⊢
  cases found : bridge.find handle with
  | error e => exact Or.inl rfl
  | ok entry =>
      rw [found] at failed
      dsimp only at failed ⊢
      split
      · rename_i same
        rw [if_pos same] at failed
        cases failed
      · exact Or.inl rfl

theorem refuses_publish {handle : Handle} {payload : Bytes}
    (failed : (bridge.publish handle payload).1 = .error e) :
    bridge.Refuses (bridge.publish handle payload).2 := by
  rcases bridge.publish_cases handle payload with ⟨_, equal⟩ | ⟨_, _, equal⟩
  · rw [equal]
    exact Or.inl rfl
  · rw [equal] at failed
    cases failed

theorem refuses_publishValue {handle : Handle} {value : Value}
    (failed : (bridge.publishValue handle value).1 = .error e) :
    bridge.Refuses (bridge.publishValue handle value).2 := by
  rcases bridge.publishValue_cases handle value with ⟨_, equal⟩ | ⟨_, _, _, _, equal⟩
  · rw [equal]
    exact Or.inl rfl
  · rw [equal] at failed
    cases failed

theorem refuses_callCommand {hasEntryPoint : Callback → Bool} {caller : ScriptId} {name : String}
    {arguments : List Value}
    (failed : (bridge.callCommand hasEntryPoint caller name arguments).1 = .error e) :
    bridge.Refuses (bridge.callCommand hasEntryPoint caller name arguments).2 := by
  have before {α : Type} {f : α → List Value} {outcome : Except BridgeError α}
      (failed : outcome.map f = .error e) : outcome = .error e := by
    cases outcome with
    | error e => exact congrArg Except.error (Except.error.inj failed)
    | ok a => cases failed
  unfold callCommand at failed ⊢
  cases read : Command.parse name arguments bridge.config with
  | error e => exact Or.inl rfl
  | ok command =>
      rw [read] at failed
      cases command with
      | advertise topic typeName options => exact refuses_createPublisher (before failed)
      | subscribe topic typeName callback options =>
          exact refuses_createSubscriber (before failed)
      | publish handle message => exact refuses_publishValue (before failed)
      | shutdownPublisher handle => exact refuses_destroyKind (before failed)
      | shutdownSubscriber handle => exact refuses_destroyKind (before failed)

end

end Bridge

/-- A step that fails has at most drawn a handle and given it back, and told a
script. -/
theorem Session.refuses_perform [SteeredMiddleware μ κ ρ] (react : Reaction μ κ ρ)
    (bridge : Bridge μ) (host : Host κ ρ) {step : Step κ} {e : BridgeError}
    (brief : step.drains = false)
    (failed : (perform react step (bridge, host)).1 = .failed e) :
    bridge.Refuses (perform react step (bridge, host)).2.1 ∧
      (perform react step (bridge, host)).2.2 =
        { host with failures := host.failures ++ step.tells (.failed e : Answer ρ) } := by
  have unopened {outcome : Except BridgeError Handle}
      (failed : (Answer.ofExcept .handle outcome : Answer ρ) = .failed e) : outcome = .error e := by
    cases outcome <;> cases failed
    rfl
  have undone {outcome : Except BridgeError Unit}
      (failed : (Answer.ofExcept (fun _ => .done) outcome : Answer ρ) = .failed e) :
      outcome = .error e := by
    cases outcome <;> cases failed
    rfl
  have quiet (silent : step.tells (.failed e : Answer ρ) = []) :
      host = { host with failures := host.failures ++ step.tells (.failed e : Answer ρ) } := by
    rw [silent, List.append_nil]
  cases step with
  | command script name arguments =>
      simp only [perform, onCommand] at failed ⊢
      cases called : bridge.callCommand host.hasEntryPoint script name arguments with
      | mk answer after =>
          rw [called] at failed
          cases answer with
          | ok values => cases failed
          | error e =>
              have refuses := Bridge.refuses_callCommand (congrArg Prod.fst called)
              rw [called] at refuses
              cases failed
              exact ⟨refuses, rfl⟩
  | createPublisher script topic typeName options =>
      exact ⟨Bridge.refuses_createPublisher (unopened failed), quiet rfl⟩
  | createSubscriber callback topic typeName options =>
      exact ⟨Bridge.refuses_createSubscriber (unopened failed), quiet rfl⟩
  | destroy handle =>
      exact ⟨Bridge.refuses_destroy (undone failed), quiet rfl⟩
  | destroyKind handle kind =>
      exact ⟨Bridge.refuses_destroyKind (undone failed), quiet rfl⟩
  | publish handle payload =>
      exact ⟨Bridge.refuses_publish (undone failed), quiet rfl⟩
  | publishValue handle value =>
      exact ⟨Bridge.refuses_publishValue (undone failed), quiet rfl⟩
  | lookupCallback handle => exact ⟨Or.inl rfl, quiet rfl⟩
  | info handle => exact ⟨Or.inl rfl, quiet rfl⟩
  | event event => cases event <;> cases failed
  | drain => cases brief
  | _ => cases failed

/-! ## Failures on a stage -/

/-- In every run of a bridge the generations in use were drawn. -/
theorem Run.drawn [Middleware μ] {types : Catalog} {config : BridgeConfig} {middleware : μ}
    {past : List (Moment μ)} {world : World μ}
    (run : Run (World.fresh types config middleware) past world) : world.bridge.Drawn := by
  have consistent := run.consistent_mirrors.1
  have sourced := Sourced.ofRun run
  constructor
  · rintro ⟨handle, entry⟩ member
    exact consistent.drawn (Dict.get?_of_mem consistent.keys member)
  · intro subscription target found
    obtain ⟨_, _, _, opened⟩ := sourced.target found
    exact sourced.drawn opened
  · intro invocation member
    obtain ⟨_, _, _, stems⟩ := sourced.queued member
    obtain ⟨_, _, _, opened, _⟩ := stems.reads
    exact sourced.drawn opened

/-- A step that fails cannot be noticed, except by the script of a command. -/
structure LeavesNoTrace [SteeredMiddleware μ κ ρ] (stage : Stage μ κ ρ) (step : Step κ)
    (shown : Shown ρ) (after : Stage μ κ ρ) : Prop where
  /-- A failure changes nothing that can be learned. -/
  view : ∀ e, shown.answer = some (.failed e) → after.view = stage.view
  /-- Whatever happens after a failure shows what it would show without it. -/
  trace : ∀ e, shown.answer = some (.failed e) → ∀ acts, after.trace acts = stage.trace acts
  /-- A command that fails is told once, and nothing else is. -/
  told : shown.told =
    match step, shown.answer with
    | .command _ name _, some (.failed e) => [(name, e.message)]
    | _, _ => []
  /-- The host notices nothing else of a command or of a failure. -/
  host : (∃ script name arguments, step = .command script name arguments) ∨
      (∃ e, shown.answer = some (.failed e)) →
    after.host = { stage.host with failures := stage.host.failures ++ shown.told }

/-- A script that calls a command is told if it fails, and the host notices
nothing else. -/
theorem Session.host_command [SteeredMiddleware μ κ ρ] (react : Reaction μ κ ρ)
    (bridge : Bridge μ) (host : Host κ ρ) (script : ScriptId) (name : String)
    (arguments : List Value) :
    let performed := perform react (.command script name arguments) (bridge, host)
    performed.2.2 = { host with
      failures := host.failures ++
        (Step.command script name arguments : Step κ).tells performed.1 } := by
  simp only [perform, onCommand]
  split
  · simp [Step.tells]
  · rfl

/-- What a step that runs no drain shows, and the stage after it. -/
theorem Stage.act_step [SteeredMiddleware μ κ ρ] {stage after : Stage μ κ ρ} {step : Step κ}
    {shown : Shown ρ} (taken : stage.act (.step step) = some (shown, after)) :
    step.drains = false ∧ ∃ answer bridge host,
      Session.perform (fun _ session => session) step (stage.world.bridge, stage.host) =
        (answer, bridge, host) ∧
      shown = { answer := some answer, told := step.tells answer } ∧
      after = ⟨⟨bridge, stage.world.drains⟩, host⟩ := by
  simp only [Stage.act] at taken
  split at taken
  · rename_i allowed
    have brief : step.drains = false := by
      rw [Bool.and_eq_true] at allowed
      simpa using allowed.2
    have told := (Session.agree_perform (fun _ session => session)
      (Bridge.Alike.refl stage.world.bridge) stage.host [] brief).failures
    generalize Session.perform (fun _ session => session) step
      (stage.world.bridge, stage.host) = performed at taken told ⊢
    obtain ⟨answer, bridge, host⟩ := performed
    cases taken
    refine ⟨brief, answer, bridge, host, rfl, ?_, rfl⟩
    dsimp only at told
    rw [told, List.drop_left]
  · cases taken

/-- A step that fails leaves no trace, wherever it is taken. -/
theorem failure_leavesNoTrace [SteeredMiddleware μ κ ρ] {types : Catalog} {config : BridgeConfig}
    {middleware : μ} {host : Host κ ρ} {acts : List (Act μ κ ρ)}
    {traced : List (Shown ρ × View μ)} {stage after : Stage μ κ ρ} {step : Step κ}
    {shown : Shown ρ}
    (reached : (Stage.fresh types config middleware host).play acts = some (traced, stage))
    (taken : stage.act (.step step) = some (shown, after)) :
    LeavesNoTrace stage step shown after := by
  obtain ⟨past, run⟩ := Stage.run_play reached
  obtain ⟨brief, answer, bridge, changed, performed, rfl, rfl⟩ := Stage.act_step taken
  have refuses {e : BridgeError} (failed : answer = .failed e) :
      stage.world.bridge.Refuses bridge ∧
        changed = { stage.host with failures := stage.host.failures ++ step.tells answer } := by
    subst failed
    have refuses := Session.refuses_perform _ _ _ brief (congrArg Prod.fst performed)
    rw [performed] at refuses
    exact refuses
  have alike {e : BridgeError} (failed : answer = .failed e) :
      ∃ rename, stage.Alike rename ⟨⟨bridge, stage.world.drains⟩, changed⟩ := by
    obtain ⟨refused, told⟩ := refuses failed
    obtain ⟨rename, bridge⟩ := run.drawn.alike refused
    exact ⟨rename, ⟨bridge, rfl⟩, _, told⟩
  refine ⟨?_, ?_, ?_, ?_⟩
  · intro e failed
    obtain ⟨rename, alike⟩ := alike (Option.some.inj failed)
    exact alike.view
  · intro e failed acts
    obtain ⟨rename, alike⟩ := alike (Option.some.inj failed)
    exact alike.trace acts
  · cases step with
    | command script name arguments => cases answer <;> rfl
    | _ => rfl
  · rintro (⟨script, name, arguments, rfl⟩ | ⟨e, failed⟩)
    · have told := Session.host_command (fun _ session => session) stage.world.bridge stage.host
        script name arguments
      rw [performed] at told
      exact told
    · exact (refuses (Option.some.inj failed)).2

/-- The error that an act fails with. -/
def Shown.error? (shown : Shown ρ) : Option BridgeError :=
  match shown.answer with
  | some (.failed e) => some e
  | _ => none

/-- A subscriber and a publisher of one topic are open, and a message was sent
and calls the callback. -/
def conversation : List (Act Bus Bus.Request Bus.Answer) :=
  [.step (.addEntryPoint ⟨⟨1⟩, "onCount"⟩),
    .step (.createSubscriber ⟨⟨1⟩, "onCount"⟩ "/count" "Count" {}),
    .step (.createPublisher ⟨2⟩ "/count" "Count" {}), .step (.publish ⟨1⟩ [7]),
    .layer Bus.arrivals, .beginDrain, .take]

/-- The callback cannot advertise the topic with another type.  The allocator is
another one afterwards, and yet nobody can tell. -/
theorem failure_leavesNoTrace_conflict :
    ∃ traced stage shown after,
      (Stage.fresh ((({} : Catalog).insertCodec "raw/Count" "Count"
          (Codec.raw "raw/Count")).insertCodec "raw/Text" "Text" (Codec.raw "raw/Text"))
        {} ({} : Bus) {}).play conversation = some (traced, stage) ∧
      stage.act (.step (.command ⟨1⟩ "advertise" [.string "/count", .string "Text"])) =
        some (shown, after) ∧
      shown.error? = some (.topicConflict "/count" "raw/Count" "raw/Text") ∧
      stage.world.bridge.table.allocator = ⟨2, [], Handle.maxIndex⟩ ∧
      after.world.bridge.table.allocator = ⟨3, [⟨2⟩], Handle.maxIndex⟩ ∧
      LeavesNoTrace stage (.command ⟨1⟩ "advertise" [.string "/count", .string "Text"]) shown
        after := by
  have computed : ((Stage.fresh ((({} : Catalog).insertCodec "raw/Count" "Count"
      (Codec.raw "raw/Count")).insertCodec "raw/Text" "Text" (Codec.raw "raw/Text"))
        {} ({} : Bus) {}).play conversation).bind (fun played =>
          (played.2.act (.step (.command ⟨1⟩ "advertise"
            [.string "/count", .string "Text"]))).map fun acted =>
              (acted.1.error?, played.2.world.bridge.table.allocator,
                acted.2.world.bridge.table.allocator)) =
      some (some (.topicConflict "/count" "raw/Count" "raw/Text"),
        ⟨2, [], Handle.maxIndex⟩, ⟨3, [⟨2⟩], Handle.maxIndex⟩) := by
    decide +kernel
  obtain ⟨⟨traced, stage⟩, reached, continued⟩ := Option.bind_eq_some_iff.mp computed
  obtain ⟨⟨shown, after⟩, taken, same⟩ := Option.map_eq_some_iff.mp continued
  simp only [Prod.mk.injEq] at same
  obtain ⟨failed, before, afterwards⟩ := same
  exact ⟨traced, stage, shown, after, reached, taken, failed, before, afterwards,
    failure_leavesNoTrace reached taken⟩

end TopicBridge
