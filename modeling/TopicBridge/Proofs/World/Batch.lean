import Mathlib.Logic.Function.Iterate
import TopicBridge.Proofs.World.Account

/-!
# What a drain takes

A drain takes at most its budget, and less only if it finds the queue empty,
whatever the callbacks do meanwhile.  If they leave the bridge alone, a drain
takes what is at the front of the queue, as much as its budget allows, and several
drains that empty the queue do together what one of them does that may take
everything.

A drain without a limit may take as many invocations as the configuration allows
to be pending.  The queue holds one even if the configuration allows none, and
then no drain takes it.
-/

namespace TopicBridge

variable {μ η : Type}

theorem DrainReport.total_empty : DrainReport.total {} = 0 :=
  rfl

theorem DrainReport.total_finish (report : DrainReport) (outcome : Except String Unit) :
    (report.finish outcome).total = report.total + 1 := by
  cases outcome <;> simp only [DrainReport.finish, DrainReport.total] <;> omega

theorem DrainReport.total_discard (report : DrainReport) :
    DrainReport.total { report with discarded := report.discarded + 1 } = report.total + 1 := by
  simp only [DrainReport.total]
  omega

namespace Bridge

/-! ## Any callbacks -/

section

variable (call : Invocation → Bridge μ × η → Except String Unit × Bridge μ × η)

/-- A drain of an empty queue does nothing. -/
theorem drainUpTo_of_empty (budget : Nat) (report : DrainReport) {bridge : Bridge μ} (host : η)
    (empty : bridge.pending.toList = []) :
    drainUpTo call budget report (bridge, host) = (report, bridge, host) := by
  cases budget with
  | zero => rfl
  | succ budget =>
      rw [drainUpTo_succ, takePending, (Queue.pop?_eq_none_iff _).mpr empty]

/-- Two drains one after another take what one does with both budgets. -/
theorem drainUpTo_add (first second : Nat) (report : DrainReport) (world : Bridge μ × η) :
    drainUpTo call (first + second) report world =
      drainUpTo call second (drainUpTo call first report world).1
        (drainUpTo call first report world).2 := by
  induction first generalizing report world with
  | zero => rw [Nat.zero_add, drainUpTo]
  | succ first ih =>
      rcases world with ⟨bridge, host⟩
      rw [Nat.add_right_comm, drainUpTo_succ, drainUpTo_succ]
      have found := bridge.taking
      generalize bridge.takePending = taken at found ⊢
      cases found with
      | nothing empty => exact (drainUpTo_of_empty call second report host empty).symm
      | stale popped gone => exact ih _ _
      | due popped live => exact ih _ _

/-- What a drain does has nothing to do with what it reports. -/
theorem snd_drainUpTo (budget : Nat) (report report' : DrainReport) (world : Bridge μ × η) :
    (drainUpTo call budget report world).2 = (drainUpTo call budget report' world).2 := by
  induction budget generalizing report report' world with
  | zero => rfl
  | succ budget ih =>
      rcases world with ⟨bridge, host⟩
      rw [drainUpTo_succ, drainUpTo_succ]
      split
      · rfl
      · exact ih _ _ _
      · exact ih _ _ _

/-- Drains that empty the queue do the same, whatever their budgets are. -/
theorem drainUpTo_eq_of_empty {first second : Nat} {world : Bridge μ × η}
    (empty : (drainUpTo call first {} world).2.1.pending.toList = [])
    (empty' : (drainUpTo call second {} world).2.1.pending.toList = []) :
    (drainUpTo call first {} world).2 = (drainUpTo call second {} world).2 := by
  have further {budget : Nat} (more : Nat)
      (empty : (drainUpTo call budget {} world).2.1.pending.toList = []) :
      (drainUpTo call (budget + more) {} world).2 = (drainUpTo call budget {} world).2 := by
    rw [drainUpTo_add, drainUpTo_of_empty call more _ _ empty]
  rw [← further second empty, Nat.add_comm, further first empty']

/-- A drain takes at most its budget, and leaves the queue empty if it takes
less. -/
theorem total_drainUpTo (budget : Nat) (report : DrainReport) (world : Bridge μ × η) :
    (drainUpTo call budget report world).1.total ≤ report.total + budget ∧
      ((drainUpTo call budget report world).1.total < report.total + budget →
        (drainUpTo call budget report world).2.1.pending.toList = []) := by
  induction budget generalizing report world with
  | zero => exact ⟨Nat.le_refl _, fun less => absurd less (Nat.lt_irrefl _)⟩
  | succ budget ih =>
      rcases world with ⟨bridge, host⟩
      rw [drainUpTo_succ, Nat.add_comm budget, ← Nat.add_assoc]
      have found := bridge.taking
      generalize bridge.takePending = taken at found ⊢
      cases found with
      | nothing empty =>
          constructor
          · exact Nat.le_trans (Nat.le_add_right _ _) (Nat.le_add_right _ _)
          · intro _
            exact empty
      | stale popped gone =>
          rw [← DrainReport.total_discard]
          exact ih _ _
      | due popped live =>
          dsimp only
          rw [← DrainReport.total_finish]
          exact ih _ _

end

/-! ## Callbacks that leave the bridge alone -/

/-- A host whose callbacks leave the bridge alone. -/
def detached (answer : Invocation → η → Except String Unit × η) (invocation : Invocation)
    (world : Bridge μ × η) : Except String Unit × Bridge μ × η :=
  ((answer invocation world.2).1, world.1, (answer invocation world.2).2)

/-- What several drains one after another leave. -/
def drainTimes (answer : Invocation → η → Except String Unit × η) (rounds : Nat) :
    Bridge μ × η → Bridge μ × η :=
  (fun world => (drain (detached answer) world).2)^[rounds]

/-- A drain has dealt with a number of invocations at the front of the queue:
those for live subscribers were passed to the host, in order. -/
structure DealtWith (answer : Invocation → η → Except String Unit × η) (count : Nat)
    (bridge : Bridge μ) (host : η) (after : Bridge μ × η) : Prop where
  config : after.1.config = bridge.config
  table : after.1.table = bridge.table
  pending : after.1.pending.toList = bridge.pending.toList.drop count
  called : after.2 = ((bridge.pending.toList.take count).filter bridge.isLive).foldl
    (fun host invocation => (answer invocation host).2) host

theorem isLive_congr {bridge after : Bridge μ} (same : after.table = bridge.table) :
    after.isLive = bridge.isLive := by
  funext invocation
  rw [isLive, isLive, same]

section

variable (answer : Invocation → η → Except String Unit × η)

theorem drainUpTo_detached (budget : Nat) (report : DrainReport) (bridge : Bridge μ) (host : η) :
    (drainUpTo (detached answer) budget report (bridge, host)).1.total =
        report.total + min budget bridge.pending.toList.length ∧
      DealtWith answer budget bridge host
        (drainUpTo (detached answer) budget report (bridge, host)).2 := by
  induction budget generalizing report bridge host with
  | zero => exact ⟨by rw [Nat.zero_min, Nat.add_zero]; rfl, rfl, rfl, rfl, rfl⟩
  | succ budget ih =>
      rw [drainUpTo_succ]
      have found := bridge.taking
      generalize bridge.takePending = taken at found ⊢
      cases found with
      | nothing empty =>
          constructor
          · rw [empty, List.length_nil, Nat.min_zero]
            rfl
          · constructor
            · rfl
            · rfl
            · rw [empty, List.drop_nil]
            · rw [empty, List.take_nil]
              rfl
      | @stale invocation rest popped gone =>
          have front := Queue.toList_of_pop? popped
          rcases ih { report with discarded := report.discarded + 1 }
            { bridge with
              pending := rest
              counters := { bridge.counters with
                discardedStale := bridge.counters.discardedStale + 1 } } host
            with ⟨total, config, table, pending, called⟩
          dsimp only at total pending called ⊢
          constructor
          · rw [total, DrainReport.total_discard, front, List.length_cons]
            omega
          · constructor
            · exact config
            · exact table
            · rw [pending, front, List.drop_succ_cons]
            · rw [called, front, List.take_succ_cons,
                List.filter_cons_of_neg (Bool.eq_false_iff.mp gone)]
              rfl
      | @due invocation rest popped live =>
          have front := Queue.toList_of_pop? popped
          rcases ih (report.finish (answer invocation host).1)
            ({ bridge with pending := rest }.finish invocation (answer invocation host).1)
            (answer invocation host).2 with ⟨total, config, table, pending, called⟩
          rw [pending_finish] at total pending called
          dsimp only [detached] at total pending called ⊢
          have same : ({ bridge with pending := rest }.finish invocation
              (answer invocation host).1).isLive = bridge.isLive :=
            isLive_congr (table_finish _ _ _)
          constructor
          · rw [total, DrainReport.total_finish, front, List.length_cons]
            omega
          · constructor
            · rw [config]
              cases (answer invocation host).1 <;> rfl
            · rw [table, table_finish]
            · rw [pending, front, List.drop_succ_cons]
            · rw [called, same, front, List.take_succ_cons,
                List.filter_cons_of_pos live]
              rfl

/-- A drain does not look at the configuration while it goes on. -/
theorem drainUpTo_withConfig (config : BridgeConfig) (budget : Nat) (report : DrainReport)
    (bridge : Bridge μ) (host : η) :
    drainUpTo (detached answer) budget report ({ bridge with config }, host) =
      let drained := drainUpTo (detached answer) budget report (bridge, host)
      (drained.1, { drained.2.1 with config }, drained.2.2) := by
  induction budget generalizing report bridge host with
  | zero => rfl
  | succ budget ih =>
      have same : takePending { bridge with config } =
          (bridge.takePending.1, { bridge.takePending.2 with config }) := by
        unfold takePending
        cases bridge.pending.pop? with
        | none => rfl
        | some taken =>
            dsimp only
            change (if isLive { bridge with pending := taken.2 } taken.1 then _ else _) = _
            split <;> rfl
      rw [drainUpTo_succ, drainUpTo_succ, same]
      rcases bridge.takePending with ⟨taken, next⟩
      cases taken with
      | nothing => rfl
      | stale => exact ih _ next host
      | due invocation =>
          have finished (outcome : Except String Unit) :
              { next with config }.finish invocation outcome =
                { next.finish invocation outcome with config } := by
            cases outcome <;> rfl
          dsimp only [detached]
          rw [finished]
          exact ih _ _ _

/-- Drains one after another, each with the budget of the bridge, do what one
drain does with all their budgets. -/
theorem drainTimes_eq (rounds : Nat) (bridge : Bridge μ) (host : η) :
    drainTimes answer rounds (bridge, host) =
      (drainUpTo (detached answer) (rounds * bridge.config.effectiveBudget) {} (bridge, host)).2 := by
  unfold drainTimes
  induction rounds with
  | zero => rw [Nat.zero_mul, drainUpTo, Function.iterate_zero, id]
  | succ rounds ih =>
      have config := (drainUpTo_detached answer (rounds * bridge.config.effectiveBudget) {} bridge
        host).2.config
      rw [Function.iterate_succ_apply', ih, Nat.succ_mul, drainUpTo_add, drain, config]
      exact snd_drainUpTo _ _ _ _ _

/-- Drains whose budgets together are not less than what is queued empty the
queue. -/
theorem drainTimes_of_le {rounds : Nat} {bridge : Bridge μ} (host : η)
    (enough : bridge.pending.size ≤ rounds * bridge.config.effectiveBudget) :
    (drainTimes answer rounds (bridge, host)).1.pending.toList = [] := by
  rw [drainTimes_eq, (drainUpTo_detached answer _ {} bridge host).2.pending]
  rw [Queue.size_eq_length_toList] at enough
  exact List.drop_of_length_le enough

/-- Drains that empty the queue together do what one of them does that may take
everything. -/
theorem drainTimes_eq_drain {rounds : Nat} {bridge : Bridge μ} {host : η}
    (part whole : BridgeConfig) (enough : bridge.pending.size ≤ whole.effectiveBudget)
    (empty : (drainTimes answer rounds ({ bridge with config := part }, host)).1.pending.toList =
      []) :
    drainTimes answer rounds ({ bridge with config := part }, host) =
      let single := (drain (detached answer) ({ bridge with config := whole }, host)).2
      ({ single.1 with config := part }, single.2) := by
  have single : (drainUpTo (detached answer) whole.effectiveBudget {}
      ({ bridge with config := part }, host)).2.1.pending.toList = [] := by
    rw [(drainUpTo_detached answer _ {} _ host).2.pending]
    rw [Queue.size_eq_length_toList] at enough
    exact List.drop_of_length_le enough
  rw [drainTimes_eq] at empty ⊢
  calc
    (drainUpTo (detached answer) (rounds * part.effectiveBudget) {}
        ({ bridge with config := part }, host)).2 =
      (drainUpTo (detached answer) whole.effectiveBudget {}
        ({ bridge with config := part }, host)).2 := drainUpTo_eq_of_empty _ empty single
    _ = _ := congrArg Prod.snd
      (drainUpTo_withConfig answer part whole.effectiveBudget {} { bridge with config := whole } host)

end

/-! ## Drains without a limit -/

/-- A drain took everything that was queued. -/
def Emptied (bridge : Bridge μ) (drained : DrainReport × Bridge μ × η) : Prop :=
  drained.1.total = bridge.pending.size ∧ drained.2.1.pending.toList = []

/-- A drain of a host that leaves the bridge alone takes everything if its budget
allows it. -/
theorem emptied_drain_iff (answer : Invocation → η → Except String Unit × η) (bridge : Bridge μ)
    (host : η) :
    bridge.Emptied (drain (detached answer) (bridge, host)) ↔
      bridge.pending.size ≤ bridge.config.effectiveBudget := by
  rcases drainUpTo_detached answer bridge.config.effectiveBudget {} bridge host with
    ⟨total, dealt⟩
  rw [Emptied, drain, total, dealt.pending, DrainReport.total_empty, Nat.zero_add,
    Queue.size_eq_length_toList]
  constructor
  · rintro ⟨_, empty⟩
    exact List.drop_eq_nil_iff.mp empty
  · intro enough
    exact ⟨Nat.min_eq_right enough, List.drop_of_length_le enough⟩

end Bridge

/-- In every run of a bridge without a budget, a drain takes everything that is
queued if and only if an invocation may be pending at all, or none is. -/
theorem emptied_unlimited_iff [Middleware μ] {types : Catalog} {config : BridgeConfig}
    {middleware : μ} {past : List (Moment μ)} {world : World μ}
    (run : Run (World.fresh types config middleware) past world)
    (unlimited : config.drainBudget = 0) (answer : Invocation → η → Except String Unit × η)
    (host : η) :
    world.bridge.Emptied (Bridge.drain (Bridge.detached answer) (world.bridge, host)) ↔
      config.pendingCapacity ≠ 0 ∨ world.bridge.pending.toList = [] := by
  have room := run.balanced.room
  rw [BridgeConfig.queueCapacity] at room
  rw [Bridge.emptied_drain_iff, run.balanced.configured, BridgeConfig.effectiveBudget,
    if_pos unlimited, ← List.length_eq_zero_iff, ← Queue.size_eq_length_toList]
  omega

/-- A subscriber receives three messages. -/
def received : List (Event Recorder) :=
  [.operation (.createSubscriber (fun _ => true) "/count" "Count" ⟨⟨1⟩, "onCount"⟩ {}),
    .deliver ⟨0⟩ [1], .deliver ⟨0⟩ [2], .deliver ⟨0⟩ [3]]

/-- Two of the three messages find room, and a drain takes both. -/
theorem emptied_unlimited_iff_received :
    ∃ past world,
      Run (World.fresh (({} : Catalog).insertCodec "raw/Count" "Count" (Codec.raw "raw/Count"))
        { pendingCapacity := 2 } ({} : Recorder)) past world ∧
      world.bridge.pending.size = 2 ∧
      world.bridge.Emptied
        (Bridge.drain (Bridge.detached fun _ host => (.ok (), host)) (world.bridge, ())) := by
  have computed : ((World.fresh (({} : Catalog).insertCodec "raw/Count" "Count"
      (Codec.raw "raw/Count")) { pendingCapacity := 2 } ({} : Recorder)).replay received).map
        (fun replayed => replayed.2.bridge.pending.size) = some 2 := by
    decide
  rcases Option.map_eq_some_iff.mp computed with ⟨⟨past, world⟩, replayed, queued⟩
  have run := Run.ofReplay replayed
  exact ⟨past, world, run, queued,
    (emptied_unlimited_iff run rfl _ ()).mpr (Or.inl (Nat.succ_ne_zero 1))⟩

/-- If none may be pending, the first message is queued all the same, and stays
there. -/
theorem not_emptied_received :
    ∃ past world,
      Run (World.fresh (({} : Catalog).insertCodec "raw/Count" "Count" (Codec.raw "raw/Count"))
        { pendingCapacity := 0 } ({} : Recorder)) past world ∧
      world.bridge.pending.size = 1 ∧
      ¬ world.bridge.Emptied
        (Bridge.drain (Bridge.detached fun _ host => (.ok (), host)) (world.bridge, ())) := by
  have computed : ((World.fresh (({} : Catalog).insertCodec "raw/Count" "Count"
      (Codec.raw "raw/Count")) { pendingCapacity := 0 } ({} : Recorder)).replay received).map
        (fun replayed => (replayed.2.bridge.pending.size,
          (Bridge.drain (Bridge.detached fun _ host => (.ok (), host))
            (replayed.2.bridge, ())).1.total)) = some (1, 0) := by
    decide
  rcases Option.map_eq_some_iff.mp computed with ⟨⟨past, world⟩, replayed, same⟩
  rcases Prod.mk.inj same with ⟨queued, taken⟩
  refine ⟨past, world, Run.ofReplay replayed, queued, ?_⟩
  rintro ⟨total, _⟩
  rw [taken, queued] at total
  cases total

end TopicBridge
