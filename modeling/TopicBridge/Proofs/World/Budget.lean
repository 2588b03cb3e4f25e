import TopicBridge.Proofs.World.Batch

/-!
# What each drain of a run takes

Drains nest, and while a drain is in progress its callbacks may do anything with
the bridge.  What a drain does itself is told by two kinds of events: it looks at
the front of the queue, or it ends.  Every other event leaves its budget and what
it has to report as they are, and every look costs at least one of its budget.
So each drain of a run keeps to its budget, reports what it took itself, and ends
early only after a look at an empty queue.
-/

namespace TopicBridge

variable {μ : Type}

/-- What a drain has taken, the invocation whose callback is running included. -/
def Drain.counted (drain : Drain) : Nat :=
  drain.report.total + if drain.running.isSome then 1 else 0

namespace Moment

/-- The drain that has `depth` others around it looks at the queue. -/
def looks (depth : Nat) (moment : Moment μ) : Bool :=
  match moment.event with
  | .take => moment.world.drains.length = depth + 1
  | _ => false

/-- The report of the drain that has `depth` others around it, if the event ends
this drain. -/
def ended? (depth : Nat) (moment : Moment μ) : Option DrainReport :=
  if moment.world.drains.length = depth + 1 then moment.report? else none

variable {depth : Nat} {moment : Moment μ}

/-- Other drains look and end by themselves. -/
theorem aside_of_length_ne (other : moment.world.drains.length ≠ depth + 1) :
    moment.looks depth = false ∧ moment.ended? depth = none := by
  constructor
  · unfold looks
    split
    · exact decide_eq_false other
    · rfl
  · rw [ended?, if_neg other]

theorem ended?_of_report? (goes : moment.report? = none) : moment.ended? depth = none := by
  rw [ended?, goes, ite_self]

theorem ended?_of_looks (look : moment.looks depth = true) : moment.ended? depth = none := by
  apply ended?_of_report?
  unfold looks at look
  unfold report?
  split at look
  · rename_i take
    rw [take]
  · cases look

end Moment

/-- The part of a run during which a drain with `depth` others around it is in
progress. -/
def courseOf (depth : Nat) (later : List (Moment μ)) : List (Moment μ) :=
  later.takeWhile fun moment => depth < moment.world.drains.length

theorem courseOf_cons {depth : Nat} {moment : Moment μ}
    (within : depth < moment.world.drains.length) (later : List (Moment μ)) :
    courseOf depth (moment :: later) = moment :: courseOf depth later :=
  List.takeWhile_cons_of_pos (decide_eq_true within)

/-- The moments at which the drain looks at the queue. -/
def looksOf (depth : Nat) (course : List (Moment μ)) : List (Moment μ) :=
  course.filter (Moment.looks depth)

/-- The invocations that the drain takes, oldest first. -/
def takenOf (depth : Nat) (course : List (Moment μ)) : List Invocation :=
  ((looksOf depth course).flatMap Moment.departed).map Prod.fst

theorem looksOf_cons {depth : Nat} {moment : Moment μ} (look : moment.looks depth = true)
    (course : List (Moment μ)) : looksOf depth (moment :: course) = moment :: looksOf depth course :=
  List.filter_cons_of_pos look

theorem takenOf_cons {depth : Nat} {moment : Moment μ} (look : moment.looks depth = true)
    (course : List (Moment μ)) :
    takenOf depth (moment :: course) = moment.departed.map Prod.fst ++ takenOf depth course := by
  rw [takenOf, looksOf_cons look, List.flatMap_cons, List.map_append, takenOf]

/-! ## What an event is to a drain -/

/-- What an event is to a drain in progress with the drains `outer` around it. -/
inductive Drain.Turn (outer : List Drain) (drain : Drain) (moment : Moment μ) (after : World μ) :
    Prop
  /-- It leaves the drain alone, or its callback returns. -/
  | aside (inner : List Drain) {next : Drain} (drains : after.drains = inner ++ next :: outer)
      (budget : next.budget = drain.budget) (counted : next.counted = drain.counted)
      (aside : moment.looks outer.length = false ∧ moment.ended? outer.length = none)
  /-- The drain finds the queue empty. -/
  | empty {next : Drain} (drains : after.drains = next :: outer)
      (able : 0 < drain.budget) (spent : next.budget = 0) (counted : next.counted = drain.counted)
      (look : moment.looks outer.length = true) (departed : moment.departed = [])
      (empty : moment.world.bridge.pending.toList = [])
  /-- The drain takes an invocation. -/
  | took {next : Drain} {invocation : Invocation} (drains : after.drains = next :: outer)
      (budget : drain.budget = next.budget + 1) (counted : next.counted = drain.counted + 1)
      (look : moment.looks outer.length = true)
      (departed : moment.departed.map Prod.fst = [invocation])
  /-- The drain ends. -/
  | ends {report : DrainReport} (drains : after.drains = outer) (spent : drain.budget = 0)
      (counted : report.total = drain.counted) (look : moment.looks outer.length = false)
      (ended : moment.ended? outer.length = some report)

namespace World

variable [Middleware μ] {world after : World μ} {event : Event μ}

omit [Middleware μ] in
theorem length_outer_lt {inner outer : List Drain} {drain : Drain}
    (drains : world.drains = inner ++ drain :: outer) : outer.length < world.drains.length := by
  rw [drains, List.length_append, List.length_cons]
  exact Nat.lt_add_left inner.length (Nat.lt_succ_self outer.length)

/-- No event touches a drain other than the innermost one. -/
theorem step_outer {innermost : Drain} {outer : List Drain}
    (drains : world.drains = innermost :: outer) (stepped : world.step event = some after) :
    ∃ inner, after.drains = inner ++ outer := by
  cases event with
  | operation operation =>
      rcases step_operation stepped with ⟨_, rfl⟩
      exact ⟨[innermost], drains⟩
  | deliver subscription payload =>
      cases stepped
      exact ⟨[innermost], drains⟩
  | layer middleware =>
      cases stepped
      exact ⟨[innermost], drains⟩
  | beginDrain =>
      rcases step_beginDrain stepped with ⟨_, rfl⟩
      exact ⟨[_, innermost], congrArg (List.cons _) drains⟩
  | take =>
      rcases step_take stepped with ⟨budget, report, _, idle, rfl⟩
      cases drains.symm.trans idle
      exact ⟨[_], rfl⟩
  | finish outcome =>
      rcases step_finish stepped with ⟨budget, report, invocation, _, busy, rfl⟩
      cases drains.symm.trans busy
      exact ⟨[_], rfl⟩
  | endDrain =>
      rcases step_endDrain stepped with ⟨report, _, spent, rfl⟩
      cases drains.symm.trans spent
      exact ⟨[], rfl⟩

/-- Every event is one of these to a drain in progress. -/
theorem step_turn {inner outer : List Drain} {drain : Drain}
    (drains : world.drains = inner ++ drain :: outer) (stepped : world.step event = some after) :
    drain.Turn outer ⟨world, event⟩ after := by
  cases inner with
  | cons innermost inner =>
      -- Another drain is innermost, and all that happens is its doing.
      have stacked : world.drains = innermost :: (inner ++ drain :: outer) := drains
      rcases step_outer stacked stepped with ⟨newer, drains'⟩
      rw [← List.append_assoc] at drains'
      apply Drain.Turn.aside _ drains' rfl rfl
      apply Moment.aside_of_length_ne
      dsimp only
      rw [drains, List.cons_append, List.length_cons, List.length_append, List.length_cons]
      omega
  | nil =>
      have length : world.drains.length = outer.length + 1 := congrArg List.length drains
      have goes (event : Event μ) (silent : (Moment.mk world event).report? = none) :
          (Moment.mk world event).ended? outer.length = none := Moment.ended?_of_report? silent
      cases event with
      | operation operation =>
          rcases step_operation stepped with ⟨_, rfl⟩
          exact .aside [] drains rfl rfl ⟨rfl, goes _ rfl⟩
      | deliver subscription payload =>
          cases stepped
          exact .aside [] drains rfl rfl ⟨rfl, goes _ rfl⟩
      | layer middleware =>
          cases stepped
          exact .aside [] drains rfl rfl ⟨rfl, goes _ rfl⟩
      | beginDrain =>
          rcases step_beginDrain stepped with ⟨_, rfl⟩
          exact .aside [_] (congrArg (List.cons _) drains) rfl rfl ⟨rfl, goes _ rfl⟩
      | take =>
          rcases step_take stepped with ⟨budget, report, _, idle, rfl⟩
          cases drains.symm.trans idle
          have look : (Moment.mk world .take).looks outer.length = true := decide_eq_true length
          have departed {invocation : Invocation} {rest : Queue Invocation}
              (popped : world.bridge.pending.pop? = some (invocation, rest)) :
              (Moment.mk world .take).departed.map Prod.fst = [invocation] := by
            simp only [Moment.departed, popped, List.map_cons, List.map_nil]
          have found := world.bridge.taking
          unfold takeNext Bridge.takeNext
          generalize world.bridge.takePending = taken at found ⊢
          cases found with
          | nothing empty =>
              have departed : (Moment.mk world .take).departed = [] := by
                simp only [Moment.departed, (Queue.pop?_eq_none_iff _).mpr empty]
              exact .empty rfl (Nat.succ_pos _) rfl rfl look departed empty
          | stale popped gone =>
              exact .took rfl rfl (DrainReport.total_discard report) look (departed popped)
          | due popped live => exact .took rfl rfl rfl look (departed popped)
      | finish outcome =>
          rcases step_finish stepped with ⟨budget, report, invocation, _, busy, rfl⟩
          cases drains.symm.trans busy
          exact .aside [] rfl rfl (DrainReport.total_finish report outcome)
            ⟨rfl, goes _ rfl⟩
      | endDrain =>
          rcases step_endDrain stepped with ⟨report, _, spent, rfl⟩
          cases drains.symm.trans spent
          have reports : (Moment.mk world .endDrain).ended? outer.length = some report := by
            rw [Moment.ended?, if_pos length, Moment.report?]
            dsimp only
            rw [spent, List.head?_cons, Option.map_some]
          exact .ends rfl rfl rfl rfl reports

end World

/-! ## Runs -/

/-- A drain that is not in progress has no course. -/
theorem Run.courseOf_eq_nil [Middleware μ] {start last : World μ} {depth : Nat}
    {later : List (Moment μ)} (run : Run start later last) (left : start.drains.length ≤ depth) :
    courseOf depth later = [] := by
  cases later with
  | nil => rfl
  | cons moment later =>
      rcases run.uncons with ⟨rfl, _⟩
      exact List.takeWhile_cons_of_neg fun within =>
        Nat.not_lt_of_le left (of_decide_eq_true within)

/-- A drain with `depth` others around it keeps to a budget.  It had taken
`counted` invocations before its course. -/
structure KeepsTo (budget counted depth : Nat) (course : List (Moment μ)) : Prop where
  looks : (looksOf depth course).length ≤ budget
  taken : (takenOf depth course).length ≤ budget
  /-- The drain reports what it took itself.  If that is less than its budget, it
  found the queue empty when it last looked. -/
  ended : ∀ ending ∈ course, ∀ report, ending.ended? depth = some report →
    report.total = counted + (takenOf depth course).length ∧
      ((takenOf depth course).length < budget →
        ∃ look, (looksOf depth course).getLast? = some look ∧
          look.world.bridge.pending.toList = [])

namespace KeepsTo

variable {budget counted depth : Nat} {moment : Moment μ} {course : List (Moment μ)}

theorem nil : KeepsTo budget counted depth ([] : List (Moment μ)) :=
  ⟨Nat.zero_le _, Nat.zero_le _, nofun⟩

/-- What the drain does after an event that leaves it alone. -/
theorem aside (keeps : KeepsTo budget counted depth course)
    (aside : moment.looks depth = false ∧ moment.ended? depth = none) :
    KeepsTo budget counted depth (moment :: course) := by
  have looks : looksOf depth (moment :: course) = looksOf depth course :=
    List.filter_cons_of_neg (Bool.eq_false_iff.mp aside.1)
  have taken : takenOf depth (moment :: course) = takenOf depth course := by
    rw [takenOf, looks, takenOf]
  constructor
  case looks => exact looks ▸ keeps.looks
  case taken => exact taken ▸ keeps.taken
  case ended =>
    intro ending member report reported
    rcases List.mem_cons.mp member with rfl | member
    · rw [aside.2] at reported
      cases reported
    · rw [looks, taken]
      exact keeps.ended ending member report reported

/-- A look at an empty queue is the last one. -/
theorem empty (keeps : KeepsTo 0 counted depth course) (able : 0 < budget)
    (look : moment.looks depth = true) (departed : moment.departed = [])
    (empty : moment.world.bridge.pending.toList = []) :
    KeepsTo budget counted depth (moment :: course) := by
  have looks : looksOf depth (moment :: course) = [moment] := by
    rw [looksOf_cons look, List.eq_nil_of_length_eq_zero (Nat.le_zero.mp keeps.looks)]
  have taken : takenOf depth (moment :: course) = takenOf depth course := by
    rw [takenOf_cons look, departed, List.map_nil, List.nil_append]
  constructor
  case looks => exact looks ▸ able
  case taken => exact taken ▸ Nat.le_trans keeps.taken (Nat.zero_le _)
  case ended =>
    intro ending member report reported
    rcases List.mem_cons.mp member with rfl | member
    · rw [Moment.ended?_of_looks look] at reported
      cases reported
    · rw [looks, taken]
      exact ⟨(keeps.ended ending member report reported).1, fun _ => ⟨moment, rfl, empty⟩⟩

/-- A look that takes an invocation uses up one of the budget. -/
theorem took {invocation : Invocation} (keeps : KeepsTo budget (counted + 1) depth course)
    (look : moment.looks depth = true) (departed : moment.departed.map Prod.fst = [invocation]) :
    KeepsTo (budget + 1) counted depth (moment :: course) := by
  have looks := looksOf_cons look course
  have taken : takenOf depth (moment :: course) = invocation :: takenOf depth course := by
    rw [takenOf_cons look, departed, List.singleton_append]
  constructor
  case looks =>
    rw [looks]
    exact Nat.succ_le_succ keeps.looks
  case taken =>
    rw [taken]
    exact Nat.succ_le_succ keeps.taken
  case ended =>
    intro ending member report reported
    rcases List.mem_cons.mp member with rfl | member
    · rw [Moment.ended?_of_looks look] at reported
      cases reported
    · rcases keeps.ended ending member report reported with ⟨total, short⟩
      rw [looks, taken, List.length_cons]
      constructor
      · rw [total, Nat.add_assoc, Nat.add_comm 1]
      · intro less
        rcases short (Nat.lt_of_succ_lt_succ less) with ⟨last, found, empty⟩
        exact ⟨last, by rw [List.getLast?_cons, found, Option.getD_some], empty⟩

/-- A drain that ends has no more to do. -/
theorem ends {report : DrainReport} (look : moment.looks depth = false)
    (ended : moment.ended? depth = some report) :
    KeepsTo 0 report.total depth [moment] := by
  have looks : looksOf depth [moment] = [] :=
    List.filter_cons_of_neg (Bool.eq_false_iff.mp look)
  have taken : takenOf depth [moment] = [] := by
    rw [takenOf, looks, List.flatMap_nil, List.map_nil]
  constructor
  case looks => exact Nat.le_of_eq (congrArg List.length looks)
  case taken => exact Nat.le_of_eq (congrArg List.length taken)
  case ended =>
    intro ending member reported same
    cases List.mem_singleton.mp member
    cases ended.symm.trans same
    rw [taken]
    exact ⟨rfl, nofun⟩

end KeepsTo

/-- A drain in progress keeps to the budget that it has left. -/
theorem Run.keepsTo [Middleware μ] {start last : World μ} {later : List (Moment μ)}
    (inner : List Drain) {outer : List Drain} {drain : Drain} (run : Run start later last)
    (drains : start.drains = inner ++ drain :: outer) :
    KeepsTo drain.budget drain.counted outer.length (courseOf outer.length later) := by
  -- From the front, because each event leaves a drain with less budget and more to
  -- report, to which the rest of the run applies.
  induction later generalizing start inner drain with
  | nil => exact .nil
  | cons moment later ih =>
      rcases run.uncons with ⟨rfl, next, stepped, rest⟩
      rw [courseOf_cons (World.length_outer_lt drains)]
      cases World.step_turn drains stepped with
      | aside newer drains budget counted aside =>
          rw [← budget, ← counted]
          exact (ih _ rest drains).aside aside
      | empty drains able spent counted look departed empty =>
          have keeps := ih [] rest drains
          rw [spent, counted] at keeps
          exact keeps.empty able look departed empty
      | took drains budget counted look departed =>
          have keeps := ih [] rest drains
          rw [counted] at keeps
          rw [budget]
          exact keeps.took look departed
      | ends drains spent counted look ended =>
          rw [rest.courseOf_eq_nil (Nat.le_of_eq (congrArg List.length drains)), spent, ← counted]
          exact .ends look ended

/-- A drain with `depth` others around it is in progress all along and still in the
end, or it ends with a report. -/
def GoesOrEnds (depth : Nat) (later : List (Moment μ)) (world : World μ) : Prop :=
  courseOf depth later = later ∧ depth < world.drains.length ∨
    ∃ ending ∈ courseOf depth later, ∃ report, ending.ended? depth = some report

theorem GoesOrEnds.cons {depth : Nat} {moment : Moment μ} {later : List (Moment μ)}
    {world : World μ} (settled : GoesOrEnds depth later world)
    (within : depth < moment.world.drains.length) :
    GoesOrEnds depth (moment :: later) world := by
  rw [GoesOrEnds, courseOf_cons within]
  rcases settled with ⟨whole, goes⟩ | ⟨ending, member, ended⟩
  · exact Or.inl ⟨congrArg (List.cons moment) whole, goes⟩
  · exact Or.inr ⟨ending, List.mem_cons_of_mem _ member, ended⟩

/-- A drain in progress is in one of these two cases after every run. -/
theorem Run.goesOrEnds [Middleware μ] {start last : World μ} {later : List (Moment μ)}
    (inner : List Drain) {outer : List Drain} {drain : Drain} (run : Run start later last)
    (drains : start.drains = inner ++ drain :: outer) :
    GoesOrEnds outer.length later last := by
  induction later generalizing start inner drain with
  | nil =>
      rw [← run.eq_of_nil] at drains
      exact Or.inl ⟨rfl, World.length_outer_lt drains⟩
  | cons moment later ih =>
      rcases run.uncons with ⟨rfl, next, stepped, rest⟩
      have within := World.length_outer_lt drains
      cases World.step_turn drains stepped with
      | aside newer drains => exact (ih _ rest drains).cons within
      | empty drains => exact (ih [] rest drains).cons within
      | took drains => exact (ih [] rest drains).cons within
      | ends drains spent counted look ended =>
          rw [GoesOrEnds, courseOf_cons within]
          exact Or.inr ⟨moment, List.mem_cons_self, _, ended⟩

/-- Drains keep to the budget of a bridge, whatever happens meanwhile. -/
structure WithinBudget (config : BridgeConfig) (past : List (Moment μ)) (world : World μ) :
    Prop where
  /-- Every drain that has begun keeps to the budget, ended or not. -/
  drains : ∀ (begun : Nat) (moment : Moment μ), past[begun]? = some moment →
    moment.event = .beginDrain →
      KeepsTo config.effectiveBudget 0 moment.world.drains.length
          (courseOf moment.world.drains.length (past.drop (begun + 1))) ∧
        GoesOrEnds moment.world.drains.length (past.drop (begun + 1)) world
  /-- A look takes the front of the queue. -/
  front : ∀ moment ∈ past, moment.event = .take →
    moment.departed.map Prod.fst = moment.world.bridge.pending.toList.take 1 ∧
      moment.world.bridge.takePending.2.pending.toList =
        moment.world.bridge.pending.toList.drop 1
  /-- So does a drain that begins now, whatever its callbacks do to the bridge. -/
  any : ∀ (η : Type) (call : Invocation → Bridge μ × η → Except String Unit × Bridge μ × η)
    (host : η), (Bridge.drain call (world.bridge, host)).1.total ≤ config.effectiveBudget ∧
      ((Bridge.drain call (world.bridge, host)).1.total < config.effectiveBudget →
        (Bridge.drain call (world.bridge, host)).2.1.pending.toList = [])
  /-- If they leave the bridge alone, it takes what its budget allows of what is
  queued. -/
  detached : ∀ (η : Type) (answer : Invocation → η → Except String Unit × η) (host : η),
    (Bridge.drain (Bridge.detached answer) (world.bridge, host)).1.total =
        min config.effectiveBudget world.bridge.pending.size ∧
      Bridge.DealtWith answer config.effectiveBudget world.bridge host
        (Bridge.drain (Bridge.detached answer) (world.bridge, host)).2
  /-- Then drains with any budget that empty the queue together leave the bridge and
  the host, which may take down its calls, as one drain that may take all does. -/
  parts : ∀ (η : Type) (answer : Invocation → η → Except String Unit × η) (host : η)
    (part whole : BridgeConfig) (rounds : Nat),
    world.bridge.pending.size ≤ whole.effectiveBudget →
    (Bridge.drainTimes answer rounds
      ({ world.bridge with config := part }, host)).1.pending.toList = [] →
      Bridge.drainTimes answer rounds ({ world.bridge with config := part }, host) =
        let single := (Bridge.drain (Bridge.detached answer)
          ({ world.bridge with config := whole }, host)).2
        ({ single.1 with config := part }, single.2)
  /-- They do empty it, sooner or later, unless their budget is zero. -/
  enough : ∀ (η : Type) (answer : Invocation → η → Except String Unit × η) (host : η)
    (part : BridgeConfig) (rounds : Nat),
    world.bridge.pending.size ≤ rounds * part.effectiveBudget →
      (Bridge.drainTimes answer rounds
        ({ world.bridge with config := part }, host)).1.pending.toList = []

/-- A look at the queue takes its front, if there is one. -/
theorem Moment.front_of_take {moment : Moment μ} (take : moment.event = .take) :
    moment.departed.map Prod.fst = moment.world.bridge.pending.toList.take 1 ∧
      moment.world.bridge.takePending.2.pending.toList =
        moment.world.bridge.pending.toList.drop 1 := by
  unfold departed
  rw [take]
  have found := moment.world.bridge.taking
  generalize moment.world.bridge.takePending = taken at found ⊢
  cases found with
  | nothing empty =>
      rw [(Queue.pop?_eq_none_iff _).mpr empty, empty]
      exact ⟨rfl, rfl⟩
  | stale popped gone =>
      rw [popped, Queue.toList_of_pop? popped]
      exact ⟨rfl, rfl⟩
  | due popped live =>
      rw [popped, Queue.toList_of_pop? popped]
      exact ⟨rfl, rfl⟩

/-- In every run of a bridge the drains keep to its budget. -/
theorem drains_withinBudget [Middleware μ] {types : Catalog} {config : BridgeConfig}
    {middleware : μ} {past : List (Moment μ)} {world : World μ}
    (run : Run (World.fresh types config middleware) past world) :
    WithinBudget config past world := by
  have configured := run.balanced.configured
  constructor
  case drains =>
    intro begun moment found begins
    rcases run.onward found with ⟨next, stepped, later⟩
    rw [begins] at stepped
    rcases World.step_beginDrain stepped with ⟨_, rfl⟩
    have keeps := later.keepsTo [] rfl
    rw [(run.before found).balanced.configured] at keeps
    exact ⟨keeps, later.goesOrEnds [] rfl⟩
  case front =>
    intro moment _ take
    exact moment.front_of_take take
  case any =>
    intro η call host
    have total := Bridge.total_drainUpTo call config.effectiveBudget {} (world.bridge, host)
    rw [DrainReport.total_empty, Nat.zero_add] at total
    rw [Bridge.drain, configured]
    exact total
  case detached =>
    intro η answer host
    have total := Bridge.drainUpTo_detached answer config.effectiveBudget {} world.bridge host
    rw [DrainReport.total_empty, Nat.zero_add] at total
    rw [Bridge.drain, configured, Queue.size_eq_length_toList]
    exact total
  case parts =>
    intro η answer host part whole rounds enough empty
    exact Bridge.drainTimes_eq_drain answer part whole enough empty
  case enough =>
    intro η answer host part rounds enough
    exact Bridge.drainTimes_of_le answer host enough

/-- Of the two drains the inner one takes as much as it may, and the outer one
stops early. -/
theorem drains_withinBudget_nested :
    ∃ past world,
      Run (World.fresh (({} : Catalog).insertCodec "raw/Count" "Count" (Codec.raw "raw/Count"))
        { drainBudget := 2 } ({} : Recorder)) past world ∧
      (takenOf 0 (courseOf 0 (past.drop 7))).map (·.handle.index) = [0] ∧
      (courseOf 0 (past.drop 7)).filterMap (Moment.ended? 0) = [{ invoked := 1 }] ∧
      (takenOf 1 (courseOf 1 (past.drop 10))).map (·.handle.index) = [1, 0] ∧
      (courseOf 1 (past.drop 10)).filterMap (Moment.ended? 1) =
        [{ invoked := 1, discarded := 1 }] ∧
      WithinBudget { drainBudget := 2 } past world := by
  have computed : ((World.fresh (({} : Catalog).insertCodec "raw/Count" "Count"
      (Codec.raw "raw/Count")) { drainBudget := 2 } ({} : Recorder)).replay nested).map
        (fun replayed => ((takenOf 0 (courseOf 0 (replayed.1.drop 7))).map (·.handle.index),
          (courseOf 0 (replayed.1.drop 7)).filterMap (Moment.ended? 0),
          (takenOf 1 (courseOf 1 (replayed.1.drop 10))).map (·.handle.index),
          (courseOf 1 (replayed.1.drop 10)).filterMap (Moment.ended? 1))) =
      some ([0], [{ invoked := 1 }], [1, 0], [{ invoked := 1, discarded := 1 }]) := by
    decide
  rcases Option.map_eq_some_iff.mp computed with ⟨⟨past, world⟩, replayed, same⟩
  simp only [Prod.mk.injEq] at same
  rcases same with ⟨outer, outerReport, inner, innerReport⟩
  have run := Run.ofReplay replayed
  exact ⟨past, world, run, outer, outerReport, inner, innerReport, drains_withinBudget run⟩

end TopicBridge
