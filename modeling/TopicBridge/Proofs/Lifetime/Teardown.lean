import TopicBridge.Proofs.Binding.Held
import TopicBridge.Proofs.Lifetime.Reissue

/-!
# Taking down the proxies of a script

When a script goes, the bridge destroys the publishers that it advertised and the
subscribers whose callback lives in it, and nothing else changes.  Messages that
are queued for them stay queued, but no callback of the script is called any more
until it subscribes again.  Clearing a bridge does the same to all scripts.
-/

namespace TopicBridge

variable {μ : Type}

/-! ## Dropping live proxies -/

section Dropping

variable [Middleware μ] {bridge : Bridge μ}

/-- Dropping live proxies takes out their entries, gives their handles back, the
last one to the front, and closes what they have open. -/
theorem Bridge.dropAll_eq {handles : List Handle} (distinct : handles.Nodup)
    (live : ∀ handle ∈ handles, (bridge.table.get? handle).isSome = true) :
    bridge.dropAll handles = { bridge with
      table := { bridge.table with
        entries := bridge.table.entries.filter fun entry => entry.1 ∉ handles
        allocator := { bridge.table.allocator with
          free := handles.reverse ++ bridge.table.allocator.free } }
      middleware := (bridge.proxiesUnder handles).foldl close bridge.middleware
      counters := { bridge.counters with
        destroyed := bridge.counters.destroyed + handles.length } } := by
  induction handles generalizing bridge with
  | nil =>
      rw [dropAll_nil, List.filter_eq_self.mpr fun _ _ => by simp]
      rfl
  | cons handle rest ih =>
      obtain ⟨apart, distinct⟩ := List.nodup_cons.mp distinct
      obtain ⟨entry, found⟩ := Option.isSome_iff_exists.mp (live handle List.mem_cons_self)
      have others : ∀ other ∈ rest, ((bridge.drop handle).table.get? other).isSome = true := by
        intro other member
        have different : handle ≠ other := by
          rintro rfl
          exact apart member
        rw [get?_drop, if_neg different]
        exact live other (List.mem_cons_of_mem _ member)
      rw [dropAll_cons, ih distinct others, proxiesUnder_drop bridge apart]
      have dropped : bridge.drop handle = { bridge with
          table := bridge.table.remove handle
          middleware := close bridge.middleware entry.proxy
          counters := { bridge.counters with destroyed := bridge.counters.destroyed + 1 } } := by
        rw [drop, found]
        rfl
      have closes : bridge.proxiesUnder (handle :: rest) =
          entry.proxy :: bridge.proxiesUnder rest := by
        rw [proxiesUnder, List.filterMap_cons, found]
        rfl
      have entries : (Dict.erase bridge.table.entries handle).filter (fun entry => entry.1 ∉ rest) =
          bridge.table.entries.filter fun entry => entry.1 ∉ handle :: rest := by
        rw [Dict.erase, List.filter_filter]
        apply List.filter_congr
        intro entry _
        simp [Bool.and_comm]
      rw [dropped, closes, ← entries]
      simp [Table.remove, Allocator.release, Nat.add_comm, Nat.add_left_comm]

/-- What closing none of some proxies changes, dropping them does not change
either. -/
theorem Bridge.dropAll_keeps {ρ : Type} (record : μ → ρ) {handles : List Handle}
    (keeps : ∀ handle ∈ handles, ∀ entry, bridge.table.get? handle = some entry →
      ∀ layer, record (close layer entry.proxy) = record layer) :
    record (bridge.dropAll handles).middleware = record bridge.middleware := by
  induction handles generalizing bridge with
  | nil => rfl
  | cons handle rest ih =>
      have first : record (bridge.drop handle).middleware = record bridge.middleware := by
        cases found : bridge.table.get? handle with
        | none => rw [drop, found]
        | some entry =>
            rw [middleware_drop found]
            exact keeps handle List.mem_cons_self entry found _
      rw [dropAll_cons, ih, first]
      intro other member entry found
      rw [get?_drop] at found
      split at found
      · cases found
      · exact keeps other (List.mem_cons_of_mem _ member) entry found

end Dropping

/-! ## A teardown -/

/-- What is left when the proxies of some scripts were removed, and what comes of
it. -/
structure Teardown [Middleware μ] (past : List (Moment μ)) (world : World μ)
    (scripts : ScriptId → Bool) (removed : List Handle) (answer : Nat × Bridge μ) : Prop where
  ascending : removed.Pairwise fun handle other => handle.index < other.index
  /-- Those are removed that belong to one of the scripts. -/
  owned : ∀ handle, handle ∈ removed ↔
    ∃ info, ledgerOf past handle = some info ∧ scripts info.owner = true
  count : answer.1 = removed.length
  /-- Every other proxy has what it had. -/
  others : ∀ handle, answer.2.table.get? handle =
    if handle ∈ removed then none else world.bridge.table.get? handle
  /-- All else is as it was, and the last handle of the list is the first one to be
  issued again. -/
  frame : answer.2 = { world.bridge with
    table := { world.bridge.table with
      entries := world.bridge.table.entries.filter fun entry => entry.1 ∉ removed
      allocator := { world.bridge.table.allocator with
        free := removed.reverse ++ world.bridge.table.allocator.free } }
    middleware := (world.bridge.proxiesUnder removed).foldl Bridge.close world.bridge.middleware
    counters := { world.bridge.counters with
      destroyed := world.bridge.counters.destroyed + removed.length } }
  /-- A removed handle is issued again after all higher ones, whatever happens. -/
  reissued : ∀ {later last}, Run ⟨answer.2, world.drains⟩ later last →
    ∀ {position moment handle higher}, later[position]? = some moment →
      moment.issued? = some handle → handle ∈ removed → higher ∈ removed →
      handle.index < higher.index → ∃ earlier ∈ later.take position,
        earlier.issued? = some higher
  /-- A callback of the scripts is called for a subscriber opened since. -/
  silent : ∀ {later last}, Run ⟨answer.2, world.drains⟩ later last →
    ∀ {position moment invocation}, later[position]? = some moment →
      moment.call? = some invocation → scripts invocation.callback.script = true →
      ∃ opening subscriber codec, opening < position ∧
        OpenedAt later opening invocation.handle invocation.generation subscriber codec ∧
        subscriber.callback = invocation.callback

section Runs

variable [Middleware μ] {types : Catalog} {config : BridgeConfig} {middleware : μ}
  {past : List (Moment μ)} {world : World μ}

/-- Whatever operation drops the proxies of some scripts tears them down. -/
theorem Run.teardown (run : Run (World.fresh types config middleware) past world)
    (scripts : ScriptId → Bool) (operation : Operation)
    (drops : world.bridge.perform operation =
      world.bridge.dropAll (world.bridge.table.select fun proxy => scripts proxy.owner)) :
    Teardown past world scripts (world.bridge.table.select fun proxy => scripts proxy.owner)
      ((world.bridge.table.select fun proxy => scripts proxy.owner).length,
        world.bridge.perform operation) := by
  obtain ⟨consistent, mirrors⟩ := run.consistent_mirrors
  have selected := consistent.mem_select_iff fun proxy => scripts proxy.owner
  have ascending := consistent.select_ascending fun proxy => scripts proxy.owner
  generalize world.bridge.table.select (fun proxy => scripts proxy.owner) = removed at *
  have distinct : removed.Nodup := by
    apply ascending.imp
    rintro one other below rfl
    exact Nat.lt_irrefl _ below
  have live : ∀ handle ∈ removed, (world.bridge.table.get? handle).isSome = true := by
    intro handle member
    obtain ⟨entry, found, _⟩ := (selected handle).mp member
    rw [found]
    rfl
  have frame := Bridge.dropAll_eq distinct live
  rw [← drops] at frame
  have others (handle : Handle) : (world.bridge.perform operation).table.get? handle =
      if handle ∈ removed then none else world.bridge.table.get? handle := by
    rw [drops, Bridge.get?_dropAll]
  have torn : (world.bridge.perform operation).table.Consistent :=
    Bridge.consistent_perform consistent operation
  refine ⟨ascending, ?_, rfl, others, frame, ?_, ?_⟩
  · intro handle
    rw [selected, ← mirrors handle]
    cases world.bridge.table.get? handle <;> simp [Proxy.info]
  · intro later last onward position moment handle higher found issues member above below
    -- The list is ascending, so behind the handle stand the higher ones.
    obtain ⟨lower, behind, rfl⟩ := List.append_of_mem member
    have highest : higher ∈ behind := by
      rcases List.mem_append.mp above with low | high
      · have under := (List.pairwise_append.mp ascending).2.2 higher low handle List.mem_cons_self
        exact absurd below (Nat.lt_asymm under)
      · rcases List.mem_cons.mp high with rfl | high
        · exact absurd below (Nat.lt_irrefl _)
        · exact high
    have released : World.free ⟨world.bridge.perform operation, world.drains⟩ =
        behind.reverse ++ handle :: (lower.reverse ++ world.bridge.table.allocator.free) := by
      rw [World.free, frame]
      simp
    exact onward.issued_inOrder torn released found issues
      (List.mem_reverse.mpr highest)
  · intro later last onward position moment invocation found called own
    obtain ⟨earlier, sourced⟩ := (Sourced.ofRun run).perform operation
    obtain ⟨subscriber, carries, before | ⟨opening, codec, earlier, opened⟩⟩ :=
      sourced.called_since onward found called
    · have before : (world.bridge.perform operation).table.get? invocation.handle =
          some ⟨invocation.generation, .subscriber subscriber⟩ := before
      rw [others] at before
      split at before
      · cases before
      · rename_i kept
        rw [← carries] at own
        exact absurd ((selected invocation.handle).mpr ⟨_, before, own⟩) kept
    · exact ⟨opening, subscriber, codec, earlier, opened, carries⟩

end Runs

/-! ## What stays open -/

section Layers

/-- A layer has the same record of what the proxies that are not removed have
open. -/
def Bridge.Spares {κ ρ : Type} (bridge : Bridge μ) (id? : Proxy → Option κ) (record : μ → κ → ρ)
    (after : Bridge μ) (removed : List Handle) : Prop :=
  ∀ handle entry id, bridge.table.get? handle = some entry → handle ∉ removed →
    id? entry.proxy = some id → record after.middleware id = record bridge.middleware id

variable [Middleware μ] {κ ρ : Type} [DecidableEq κ] {id? : Proxy → Option κ}
  {book : μ → Dict κ String} {bridge : Bridge μ}

/-- Dropping proxies spares what all others have open. -/
theorem KeepsBook.spares (keeps : KeepsBook id? book) (consistent : bridge.table.Consistent)
    (booked : bridge.Booked id? book) {record : μ → κ → ρ}
    (others : ∀ layer proxy id, id? proxy ≠ some id →
      record (Bridge.close layer proxy) id = record layer id) (handles : List Handle) :
    bridge.Spares id? record (bridge.dropAll handles) handles := by
  intro handle entry id found kept has
  apply Bridge.dropAll_keeps fun layer => record layer id
  intro other member another found' layer
  refine others layer another.proxy id fun has' => kept ?_
  rw [keeps.apart consistent booked found found' has has']
  exact member

end Layers

/-- Dropping proxies changes nothing that a recorder has recorded for others. -/
structure Recorder.Spares (bridge after : Bridge Recorder) (removed : List Handle) : Prop where
  advertised : after.middleware.advertised = bridge.middleware.advertised
  published : after.middleware.published = bridge.middleware.published
  listeners : bridge.Spares Proxy.subscription?
    (fun recorder id => recorder.listeners[id.number]?) after removed

theorem Recorder.spares {bridge : Bridge Recorder} (consistent : bridge.table.Consistent)
    (booked : bridge.Booked Proxy.subscription? openSubscriptions) (handles : List Handle) :
    Recorder.Spares bridge (bridge.dropAll handles) handles where
  advertised := Bridge.dropAll_keeps Recorder.advertised fun _ _ entry _ layer => by
    rw [layer.close_frame entry.proxy]
  published := Bridge.dropAll_keeps Recorder.published fun _ _ entry _ layer => by
    rw [layer.close_frame entry.proxy]
  listeners := by
    refine keepsBook.spares consistent booked (fun layer proxy id other => ?_) handles
    cases proxy with
    | publisher publisher => rfl
    | subscriber subscriber =>
        have different : subscriber.subscription ≠ id := fun same => other (congrArg some same)
        exact List.getElem?_modify_ne _ _ (SubscriptionId.number_ne different)

namespace Bus

theorem publications_withdraw (bus : Bus) {id other : PublicationId} (different : id ≠ other) :
    (bus.withdraw id).publications[other.number]? = bus.publications[other.number]? := by
  rcases open_or_closed bus.publications (·.isOpen) id.number with ⟨_, found, isOpen⟩ | closed
  · rw [withdraw_of_open found isOpen]
    exact List.getElem?_modify_ne _ _ (PublicationId.number_ne different)
  · rw [withdraw_of_closed closed]

theorem subscriptions_cancel (bus : Bus) {id other : SubscriptionId} (different : id ≠ other) :
    (bus.cancel id).subscriptions[other.number]? = bus.subscriptions[other.number]? := by
  rcases open_or_closed bus.subscriptions (·.isOpen) id.number with ⟨_, found, isOpen⟩ | closed
  · rw [cancel_of_open found isOpen]
    exact List.getElem?_modify_ne _ _ (SubscriptionId.number_ne different)
  · rw [cancel_of_closed closed]

theorem waiting_congr {bus after : Bus} {id : SubscriptionId}
    (channels : after.channels = bus.channels)
    (same : after.subscriptions[id.number]? = bus.subscriptions[id.number]?) :
    after.waiting id = bus.waiting id := by
  rw [waiting, waiting, same]
  cases bus.subscriptions[id.number]? with
  | none => rfl
  | some subscription => simp [outstanding, ready, channel, channels]

/-- Dropping proxies changes neither what others have open on a bus nor what
waits there for them. -/
structure Spares (bridge after : Bridge Bus) (removed : List Handle) : Prop where
  publications : bridge.Spares Proxy.publication? (fun bus id => bus.publications[id.number]?)
    after removed
  subscriptions : bridge.Spares Proxy.subscription?
    (fun bus id => (bus.subscriptions[id.number]?, bus.waiting id)) after removed

theorem spares {bridge : Bridge Bus} (consistent : bridge.table.Consistent)
    (published : bridge.Booked Proxy.publication? openPublications)
    (subscribed : bridge.Booked Proxy.subscription? openSubscriptions) (handles : List Handle) :
    Spares bridge (bridge.dropAll handles) handles where
  publications := by
    refine keepsPublications.spares consistent published (fun layer proxy id other => ?_) handles
    cases proxy with
    | publisher publisher =>
        exact layer.publications_withdraw fun same => other (congrArg some same)
    | subscriber subscriber =>
        change (layer.cancel subscriber.subscription).publications[id.number]? = _
        rw [cancel_frame]
  subscriptions := by
    refine keepsSubscriptions.spares consistent subscribed (fun layer proxy id other => ?_) handles
    cases proxy with
    | publisher publisher =>
        change ((layer.withdraw publisher.publication).subscriptions[id.number]?,
          (layer.withdraw publisher.publication).waiting id) = _
        rw [withdraw_frame]
        rfl
    | subscriber subscriber =>
        have different : subscriber.subscription ≠ id := fun same => other (congrArg some same)
        have channels : (layer.cancel subscriber.subscription).channels = layer.channels := by
          rw [cancel_frame]
        have same := layer.subscriptions_cancel different
        exact Prod.ext same (waiting_congr channels same)

end Bus

/-! ## Every run -/

/-- Every teardown is exact: that of one script, and that of all of them. -/
structure TearsDown [Middleware μ] (past : List (Moment μ)) (world : World μ) : Prop where
  one : ∀ script, Teardown past world (fun owner => owner = script)
    (world.bridge.removes (.destroyOwnedBy script)) (world.bridge.destroyOwnedBy script)
  all : Teardown past world (fun _ => true) (world.bridge.removes .clear) world.bridge.clear

/-- At every moment of every run of a bridge, tearing down a script removes exactly
the proxies that belong to it and silences its callbacks until it subscribes
again, and clearing the bridge does so for all scripts.  Over a layer that nobody
else uses, what the other proxies have open stays as it is. -/
theorem teardown_exact (types : Catalog) (config : BridgeConfig) :
    (∀ {μ : Type} [Middleware μ] {middleware : μ} {past : List (Moment μ)} {world : World μ},
      Run (World.fresh types config middleware) past world → TearsDown past world) ∧
    (∀ {past : List (Moment Recorder)} {world : World Recorder},
      Run (World.fresh types config ({} : Recorder)) past world →
      OnlyUser Recorder.MovesOn past → ∀ script, Recorder.Spares world.bridge
        (world.bridge.destroyOwnedBy script).2 (world.bridge.removes (.destroyOwnedBy script))) ∧
    (∀ {options : BusConfig} {past : List (Moment Bus)} {world : World Bus},
      Run (World.fresh types config ({ config := options } : Bus)) past world →
      OnlyUser Bus.MovesOn past → ∀ script, Bus.Spares world.bridge
        (world.bridge.destroyOwnedBy script).2 (world.bridge.removes (.destroyOwnedBy script))) ∧
    ∀ {μ κ ρ : Type} [SteeredMiddleware μ κ ρ] (react : Session.Reaction μ κ ρ)
      (session : Session μ κ ρ),
      (∀ script, (Session.onEvent react session (.scriptDestroyed script)).2 =
        ((session.1.destroyOwnedBy script).2, session.2)) ∧
      (Session.onEvent react session .ended).2 = (session.1.clear.2, session.2) := by
  refine ⟨fun run => ⟨fun script => ?_, ?_⟩, fun run alone script => ?_,
    fun {options past world} run alone script => ?_, fun react session => ⟨fun script => rfl, rfl⟩⟩
  · exact run.teardown (fun owner => owner = script) (.destroyOwnedBy script) rfl
  · have all := run.teardown (fun _ => true) .clear (by rw [Table.select_true]; rfl)
    rw [Table.select_true] at all
    exact all
  · exact Recorder.spares run.consistent_mirrors.1 (Recorder.booked run alone) _
  · obtain ⟨published, subscribed⟩ := run.bus_booked alone
    exact Bus.spares run.consistent_mirrors.1 published subscribed _

/-- Two scripts have a subscriber and a publisher each, messages are queued for
both, and a callback of the first script is running. -/
def mixed (μ : Type) : List (Event μ) :=
  let subscribe (script : ScriptId) : Event μ :=
    .operation (.createSubscriber (fun _ => true) "/count" "Count" ⟨script, "onCount"⟩ {})
  let advertise (script : ScriptId) : Event μ :=
    .operation (.createPublisher script "/count" "Count" {})
  [subscribe ⟨1⟩, advertise ⟨1⟩, subscribe ⟨2⟩, advertise ⟨2⟩, .deliver ⟨0⟩ [7], .deliver ⟨1⟩ [7],
    .deliver ⟨0⟩ [8], .beginDrain, .take]

/-- What the first script owns is listed in order. -/
theorem sortHandles_mixed : Table.sortHandles [⟨0⟩, ⟨1⟩] = [⟨0⟩, ⟨1⟩] :=
  List.mergeSort_of_pairwise (by decide)

/-- The callback takes down its own script. -/
theorem teardown_exact_mixed :
    (∃ past world, Run (World.fresh countsAndWords {} ({} : Recorder)) past world ∧
      world.isFree = true ∧ world.bridge.removes (.destroyOwnedBy ⟨1⟩) = [⟨0⟩, ⟨1⟩] ∧
      world.bridge.pending.size = 2 ∧ TearsDown past world ∧
      Recorder.Spares world.bridge (world.bridge.destroyOwnedBy ⟨1⟩).2 [⟨0⟩, ⟨1⟩]) ∧
    ∃ past world, Run (World.fresh countsAndWords {} ({} : Bus)) past world ∧
      world.bridge.removes (.destroyOwnedBy ⟨1⟩) = [⟨0⟩, ⟨1⟩] ∧
      Bus.Spares world.bridge (world.bridge.destroyOwnedBy ⟨1⟩).2 [⟨0⟩, ⟨1⟩] := by
  constructor
  · have computed : ((World.fresh countsAndWords {} ({} : Recorder)).replay (mixed Recorder)).map
        (fun replayed => (replayed.2.isFree,
          Dict.keys (replayed.2.bridge.table.entries.filter fun entry => entry.2.proxy.owner = ⟨1⟩),
          replayed.2.bridge.pending.size, replayed.1.all (Moment.passes fun _ _ => false))) =
          some (true, [⟨0⟩, ⟨1⟩], 2, true) := by
      decide +kernel
    obtain ⟨⟨past, world⟩, replayed, same⟩ := Option.map_eq_some_iff.mp computed
    simp only [Prod.mk.injEq] at same
    obtain ⟨free, owned, queued, all⟩ := same
    have removed : world.bridge.removes (.destroyOwnedBy ⟨1⟩) = [⟨0⟩, ⟨1⟩] := by
      rw [← sortHandles_mixed, ← owned]
      rfl
    have alone : OnlyUser Recorder.MovesOn past := OnlyUser.of_still all
    have run := Run.ofReplay replayed
    have spares := (teardown_exact countsAndWords {}).2.1 run alone ⟨1⟩
    rw [removed] at spares
    exact ⟨past, world, run, free, removed, queued, (teardown_exact _ _).1 run, spares⟩
  · have computed : ((World.fresh countsAndWords {} ({} : Bus)).replay (mixed Bus)).map
        (fun replayed => (Dict.keys (replayed.2.bridge.table.entries.filter
          fun entry => entry.2.proxy.owner = ⟨1⟩),
          replayed.1.all (Moment.passes fun _ _ => false))) = some ([⟨0⟩, ⟨1⟩], true) := by
      decide +kernel
    obtain ⟨⟨past, world⟩, replayed, same⟩ := Option.map_eq_some_iff.mp computed
    obtain ⟨owned, all⟩ := Prod.mk.inj same
    have removed : world.bridge.removes (.destroyOwnedBy ⟨1⟩) = [⟨0⟩, ⟨1⟩] := by
      rw [← sortHandles_mixed, ← owned]
      rfl
    have alone : OnlyUser Bus.MovesOn past := OnlyUser.of_still all
    have run := Run.ofReplay replayed
    have spares := (teardown_exact countsAndWords {}).2.2.1 run alone ⟨1⟩
    rw [removed] at spares
    exact ⟨past, world, run, removed, spares⟩

end TopicBridge
