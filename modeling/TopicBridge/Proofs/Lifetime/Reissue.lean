import TopicBridge.Proofs.Lifetime.Removal

/-!
# The order in which handles come back

The allocator hands out the front of its free handles, and a handle that is given
back goes to the front.  So of the handles that are free at some moment of a run,
one comes back only after all those before it have come back, whatever is created
and removed in between.
-/

namespace TopicBridge

variable {μ : Type} [Middleware μ]

/-- The handle that the event issues. -/
def Moment.issued? (moment : Moment μ) : Option Handle :=
  match moment.event with
  | .operation operation =>
      match moment.world.bridge.outcome operation with
      | .ok handle? => handle?
      | .error _ => none
  | _ => none

theorem Moment.issued?_eq_some_iff {moment : Moment μ} {handle : Handle} :
    moment.issued? = some handle ↔ ∃ operation, moment.event = .operation operation ∧
      moment.world.bridge.outcome operation = .ok (some handle) := by
  obtain ⟨world, event⟩ := moment
  cases event with
  | operation operation =>
      simp only [issued?]
      cases answer : world.bridge.outcome operation with
      | ok handle? => simp [answer]
      | error e => simp [answer]
  | _ => simp [issued?]

namespace Allocator

/-- A handle comes from the front of the free ones, or is a new one if none is
free. -/
theorem free_of_allocate? {allocator rest : Allocator} {handle : Handle}
    (allocated : allocator.allocate? = some (handle, rest)) :
    allocator.free = handle :: rest.free ∨ allocator.free = [] ∧ rest.free = [] := by
  rcases allocate?_eq_some_iff.mp allocated with ⟨free, front, rfl⟩ | ⟨none, _, _, rfl⟩
  · exact Or.inl front
  · exact Or.inr ⟨none, none⟩

end Allocator

namespace Bridge

variable {bridge : Bridge μ}

/-- Dropping proxies only gives handles back. -/
theorem free_dropAll (bridge : Bridge μ) (handles : List Handle) :
    ∃ released, (bridge.dropAll handles).table.allocator.free =
      released ++ bridge.table.allocator.free := by
  induction handles generalizing bridge with
  | nil => exact ⟨[], rfl⟩
  | cons handle rest ih =>
      obtain ⟨released, dropped⟩ := ih (bridge.drop handle)
      rw [dropAll_cons, dropped]
      unfold drop
      cases bridge.table.get? handle with
      | none => exact ⟨released, rfl⟩
      | some entry => exact ⟨released ++ [handle], List.append_cons _ _ _⟩

/-- An operation gives handles back at the front, or issues the front one. -/
theorem free_perform (bridge : Bridge μ) (operation : Operation) :
    (∃ released, (bridge.perform operation).table.allocator.free =
      released ++ bridge.table.allocator.free) ∨
    ∃ handle, bridge.outcome operation = .ok (some handle) ∧
      bridge.table.allocator.free =
        handle :: (bridge.perform operation).table.allocator.free := by
  have issued {handle : Handle} {allocator : Allocator} {after : Bridge μ}
      (allocated : bridge.table.allocator.allocate? = some (handle, allocator))
      (same : after.table.allocator = allocator)
      (answer : bridge.outcome operation = .ok (some handle)) :
      (∃ released, after.table.allocator.free = released ++ bridge.table.allocator.free) ∨
      ∃ handle, bridge.outcome operation = .ok (some handle) ∧
        bridge.table.allocator.free = handle :: after.table.allocator.free := by
    rw [same]
    rcases Allocator.free_of_allocate? allocated with front | ⟨before, none⟩
    · exact Or.inr ⟨handle, answer, front⟩
    · exact Or.inl ⟨[], by rw [before, none, List.append_nil]⟩
  have effect := bridge.performs operation
  generalize bridge.perform operation = after at effect ⊢
  cases effect with
  | refused keeps refuses =>
      rcases refuses with rfl | ⟨handle, allocator, allocated, rfl⟩
      · exact Or.inl ⟨[], rfl⟩
      · rcases Allocator.free_of_allocate? allocated with front | ⟨before, none⟩
        · exact Or.inl ⟨[], front.symm⟩
        · exact Or.inl ⟨[handle], by rw [before]; exact congrArg (List.cons handle) none⟩
  | openedPublisher known allocated advertised answer =>
      exact issued allocated rfl (by simp [outcome, answer, Except.map])
  | openedSubscriber known allocated subscribed answer =>
      exact issued allocated rfl (by simp [outcome, answer, Except.map])
  | dropped keeps handles => exact Or.inl (bridge.free_dropAll handles)
  | flushed flushes handles isLoaded => exact Or.inl (bridge.free_dropAll handles)
  | published keeps publishes =>
      obtain ⟨_, _, rfl⟩ := publishes
      exact Or.inl ⟨[], rfl⟩

end Bridge

/-! ## Runs -/

section Runs

variable {start world after last : World μ} {event : Event μ} {past later : List (Moment μ)}

/-- The free handles of a world. -/
def World.free (world : World μ) : List Handle :=
  world.bridge.table.allocator.free

/-- An event gives handles back at the front, or issues the front one. -/
theorem World.free_step (stepped : world.step event = some after) :
    (∃ released, after.free = released ++ world.free) ∨
      ∃ handle, (Moment.mk world event).issued? = some handle ∧
        world.free = handle :: after.free := by
  rcases World.step_table stepped with ⟨operation, rfl, same⟩ | ⟨_, table, _⟩
  · rw [free, free, same]
    rcases world.bridge.free_perform operation with released | ⟨handle, answer, front⟩
    · exact Or.inl released
    · exact Or.inr ⟨handle, Moment.issued?_eq_some_iff.mpr ⟨operation, rfl, answer⟩, front⟩
  · exact Or.inl ⟨[], by rw [free, free, table, List.nil_append]⟩

/-- Handles that were free at the start of a run leave from the front: those that
are not free any more behind some others have all been issued. -/
theorem Run.free_parted (run : Run start later world) :
    ∃ issued waiting front, start.free = issued ++ waiting ∧ world.free = front ++ waiting ∧
      ∀ handle ∈ issued, ∃ moment ∈ later, moment.issued? = some handle := by
  induction run with
  | start => exact ⟨[], start.free, [], rfl, rfl, fun _ member => nomatch member⟩
  | @next later world after event _ stepped ih =>
      obtain ⟨issued, waiting, front, first, now, all⟩ := ih
      have all : ∀ handle ∈ issued,
          ∃ moment ∈ later ++ [⟨world, event⟩], moment.issued? = some handle := by
        intro handle member
        obtain ⟨moment, earlier, same⟩ := all handle member
        exact ⟨moment, List.mem_append_left _ earlier, same⟩
      rcases World.free_step stepped with ⟨released, freed⟩ | ⟨handle, issues, freed⟩
      · exact ⟨issued, waiting, released ++ front, first,
          by rw [freed, now, List.append_assoc], all⟩
      · rw [now] at freed
        cases front with
        | cons other front =>
            obtain ⟨_, freed⟩ := List.cons.inj freed
            exact ⟨issued, waiting, front, first, freed.symm, all⟩
        | nil =>
            -- What waited longest leaves the handles that wait.
            rw [List.nil_append] at freed
            refine ⟨issued ++ [handle], after.free, [], ?_, rfl, ?_⟩
            · rw [first, freed, List.append_assoc, List.singleton_append]
            · intro other member
              rcases List.mem_append.mp member with earlier | last
              · exact all other earlier
              · rw [List.mem_singleton] at last
                subst last
                exact ⟨_, List.mem_append_right _ List.mem_cons_self, issues⟩

theorem Run.consistent (consistent : start.bridge.table.Consistent)
    (run : Run start later world) : world.bridge.table.Consistent := by
  induction run with
  | start => exact consistent
  | next _ stepped ih => exact World.consistent_step ih stepped

/-- Only the front one of the free handles can be issued. -/
theorem World.front_of_issued (consistent : world.bridge.table.Consistent)
    {moment : Moment μ} (here : moment.world = world) {handle : Handle}
    (issues : moment.issued? = some handle) {front behind : List Handle}
    (free : world.free = front ++ handle :: behind) : front = [] := by
  subst here
  obtain ⟨operation, _, answer⟩ := Moment.issued?_eq_some_iff.mp issues
  obtain ⟨allocator, allocated⟩ := Bridge.allocate?_of_outcome answer
  have distinct : moment.world.free.Nodup := consistent.allocator.nodup
  rcases Allocator.free_of_allocate? allocated with first | ⟨none, _⟩
  · have first : moment.world.free = handle :: allocator.free := first
    rw [free] at first distinct
    cases front with
    | nil => rfl
    | cons other front =>
        obtain ⟨rfl, _⟩ := List.cons.inj first
        have again : other ∈ front ++ other :: behind :=
          List.mem_append_right _ List.mem_cons_self
        exact absurd again (List.nodup_cons.mp distinct).1
  · have none : moment.world.free = [] := none
    rw [none] at free
    cases front <;> cases free

/-- A handle that is free at the start of a run is issued only after all those
before it. -/
theorem Run.issued_inOrder (consistent : start.bridge.table.Consistent)
    (run : Run start later last) {front behind : List Handle} {handle : Handle}
    (free : start.free = front ++ handle :: behind) {position : Nat} {moment : Moment μ}
    (found : later[position]? = some moment) (issues : moment.issued? = some handle)
    {other : Handle} (member : other ∈ front) :
    ∃ earlier ∈ later.take position, earlier.issued? = some other := by
  have until_issue := run.before found
  obtain ⟨issued, waiting, top, first, now, all⟩ := until_issue.free_parted
  refine all other ?_
  rcases List.append_eq_append_iff.mp (first.symm.trans free) with
    ⟨between, fronts, waits⟩ | ⟨more, all_issued, _⟩
  · -- What still waits before the handle is nothing, because the handle is at the front.
    rw [waits, ← List.append_assoc] at now
    have none := World.front_of_issued (until_issue.consistent consistent) rfl issues now
    rw [fronts, (List.append_eq_nil_iff.mp none).2, List.append_nil] at member
    exact member
  · rw [all_issued]
    exact List.mem_append_left _ member

end Runs

end TopicBridge
