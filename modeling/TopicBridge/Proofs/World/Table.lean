import TopicBridge.Proofs.World.Effect

/-!
# Handles out and handles live

The allocator knows which handles are out, and the table knows which proxies are
live.  In every state that a bridge can get into the two agree: a creation takes
a handle out and enters a proxy under it, a removal does the reverse, and a
creation that the messaging layer refuses gives its handle back.  So a handle is
never given back that is not out, and no proxy is entered under a handle that
has one.
-/

namespace TopicBridge

namespace Allocator

/-- The handle was handed out and not taken back since. -/
def IsOut (allocator : Allocator) (handle : Handle) : Prop :=
  handle.index < allocator.next ∧ handle ∉ allocator.free

/-- The released handles are different ones, and all were handed out. -/
structure Consistent (allocator : Allocator) : Prop where
  nodup : allocator.free.Nodup
  issued : ∀ handle ∈ allocator.free, handle.index < allocator.next

variable {allocator rest : Allocator} {handle : Handle}

theorem Consistent.empty : Allocator.empty.Consistent where
  nodup := List.nodup_nil
  issued := fun _ member => nomatch member

/-- A handle comes from the front of the free ones, or is the next new one. -/
theorem allocate?_eq_some_iff :
    allocator.allocate? = some (handle, rest) ↔
      (∃ free, allocator.free = handle :: free ∧ rest = { allocator with free }) ∨
        allocator.free = [] ∧ allocator.next ≤ allocator.limit ∧ handle = ⟨allocator.next⟩ ∧
          rest = { allocator with next := allocator.next + 1 } := by
  obtain ⟨next, free, limit⟩ := allocator
  constructor
  · intro allocated
    unfold allocate? at allocated
    cases free with
    | cons front free =>
        cases allocated
        exact Or.inl ⟨free, rfl, rfl⟩
    | nil =>
        dsimp only at allocated
        split at allocated
        · rename_i room
          cases allocated
          exact Or.inr ⟨rfl, room, rfl, rfl⟩
        · cases allocated
  · rintro (⟨free, rfl, rfl⟩ | ⟨rfl, room, rfl, rfl⟩)
    · rfl
    · exact if_pos room

/-- A handle that is handed out was not out before, and is then. -/
theorem Consistent.allocate (consistent : allocator.Consistent)
    (allocated : allocator.allocate? = some (handle, rest)) :
    rest.Consistent ∧ ¬ allocator.IsOut handle ∧
      ∀ other, rest.IsOut other ↔ other = handle ∨ allocator.IsOut other := by
  rcases allocate?_eq_some_iff.mp allocated with ⟨free, front, rfl⟩ | ⟨none, _, rfl, rfl⟩
  · obtain ⟨nodup, issued⟩ := consistent
    simp only [front, List.nodup_cons, List.forall_mem_cons] at nodup issued
    refine ⟨⟨nodup.2, issued.2⟩, ?_, ?_⟩
    · rintro ⟨_, kept⟩
      rw [front] at kept
      exact kept List.mem_cons_self
    · intro other
      by_cases same : other = handle
      · subst same
        simp [IsOut, nodup.1, issued.1]
      · simp [IsOut, front, same]
  · refine ⟨⟨consistent.nodup, ?_⟩, ?_, ?_⟩
    · intro other member
      exact Nat.lt_succ_of_lt (consistent.issued other member)
    · rintro ⟨below, _⟩
      exact Nat.lt_irrefl _ below
    · rintro ⟨index⟩
      simp only [IsOut, none, List.not_mem_nil, not_false_eq_true, and_true, Handle.mk.injEq]
      omega

/-- A handle that is out can be taken back. -/
theorem Consistent.release (consistent : allocator.Consistent) (out : allocator.IsOut handle) :
    (allocator.release handle).Consistent ∧
      ∀ other, (allocator.release handle).IsOut other ↔ other ≠ handle ∧ allocator.IsOut other := by
  refine ⟨⟨List.nodup_cons.mpr ⟨out.2, consistent.nodup⟩, ?_⟩, ?_⟩
  · intro other member
    rcases List.mem_cons.mp member with rfl | earlier
    · exact out.1
    · exact consistent.issued other earlier
  · intro other
    simp only [IsOut, Allocator.release, List.mem_cons, not_or]
    constructor
    · rintro ⟨below, other, kept⟩
      exact ⟨other, below, kept⟩
    · rintro ⟨other, below, kept⟩
      exact ⟨below, other, kept⟩

end Allocator

namespace Table

/-- The allocator, the entries and the generations of a table fit together. -/
structure Consistent (table : Table) : Prop where
  allocator : table.allocator.Consistent
  keys : (Dict.keys table.entries).Nodup
  /-- The handles that are out are those of the live proxies. -/
  out : ∀ handle, table.allocator.IsOut handle ↔ (table.get? handle).isSome = true
  drawn : ∀ {handle entry}, table.get? handle = some entry → entry.generation < table.nextGeneration
  /-- No two live proxies have one generation. -/
  apart : ∀ {handle other entry another}, table.get? handle = some entry →
    table.get? other = some another → entry.generation = another.generation → handle = other

variable {table : Table} {handle : Handle} {allocator : Allocator}

theorem Consistent.empty : ({} : Table).Consistent where
  allocator := Allocator.Consistent.empty
  keys := List.nodup_nil
  out := fun handle => by simp [Allocator.IsOut, Allocator.empty, Allocator.withLimit, get?]
  drawn := fun found => nomatch found
  apart := fun found => nomatch found

/-- A handle that can be drawn has no live proxy. -/
theorem Consistent.get?_eq_none (consistent : table.Consistent)
    (allocated : table.allocator.allocate? = some (handle, allocator)) :
    table.get? handle = none := by
  obtain ⟨_, absent, _⟩ := consistent.allocator.allocate allocated
  rw [consistent.out] at absent
  simpa using absent

/-- Drawing a handle and giving it back uses up a generation. -/
theorem Consistent.refuse (consistent : table.Consistent)
    (allocated : table.allocator.allocate? = some (handle, allocator)) :
    Consistent { table with
      allocator := allocator.release handle
      nextGeneration := table.nextGeneration + 1 } := by
  obtain ⟨afterwards, absent, out⟩ := consistent.allocator.allocate allocated
  obtain ⟨released, back⟩ := afterwards.release ((out handle).mpr (Or.inl rfl))
  refine ⟨released, consistent.keys, ?_, ?_, consistent.apart⟩
  · intro other
    rw [back, out]
    constructor
    · rintro ⟨different, same | before⟩
      · exact absurd same different
      · exact (consistent.out other).mp before
    · intro live
      have before := (consistent.out other).mpr live
      refine ⟨?_, Or.inr before⟩
      rintro rfl
      exact absent before
  · intro other entry found
    exact Nat.lt_succ_of_lt (consistent.drawn found)

/-- Drawing a handle and entering a proxy under it uses up a generation. -/
theorem Consistent.enter (consistent : table.Consistent)
    (allocated : table.allocator.allocate? = some (handle, allocator)) (proxy : Proxy) :
    Consistent {
      entries := Dict.insert table.entries handle ⟨table.nextGeneration, proxy⟩
      allocator
      nextGeneration := table.nextGeneration + 1 } := by
  obtain ⟨afterwards, _, out⟩ := consistent.allocator.allocate allocated
  have absent := consistent.get?_eq_none allocated
  have lookup (other : Handle) : Table.get?
      ⟨Dict.insert table.entries handle ⟨table.nextGeneration, proxy⟩, allocator,
        table.nextGeneration + 1⟩ other =
        if handle = other then some ⟨table.nextGeneration, proxy⟩ else table.get? other :=
    Dict.get?_insert _ _ _ _
  refine ⟨afterwards, ?_, ?_, ?_, ?_⟩
  · have fresh : handle ∉ Dict.keys table.entries := by
      rw [Dict.mem_keys_iff]
      simpa [Table.get?] using absent
    rw [Dict.insert_of_get?_eq_none _ absent, Dict.keys, List.map_append]
    rw [List.nodup_append]
    refine ⟨consistent.keys, by simp, ?_⟩
    rintro one member other single rfl
    rw [List.map_singleton, List.mem_singleton] at single
    subst single
    exact fresh member
  · intro other
    rw [out, lookup]
    by_cases same : handle = other
    · simp [same]
    · simp [same, Ne.symm same, consistent.out]
  · intro other entry found
    rw [lookup] at found
    split at found
    · cases found
      exact Nat.lt_succ_self _
    · exact Nat.lt_succ_of_lt (consistent.drawn found)
  · intro one other entry another found found' same
    rw [lookup] at found found'
    split at found
    · rename_i isOne
      split at found'
      · rename_i isOther
        exact isOne.symm.trans isOther
      · cases found
        exact absurd same (Nat.ne_of_gt (consistent.drawn found'))
    · split at found'
      · cases found'
        exact absurd same (Nat.ne_of_lt (consistent.drawn found))
      · exact consistent.apart found found' same

/-- Taking a live proxy out gives its handle back. -/
theorem Consistent.remove (consistent : table.Consistent) {entry : Entry}
    (live : table.get? handle = some entry) : (table.remove handle).Consistent := by
  have out : table.allocator.IsOut handle := (consistent.out handle).mpr (by simp [live])
  obtain ⟨released, back⟩ := consistent.allocator.release out
  refine ⟨released, ?_, ?_, ?_, ?_⟩
  · change (Dict.keys (Dict.erase table.entries handle)).Nodup
    rw [Dict.keys_erase]
    exact consistent.keys.filter _
  · intro other
    change (table.allocator.release handle).IsOut other ↔ _
    rw [back, get?_remove, consistent.out]
    by_cases same : handle = other
    · simp [same]
    · simp [same, Ne.symm same]
  · intro other entry found
    rw [get?_remove] at found
    split at found
    · cases found
    · exact consistent.drawn found
  · intro one other entry another found found' same
    rw [get?_remove] at found found'
    split at found
    · cases found
    · split at found'
      · cases found'
      · exact consistent.apart found found' same

/-! ## Listing handles -/

theorem mem_handles_iff (table : Table) (handle : Handle) :
    handle ∈ table.handles ↔ (table.get? handle).isSome = true := by
  rw [handles, sortHandles, List.mem_mergeSort, Dict.mem_keys_iff]
  rfl

/-- Different handles are sorted in strictly ascending order. -/
theorem sortHandles_ascending {handles : List Handle} (distinct : handles.Nodup) :
    (sortHandles handles).Pairwise fun handle other => handle.index < other.index := by
  have sorted : (sortHandles handles).Pairwise fun handle other => handle.index ≤ other.index := by
    have ordered : (sortHandles handles).Pairwise fun handle other =>
        decide (handle.index ≤ other.index) = true := by
      apply List.pairwise_mergeSort
      · intro a b c
        simpa using Nat.le_trans
      · intro a b
        simpa using Nat.le_total a.index b.index
    simpa using ordered
  have different : (sortHandles handles).Nodup :=
    (List.mergeSort_perm handles _).nodup_iff.mpr distinct
  apply (sorted.and different).imp
  rintro ⟨a⟩ ⟨b⟩ ⟨below, apart⟩
  exact Nat.lt_of_le_of_ne below fun same => apart (congrArg Handle.mk same)

/-- The handles are listed in ascending order, each once. -/
theorem Consistent.handles_ascending (consistent : table.Consistent) :
    table.handles.Pairwise fun handle other => handle.index < other.index :=
  sortHandles_ascending consistent.keys

/-- So are those that are selected. -/
theorem Consistent.select_ascending (consistent : table.Consistent) (condition : Proxy → Bool) :
    (table.select condition).Pairwise fun handle other => handle.index < other.index :=
  sortHandles_ascending (consistent.keys.sublist (List.filter_sublist.map Prod.fst))

theorem select_true (table : Table) : table.select (fun _ => true) = table.handles := by
  rw [select, handles, List.filter_eq_self.mpr fun _ _ => rfl]

/-- The selected handles are those of the live proxies that satisfy the
condition. -/
theorem Consistent.mem_select_iff (consistent : table.Consistent) (condition : Proxy → Bool)
    (handle : Handle) :
    handle ∈ table.select condition ↔
      ∃ entry, table.get? handle = some entry ∧ condition entry.proxy = true := by
  rw [select, sortHandles, List.mem_mergeSort, Dict.keys, List.mem_map]
  constructor
  · rintro ⟨⟨_, entry⟩, member, rfl⟩
    obtain ⟨member, holds⟩ := List.mem_filter.mp member
    exact ⟨entry, Dict.get?_of_mem consistent.keys member, holds⟩
  · rintro ⟨entry, found, holds⟩
    exact ⟨(handle, entry), List.mem_filter.mpr ⟨Dict.mem_of_get? found, holds⟩, rfl⟩

/-- Every live proxy is of one of the two kinds. -/
theorem size_eq_count (table : Table) :
    table.size = table.count .publisher + table.count .subscriber := by
  rw [size, count, count]
  induction table.entries with
  | nil => rfl
  | cons entry rest ih =>
      rw [List.countP_cons, List.countP_cons, List.length_cons, ih]
      cases entry.2.proxy with
      | publisher publisher =>
          simp only [Proxy.kind, decide_true, if_true, reduceCtorEq, decide_false, if_false,
            Bool.false_eq_true]
          omega
      | subscriber subscriber =>
          simp only [Proxy.kind, decide_true, if_true, reduceCtorEq, decide_false, if_false,
            Bool.false_eq_true]
          omega

end Table

/-! ## Bridges -/

namespace Bridge

variable {μ : Type} [Middleware μ] {bridge : Bridge μ}

theorem consistent_drop (consistent : bridge.table.Consistent) (handle : Handle) :
    (bridge.drop handle).table.Consistent := by
  unfold drop
  cases live : bridge.table.get? handle with
  | none => exact consistent
  | some entry => exact consistent.remove live

/-- No proxy is live once every one of them was dropped. -/
theorem get?_dropAll_handles (bridge : Bridge μ) (handle : Handle) :
    (bridge.dropAll bridge.handles).table.get? handle = none := by
  rw [get?_dropAll]
  split
  · rfl
  · rename_i absent
    rw [handles, Table.mem_handles_iff] at absent
    simpa using absent

theorem consistent_dropAll (consistent : bridge.table.Consistent) (handles : List Handle) :
    (bridge.dropAll handles).table.Consistent :=
  dropAll_induction (·.table.Consistent) (fun handle before => consistent_drop before handle)
    consistent handles

/-- Every operation keeps the table consistent, also one that fails. -/
theorem consistent_perform (consistent : bridge.table.Consistent) (operation : Operation) :
    (bridge.perform operation).table.Consistent := by
  have effect := bridge.performs operation
  generalize bridge.perform operation = after at effect ⊢
  cases effect with
  | refused keeps refuses =>
      rcases refuses with rfl | ⟨handle, allocator, allocated, rfl⟩
      · exact consistent
      · exact consistent.refuse allocated
  | openedPublisher known allocated advertised answer => exact consistent.enter allocated _
  | openedSubscriber known allocated subscribed answer => exact consistent.enter allocated _
  | dropped keeps handles => exact consistent_dropAll consistent handles
  | flushed flushes handles isLoaded => exact consistent_dropAll consistent handles
  | published keeps publishes =>
      obtain ⟨_, _, rfl⟩ := publishes
      exact consistent

end Bridge

end TopicBridge
