import Mathlib.Data.Finset.Card
import Mathlib.Data.List.Basic
import TopicBridge.Proofs.World.Table

/-!
# Histories of an allocator

Handles are asked for and given back, each of them only while it is out.  The history
of such requests tells all that can be seen of the allocator: a handle that is handed
out is never one that is out, it is the one that came back last and was not handed out
again, or else the least number that was never handed out, and there is none exactly if
every number up to the limit is out.

The free handles are a stack in the history.  What stands below a handle that came back
is what was free at that time, since all that came back later was handed out again.
-/

namespace TopicBridge.Allocator

/-- What is asked of an allocator. -/
inductive Request where
  | allocate
  | release (handle : Handle)

/-- What came of a request. -/
inductive Turn where
  | issued (handle : Handle)
  | refused
  | released (handle : Handle)
  deriving DecidableEq

/-- Serve a request. -/
def serve (allocator : Allocator) : Request → Turn × Allocator
  | .allocate =>
      match allocator.allocate? with
      | some (handle, rest) => (.issued handle, rest)
      | none => (.refused, allocator)
  | .release handle => (.released handle, allocator.release handle)

/-! ## Histories -/

/-- The handle was issued and not released since. -/
def OutAfter (past : List Turn) (handle : Handle) : Prop :=
  ∃ before after, past = before ++ .issued handle :: after ∧ .released handle ∉ after

/-- Every handle that was released was issued again. -/
def Settled (turns : List Turn) : Prop :=
  ∀ before handle after, turns = before ++ .released handle :: after → .issued handle ∈ after

/-- Of the handles that were released and not issued again, this one was released
last. -/
def LastReleased (past : List Turn) (handle : Handle) : Prop :=
  ∃ before after, past = before ++ .released handle :: after ∧
    .issued handle ∉ after ∧ Settled after

/-- The least number that was never issued. -/
def LeastNew (past : List Turn) (handle : Handle) : Prop :=
  .issued handle ∉ past ∧ ∀ index < handle.index, .issued ⟨index⟩ ∈ past

/-- The handle may be released only while it is out. -/
def Admits (past : List Turn) : Request → Prop
  | .allocate => True
  | .release handle => OutAfter past handle

/-- A new allocator has served requests that were admitted when they were made. -/
inductive Run (limit : Nat) : List Turn → Allocator → Prop
  | start : Run limit [] (withLimit limit)
  | next {past : List Turn} {allocator : Allocator} (run : Run limit past allocator)
      (request : Request) (admitted : Admits past request) :
      Run limit (past ++ [(allocator.serve request).1]) (allocator.serve request).2

/-- What the history of an allocator tells about it. -/
structure Exact (limit : Nat) (past : List Turn) (allocator : Allocator) : Prop where
  /-- No handle is issued that is out. -/
  fresh : ∀ handle rest, allocator.allocate? = some (handle, rest) → ¬ OutAfter past handle
  /-- The handle released last is issued next, or else a new one. -/
  issues : ∀ handle, (∃ rest, allocator.allocate? = some (handle, rest)) ↔
    LastReleased past handle ∨
      (∀ other, ¬ LastReleased past other) ∧ LeastNew past handle ∧
        handle.index ≤ min limit Handle.maxIndex
  exhausted : allocator.allocate? = none ↔
    ∀ index ≤ min limit Handle.maxIndex, OutAfter past ⟨index⟩
  live : ∃ handles : Finset Handle, (∀ handle, handle ∈ handles ↔ OutAfter past handle) ∧
    allocator.live = handles.card
  /-- The counter stays a 32-bit number. -/
  next_lt : allocator.next < 2 ^ 32
  /-- The number of live handles is a true difference. -/
  length_le : allocator.free.length ≤ allocator.next
  nodup : allocator.free.Nodup
  issued : ∀ handle ∈ allocator.free, .issued handle ∈ past
  /-- A script can name whatever was issued. -/
  named : ∀ handle, .issued handle ∈ past →
    handle.index ≤ min limit Handle.maxIndex ∧ Handle.ofInt? handle.index = some handle

/-! ## One more turn -/

variable {past before after turns : List Turn} {turn : Turn} {handle other : Handle}

/-- A list with one more item is split at that item or before it. -/
theorem concat_eq_append_cons {α : Type} {past before after : List α} {last turn : α} :
    past ++ [last] = before ++ turn :: after ↔
      past = before ∧ last = turn ∧ after = [] ∨
        ∃ later, after = later ++ [last] ∧ past = before ++ turn :: later := by
  constructor
  · intro same
    rcases List.eq_nil_or_concat' after with rfl | ⟨later, latest, rfl⟩
    · obtain ⟨whole, last⟩ := List.append_inj' same rfl
      exact Or.inl ⟨whole, List.singleton_inj.mp last, rfl⟩
    · rw [← List.cons_append, ← List.append_assoc] at same
      obtain ⟨whole, last⟩ := List.append_inj' same rfl
      exact Or.inr ⟨later, by rw [last], whole⟩
  · rintro (⟨rfl, rfl, rfl⟩ | ⟨later, rfl, rfl⟩)
    · rfl
    · simp

theorem outAfter_concat : OutAfter (past ++ [turn]) handle ↔
    turn = .issued handle ∨ turn ≠ .released handle ∧ OutAfter past handle := by
  constructor
  · rintro ⟨before, after, same, kept⟩
    rcases concat_eq_append_cons.mp same with ⟨_, last, _⟩ | ⟨later, rfl, whole⟩
    · exact Or.inl last
    · rw [List.mem_append, List.mem_singleton, not_or] at kept
      exact Or.inr ⟨Ne.symm kept.2, before, later, whole, kept.1⟩
  · rintro (rfl | ⟨other, before, after, rfl, kept⟩)
    · exact ⟨past, [], rfl, List.not_mem_nil⟩
    · refine ⟨before, after ++ [turn], by simp, ?_⟩
      rw [List.mem_append, List.mem_singleton, not_or]
      exact ⟨kept, Ne.symm other⟩

/-! ## The stack of free handles -/

theorem settled_nil : Settled [] := by
  intro before handle after same
  simp at same

theorem settled_singleton (kept : ∀ handle, turn ≠ .released handle) : Settled [turn] := by
  intro before handle after same
  rw [← List.nil_append [turn]] at same
  rcases concat_eq_append_cons.mp same with ⟨_, last, _⟩ | ⟨later, _, whole⟩
  · exact absurd last (kept handle)
  · simp at whole

theorem Settled.append {earlier later : List Turn} (first : Settled earlier)
    (second : Settled later) : Settled (earlier ++ later) := by
  intro before handle after same
  rcases List.append_eq_append_iff.mp same with ⟨mid, rfl, split⟩ | ⟨mid, rfl, split⟩
  · exact second mid handle after split
  · cases mid with
    | nil => exact second [] handle after split.symm
    | cons turn mid =>
        cases split
        exact List.mem_append_left _ (first before handle mid rfl)

/-- A release is settled by the issue that comes last. -/
theorem Settled.reissued (settled : Settled turns) (handle : Handle) :
    Settled (.released handle :: (turns ++ [.issued handle])) := by
  have rest : Settled (turns ++ [.issued handle]) :=
    settled.append (settled_singleton fun _ => nofun)
  intro before other after same
  cases before with
  | nil =>
      cases same
      exact List.mem_append_right _ (List.mem_singleton.mpr rfl)
  | cons turn before =>
      rw [List.cons_append, List.cons.injEq] at same
      exact rest before other after same.2

/-- The handles that are free after a history, the one released last in front.  What
stands below it was free when it came back, and came out and back in no turn since. -/
inductive Stack : List Turn → List Handle → Prop
  | empty {past : List Turn} (settled : Settled past) : Stack past []
  | push {before after : List Turn} {handle : Handle} {rest : List Handle}
      (below : Stack before rest) (settled : Settled after)
      (kept : ∀ other ∈ handle :: rest, .issued other ∉ after) :
      Stack (before ++ .released handle :: after) (handle :: rest)

variable {free rest : List Handle}

/-- Turns that settle all their releases leave the stack below them. -/
theorem Stack.append (stack : Stack past free) (settled : Settled turns)
    (kept : ∀ handle ∈ free, .issued handle ∉ turns) : Stack (past ++ turns) free := by
  cases stack with
  | empty settled' => exact .empty (settled'.append settled)
  | push below settled' kept' =>
      rw [List.append_assoc, List.cons_append]
      refine .push below (settled'.append settled) fun other member => ?_
      rw [List.mem_append, not_or]
      exact ⟨kept' other member, kept other member⟩

theorem Stack.released (stack : Stack past free) (handle : Handle) :
    Stack (past ++ [.released handle]) (handle :: free) :=
  .push stack settled_nil fun _ _ => List.not_mem_nil

/-- The front of the stack is issued. -/
theorem Stack.issued (stack : Stack past (handle :: rest)) (apart : handle ∉ rest) :
    Stack (past ++ [.issued handle]) rest := by
  cases stack with
  | push below settled kept =>
      rw [List.append_assoc, List.cons_append]
      refine below.append (settled.reissued handle) fun other member => ?_
      rw [List.mem_cons, List.mem_append, List.mem_singleton, not_or, not_or]
      refine ⟨nofun, kept other (List.mem_cons_of_mem _ member), ?_⟩
      rintro ⟨⟩
      exact apart member

theorem Stack.lastReleased (stack : Stack past (handle :: rest)) : LastReleased past handle := by
  cases stack with
  | @push before after _ _ below settled kept =>
      exact ⟨before, after, rfl, kept handle List.mem_cons_self, settled⟩

theorem Stack.not_lastReleased (stack : Stack past []) : ¬ LastReleased past handle := by
  rintro ⟨before, after, same, kept, _⟩
  cases stack with
  | empty settled => exact kept (settled before handle after same)

/-- Only one handle is the one released last. -/
theorem LastReleased.unique (first : LastReleased past handle) (second : LastReleased past other) :
    handle = other := by
  obtain ⟨before, after, rfl, kept, settled⟩ := first
  obtain ⟨before', after', same, kept', settled'⟩ := second
  rcases List.append_eq_append_iff.mp same with ⟨mid, rfl, split⟩ | ⟨mid, rfl, split⟩
  · cases mid with
    | nil =>
        cases split
        rfl
    | cons turn mid =>
        cases split
        exact absurd (settled mid other after' rfl) kept'
  · cases mid with
    | nil =>
        cases split
        rfl
    | cons turn mid =>
        cases split
        exact absurd (settled' mid handle after rfl) kept

/-! ## Runs -/

variable {limit : Nat} {allocator : Allocator}

/-- The state of an allocator as its history has it. -/
structure Traced (limit : Nat) (past : List Turn) (allocator : Allocator) : Prop where
  consistent : allocator.Consistent
  limited : allocator.limit = min limit Handle.maxIndex
  next_le : allocator.next ≤ allocator.limit + 1
  issued : ∀ handle, .issued handle ∈ past ↔ handle.index < allocator.next
  out : ∀ handle, OutAfter past handle ↔ allocator.IsOut handle
  stack : Stack past allocator.free

theorem Traced.start : Traced limit [] (withLimit limit) where
  consistent := ⟨List.nodup_nil, fun _ member => nomatch member⟩
  limited := rfl
  next_le := Nat.zero_le _
  issued handle := by simp [withLimit]
  out handle := by simp [OutAfter, IsOut, withLimit]
  stack := .empty settled_nil

/-- The front of the free handles was issued. -/
theorem Traced.front_lt (traced : Traced limit past allocator)
    (front : allocator.free = handle :: free) : handle.index < allocator.next := by
  apply traced.consistent.issued
  rw [front]
  exact List.mem_cons_self

theorem Traced.issue {rest : Allocator} (traced : Traced limit past allocator)
    (allocated : allocator.allocate? = some (handle, rest)) :
    Traced limit (past ++ [.issued handle]) rest := by
  obtain ⟨consistent, _, out⟩ := traced.consistent.allocate allocated
  have outs : ∀ other, OutAfter (past ++ [.issued handle]) other ↔ rest.IsOut other := by
    intro other
    rw [outAfter_concat, out, traced.out, Turn.issued.injEq, eq_comm]
    simp
  rcases allocate?_eq_some_iff.mp allocated with ⟨free, front, rfl⟩ | ⟨none, room, rfl, rfl⟩
  · refine ⟨consistent, traced.limited, traced.next_le, ?_, outs, ?_⟩
    · intro other
      rw [List.mem_append, traced.issued, List.mem_singleton, Turn.issued.injEq]
      constructor
      · rintro (below | rfl)
        · exact below
        · exact traced.front_lt front
      · exact Or.inl
    · have stack := traced.stack
      have nodup := traced.consistent.nodup
      rw [front] at stack nodup
      exact stack.issued (List.nodup_cons.mp nodup).1
  · refine ⟨consistent, traced.limited, Nat.succ_le_succ room, ?_, outs, ?_⟩
    · rintro ⟨index⟩
      rw [List.mem_append, traced.issued, List.mem_singleton, Turn.issued.injEq, Handle.mk.injEq]
      dsimp only
      omega
    · refine traced.stack.append (settled_singleton fun _ => nofun) fun other member => ?_
      rw [none] at member
      cases member

/-- An allocator refuses only when nothing is free. -/
theorem free_of_refused (refused : allocator.allocate? = none) :
    allocator.free = [] ∧ allocator.limit < allocator.next := by
  unfold allocate? at refused
  split at refused
  · cases refused
  · rename_i none
    split at refused
    · cases refused
    · exact ⟨none, by omega⟩

theorem Traced.refuse (traced : Traced limit past allocator)
    (refused : allocator.allocate? = none) : Traced limit (past ++ [.refused]) allocator where
  consistent := traced.consistent
  limited := traced.limited
  next_le := traced.next_le
  issued other := by simp [traced.issued]
  out other := by simp [outAfter_concat, traced.out]
  stack := by
    refine traced.stack.append (settled_singleton fun _ => nofun) fun other member => ?_
    rw [(free_of_refused refused).1] at member
    cases member

theorem Traced.release (traced : Traced limit past allocator) (out : OutAfter past handle) :
    Traced limit (past ++ [.released handle]) (allocator.release handle) := by
  obtain ⟨consistent, outs⟩ := traced.consistent.release ((traced.out handle).mp out)
  refine ⟨consistent, traced.limited, traced.next_le, ?_, ?_, traced.stack.released handle⟩
  · intro other
    simpa [Allocator.release] using traced.issued other
  · intro other
    rw [outAfter_concat, outs, traced.out]
    simp [eq_comm]

theorem Run.traced (run : Run limit past allocator) : Traced limit past allocator := by
  induction run with
  | start => exact .start
  | @next past allocator _ request admitted ih =>
      cases request with
      | allocate =>
          rw [serve]
          cases allocated : allocator.allocate? with
          | some issued => exact ih.issue allocated
          | none => exact ih.refuse allocated
      | release handle => exact ih.release admitted

/-! ## What the history tells -/

namespace Traced

variable (traced : Traced limit past allocator)
include traced

theorem lastReleased_iff : LastReleased past handle ↔ ∃ rest, allocator.free = handle :: rest := by
  have stack := traced.stack
  constructor
  · intro last
    cases free : allocator.free with
    | nil =>
        rw [free] at stack
        exact absurd last stack.not_lastReleased
    | cons front rest =>
        rw [free] at stack
        exact ⟨rest, by rw [last.unique stack.lastReleased]⟩
  · rintro ⟨rest, front⟩
    rw [front] at stack
    exact stack.lastReleased

theorem free_eq_nil_iff : allocator.free = [] ↔ ∀ handle, ¬ LastReleased past handle := by
  simp only [traced.lastReleased_iff, not_exists]
  constructor
  · intro none handle rest
    rw [none]
    exact nofun
  · intro none
    cases free : allocator.free with
    | nil => rfl
    | cons front rest => exact absurd free (none front rest)

theorem leastNew_iff : LeastNew past handle ↔ handle = ⟨allocator.next⟩ := by
  simp only [LeastNew, traced.issued]
  constructor
  · rintro ⟨new, least⟩
    have below : ¬ allocator.next < handle.index := fun later =>
      Nat.lt_irrefl _ (least allocator.next later)
    have same : handle.index = allocator.next := by omega
    rw [← same]
  · rintro rfl
    exact ⟨Nat.lt_irrefl _, fun index below => below⟩

theorem exists_allocate?_iff : (∃ rest, allocator.allocate? = some (handle, rest)) ↔
    LastReleased past handle ∨
      (∀ other, ¬ LastReleased past other) ∧ LeastNew past handle ∧
        handle.index ≤ min limit Handle.maxIndex := by
  rw [traced.lastReleased_iff, ← traced.free_eq_nil_iff, traced.leastNew_iff, ← traced.limited]
  constructor
  · rintro ⟨rest, allocated⟩
    rcases allocate?_eq_some_iff.mp allocated with ⟨free, front, _⟩ | ⟨none, room, rfl, _⟩
    · exact Or.inl ⟨free, front⟩
    · exact Or.inr ⟨none, rfl, room⟩
  · rintro (⟨free, front⟩ | ⟨none, rfl, room⟩)
    · exact ⟨_, allocate?_eq_some_iff.mpr (Or.inl ⟨free, front, rfl⟩)⟩
    · exact ⟨_, allocate?_eq_some_iff.mpr (Or.inr ⟨none, room, rfl, rfl⟩)⟩

theorem index_le {rest : Allocator} (allocated : allocator.allocate? = some (handle, rest)) :
    handle.index ≤ allocator.limit := by
  rcases allocate?_eq_some_iff.mp allocated with ⟨free, front, _⟩ | ⟨_, room, rfl, _⟩
  · exact Nat.le_of_lt_succ (Nat.lt_of_lt_of_le (traced.front_lt front) traced.next_le)
  · exact room

theorem allocate?_eq_none_iff : allocator.allocate? = none ↔
    ∀ index ≤ min limit Handle.maxIndex, OutAfter past ⟨index⟩ := by
  rw [← traced.limited]
  constructor
  · intro refused index bounded
    obtain ⟨none, full⟩ := free_of_refused refused
    refine (traced.out _).mpr ⟨?_, ?_⟩
    · exact Nat.lt_of_le_of_lt bounded full
    · rw [none]
      exact List.not_mem_nil
  · intro all
    cases allocated : allocator.allocate? with
    | none => rfl
    | some issued =>
        obtain ⟨handle, rest⟩ := issued
        have fresh := (traced.consistent.allocate allocated).2.1
        have out := (traced.out handle).mp (all handle.index (traced.index_le allocated))
        exact absurd out fresh

/-- The handles that are out are those issued less those that are free. -/
theorem exists_live : ∃ handles : Finset Handle,
    (∀ handle, handle ∈ handles ↔ OutAfter past handle) ∧ allocator.live = handles.card := by
  have numbered : Function.Injective Handle.mk := fun _ _ => Handle.mk.inj
  let issued := (Finset.range allocator.next).map ⟨Handle.mk, numbered⟩
  have member (handle : Handle) : handle ∈ issued ↔ handle.index < allocator.next := by
    obtain ⟨index⟩ := handle
    simp [issued]
  have free : allocator.free.toFinset ⊆ issued := by
    intro handle held
    exact (member handle).mpr (traced.consistent.issued handle (List.mem_toFinset.mp held))
  refine ⟨issued \ allocator.free.toFinset, fun handle => ?_, ?_⟩
  · rw [Finset.mem_sdiff, member, List.mem_toFinset, traced.out, IsOut]
  · rw [Finset.card_sdiff_of_subset free, Finset.card_map, Finset.card_range,
      List.toFinset_card_of_nodup traced.consistent.nodup, live]

theorem length_free_le : allocator.free.length ≤ allocator.next := by
  have numbers : (allocator.free.map Handle.index).Nodup :=
    traced.consistent.nodup.map fun ⟨_⟩ ⟨_⟩ same => congrArg Handle.mk same
  have below : allocator.free.map Handle.index ⊆ List.range allocator.next := by
    intro index member
    obtain ⟨handle, held, rfl⟩ := List.mem_map.mp member
    exact List.mem_range.mpr (traced.consistent.issued handle held)
  simpa using (numbers.subperm below).length_le

theorem named (issued : .issued handle ∈ past) :
    handle.index ≤ min limit Handle.maxIndex ∧ Handle.ofInt? handle.index = some handle := by
  have bounded : handle.index ≤ min limit Handle.maxIndex := by
    rw [← traced.limited]
    exact Nat.le_of_lt_succ (Nat.lt_of_lt_of_le ((traced.issued handle).mp issued) traced.next_le)
  exact ⟨bounded, Handle.ofInt?_eq_some_iff.mpr ⟨rfl, (Nat.le_min.mp bounded).2⟩⟩

end Traced

/-- After any requests the history tells what the allocator issues and refuses and how
many handles are out. -/
theorem allocation_exact (run : Run limit past allocator) : Exact limit past allocator := by
  have traced := run.traced
  constructor
  case fresh =>
    intro handle rest allocated out
    exact (traced.consistent.allocate allocated).2.1 ((traced.out handle).mp out)
  case issues => exact fun handle => traced.exists_allocate?_iff
  case exhausted => exact traced.allocate?_eq_none_iff
  case live => exact traced.exists_live
  case next_lt =>
    have small : allocator.limit ≤ Handle.maxIndex := by
      rw [traced.limited]
      exact Nat.min_le_right _ _
    have range : Handle.maxIndex + 1 < 2 ^ 32 := by decide
    have next := traced.next_le
    omega
  case length_le => exact traced.length_free_le
  case nodup => exact traced.consistent.nodup
  case issued =>
    exact fun handle held => (traced.issued handle).mpr (traced.consistent.issued handle held)
  case named => exact fun handle issued => traced.named issued

/-- Two handles are all that there are up to the limit.  Of the two that come back the
last one goes out again. -/
theorem allocation_exact_twoHandles :
    let past : List Turn := [.issued ⟨0⟩, .issued ⟨1⟩, .refused, .released ⟨0⟩, .released ⟨1⟩,
      .issued ⟨1⟩]
    Run 1 past ⟨2, [⟨0⟩], 1⟩ ∧ Exact 1 past ⟨2, [⟨0⟩], 1⟩ := by
  intro past
  have exhausted : Run 1 [.issued ⟨0⟩, .issued ⟨1⟩, .refused] ⟨2, [], 1⟩ :=
    ((Run.start.next .allocate trivial).next .allocate trivial).next .allocate trivial
  have released : Run 1 (past.take 5) ⟨2, [⟨1⟩, ⟨0⟩], 1⟩ :=
    (exhausted.next (.release ⟨0⟩) ⟨[], [.issued ⟨1⟩, .refused], rfl, by decide⟩).next
      (.release ⟨1⟩) ⟨[.issued ⟨0⟩], [.refused, .released ⟨0⟩], rfl, by decide⟩
  have run : Run 1 past ⟨2, [⟨0⟩], 1⟩ := released.next .allocate trivial
  exact ⟨run, allocation_exact run⟩

end TopicBridge.Allocator
