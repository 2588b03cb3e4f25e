/-!
# Queues

A queue is taken from at the front and added to at the back.  The items behind
the front ones are kept newest first, so that adding one takes constant time,
and are turned around when the front ones run out.  What a queue holds, oldest
first, is its `toList`, and every operation is described by it.
-/

namespace TopicBridge

universe u

/-- A queue of items, with their number. -/
structure Queue (α : Type u) where
  /-- The oldest items, oldest first. -/
  front : List α
  /-- The other items, newest first. -/
  back : List α
  size : Nat
  size_eq : size = front.length + back.length

namespace Queue

variable {α : Type u}

/-- A queue of items in order. -/
def ofList (items : List α) : Queue α :=
  ⟨items, [], items.length, rfl⟩

/-- The queue of no items. -/
def empty : Queue α :=
  ofList []

instance : Inhabited (Queue α) where
  default := empty

/-- The items, oldest first. -/
def toList (queue : Queue α) : List α :=
  queue.front ++ queue.back.reverse

/-- Add an item at the back. -/
def push (queue : Queue α) (item : α) : Queue α where
  front := queue.front
  back := item :: queue.back
  size := queue.size + 1
  size_eq := by rw [queue.size_eq, List.length_cons, Nat.add_assoc]

/-- The oldest item, and the queue without it. -/
def pop? (queue : Queue α) : Option (α × Queue α) :=
  match queue with
  | ⟨item :: front, back, size, size_eq⟩ =>
      some (item, ⟨front, back, size - 1, by simp only [size_eq, List.length_cons]; omega⟩)
  | ⟨[], back, _, _⟩ =>
      match back.reverse with
      | [] => none
      | item :: front => some (item, ofList front)

@[simp]
theorem toList_empty : (empty : Queue α).toList = [] :=
  rfl

@[simp]
theorem toList_push (queue : Queue α) (item : α) :
    (queue.push item).toList = queue.toList ++ [item] := by
  simp [toList, push]

@[simp]
theorem toList_ofList (items : List α) : (ofList items).toList = items := by
  simp [toList, ofList]

/-- The size of a queue is the number of its items. -/
theorem size_eq_length_toList (queue : Queue α) : queue.size = queue.toList.length := by
  simp [toList, queue.size_eq]

/-- Taking an item gives the first one and leaves the others. -/
theorem map_pop? (queue : Queue α) :
    queue.pop?.map (fun taken => taken.1 :: taken.2.toList) =
      if queue.toList = [] then none else some queue.toList := by
  obtain ⟨front, back, size, size_eq⟩ := queue
  cases front with
  | cons item front => simp [pop?, toList]
  | nil =>
      cases turned : back.reverse with
      | nil => simp [pop?, toList, turned]
      | cons item front => simp [pop?, toList, turned, ofList]

theorem pop?_eq_none_iff (queue : Queue α) : queue.pop? = none ↔ queue.toList = [] := by
  have h := queue.map_pop?
  constructor
  · intro empty
    rw [empty] at h
    split at h
    · assumption
    · cases h
  · intro empty
    rw [if_pos empty] at h
    exact Option.map_eq_none_iff.mp h

theorem toList_of_pop? {queue rest : Queue α} {item : α} (h : queue.pop? = some (item, rest)) :
    queue.toList = item :: rest.toList := by
  have taken := queue.map_pop?
  rw [h] at taken
  split at taken
  · cases taken
  · exact (Option.some.inj taken).symm

end Queue

end TopicBridge
