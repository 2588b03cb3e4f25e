/-!
# Dictionaries

A dictionary is a list of keys and values in which the first entry of a key
counts.  Inserting replaces that entry in place or appends a new one, so a
dictionary built by insertions alone holds each key once, in the order in which
the keys were first inserted.
-/

namespace TopicBridge

universe u v

/-- Keys with their values. -/
abbrev Dict (κ : Type u) (α : Type v) := List (κ × α)

namespace Dict

variable {κ : Type u} {α : Type v} [DecidableEq κ]

/-- The value of a key. -/
def get? (entries : Dict κ α) (key : κ) : Option α :=
  match entries with
  | [] => none
  | (k, a) :: rest => if k = key then some a else get? rest key

/-- The key has a value. -/
def contains (entries : Dict κ α) (key : κ) : Bool :=
  (get? entries key).isSome

/-- Give a key a value, replacing the value it has. -/
def insert (entries : Dict κ α) (key : κ) (value : α) : Dict κ α :=
  match entries with
  | [] => [(key, value)]
  | (k, a) :: rest => if k = key then (k, value) :: rest else (k, a) :: insert rest key value

/-- Give a key a value unless it has one. -/
def insertNew (entries : Dict κ α) (key : κ) (value : α) : Dict κ α :=
  if contains entries key then entries else entries ++ [(key, value)]

/-- Remove a key. -/
def erase (entries : Dict κ α) (key : κ) : Dict κ α :=
  entries.filter fun entry => !decide (entry.1 = key)

/-- Change the value of a key that is present. -/
def modify (entries : Dict κ α) (key : κ) (change : α → α) : Dict κ α :=
  entries.map fun entry => if entry.1 = key then (entry.1, change entry.2) else entry

omit [DecidableEq κ] in
/-- Change every value. -/
def mapValues {β : Type v} (entries : Dict κ α) (change : α → β) : Dict κ β :=
  entries.map fun entry => (entry.1, change entry.2)

omit [DecidableEq κ] in
/-- The keys, in order. -/
def keys (entries : Dict κ α) : List κ :=
  entries.map Prod.fst

@[simp]
theorem get?_nil (key : κ) : get? ([] : Dict κ α) key = none :=
  rfl

theorem get?_cons (k : κ) (a : α) (rest : Dict κ α) (key : κ) :
    get? ((k, a) :: rest) key = if k = key then some a else get? rest key :=
  rfl

/-- An insertion is seen under its own key and nowhere else. -/
theorem get?_insert (entries : Dict κ α) (key other : κ) (value : α) :
    get? (insert entries key value) other = if key = other then some value else get? entries other := by
  induction entries with
  | nil => simp [insert, get?_cons]
  | cons entry rest ih =>
      obtain ⟨k, a⟩ := entry
      by_cases hk : k = key
      · subst hk
        by_cases ho : k = other <;> simp [insert, get?_cons, ho]
      · by_cases ho : k = other
        · subst ho
          simp [insert, hk, get?_cons, Ne.symm hk]
        · simp [insert, hk, get?_cons, ho, ih]

theorem get?_insert_self (entries : Dict κ α) (key : κ) (value : α) :
    get? (insert entries key value) key = some value := by
  rw [get?_insert, if_pos rfl]

/-- A removal is seen under its own key and nowhere else. -/
theorem get?_erase (entries : Dict κ α) (key other : κ) :
    get? (erase entries key) other = if key = other then none else get? entries other := by
  induction entries with
  | nil => simp [erase]
  | cons entry rest ih =>
      obtain ⟨k, a⟩ := entry
      rw [erase] at ih ⊢
      by_cases hk : k = key
      · subst hk
        by_cases ho : k = other
        · subst ho
          simpa using ih
        · simpa [get?_cons, ho] using ih
      · by_cases ho : k = other
        · subst ho
          simp [hk, get?_cons, Ne.symm hk]
        · simpa [hk, get?_cons, ho] using ih

/-- A change is seen under its own key and nowhere else. -/
theorem get?_modify (entries : Dict κ α) (key other : κ) (change : α → α) :
    get? (modify entries key change) other =
      (get? entries other).map fun value => if key = other then change value else value := by
  induction entries with
  | nil => rfl
  | cons entry rest ih =>
      obtain ⟨k, a⟩ := entry
      rw [modify] at ih ⊢
      rw [List.map_cons]
      by_cases hk : k = key
      · subst hk
        by_cases ho : k = other
        · simp [get?_cons, ho]
        · simpa [get?_cons, ho] using ih
      · by_cases ho : k = other
        · subst ho
          simp [get?_cons, hk, Ne.symm hk]
        · simpa [get?_cons, hk, ho] using ih

/-- The keys are those that have a value. -/
theorem mem_keys_iff (entries : Dict κ α) (key : κ) :
    key ∈ keys entries ↔ (get? entries key).isSome = true := by
  induction entries with
  | nil => simp [keys]
  | cons entry rest ih =>
      obtain ⟨k, a⟩ := entry
      rw [keys] at ih ⊢
      by_cases same : k = key
      · simp [get?_cons, same]
      · simp [get?_cons, same, Ne.symm same, ih]

/-- A new key goes to the end. -/
theorem insert_of_get?_eq_none {entries : Dict κ α} {key : κ} (value : α)
    (new : get? entries key = none) : insert entries key value = entries ++ [(key, value)] := by
  induction entries with
  | nil => rfl
  | cons entry rest ih =>
      obtain ⟨k, a⟩ := entry
      rw [get?_cons] at new
      split at new
      · cases new
      · rename_i other
        rw [insert, if_neg other, ih new, List.cons_append]

theorem keys_erase (entries : Dict κ α) (key : κ) :
    keys (erase entries key) = (keys entries).filter fun k => !decide (k = key) := by
  rw [keys, keys, erase, List.filter_map]
  rfl

/-- A key that has no value is not removed. -/
theorem erase_of_get?_eq_none {entries : Dict κ α} {key : κ} (absent : get? entries key = none) :
    erase entries key = entries := by
  rw [erase, List.filter_eq_self]
  intro entry member
  have other : entry.1 ≠ key := by
    rintro rfl
    have present := (mem_keys_iff entries entry.1).mp (List.mem_map_of_mem member)
    rw [absent] at present
    cases present
  simp [other]

theorem mem_of_get? {entries : Dict κ α} {key : κ} {value : α}
    (found : get? entries key = some value) : (key, value) ∈ entries := by
  induction entries with
  | nil => cases found
  | cons entry rest ih =>
      obtain ⟨k, a⟩ := entry
      rw [get?_cons] at found
      split at found
      · rename_i same
        cases found
        rw [same]
        exact List.mem_cons_self
      · exact List.mem_cons_of_mem _ (ih found)

/-- Where no key has two entries, every entry counts. -/
theorem get?_of_mem {entries : Dict κ α} (distinct : (keys entries).Nodup) {key : κ} {value : α}
    (member : (key, value) ∈ entries) : get? entries key = some value := by
  induction entries with
  | nil => cases member
  | cons entry rest ih =>
      obtain ⟨k, a⟩ := entry
      rw [keys, List.map_cons, List.nodup_cons] at distinct
      rw [get?_cons]
      rcases List.mem_cons.mp member with same | later
      · cases same
        exact if_pos rfl
      · have other : k ≠ key := by
          rintro rfl
          exact distinct.1 (List.mem_map.mpr ⟨_, later, rfl⟩)
        rw [if_neg other]
        exact ih distinct.2 later

/-- A removal takes out its own entry. -/
theorem perm_erase {entries : Dict κ α} (distinct : (keys entries).Nodup) {key : κ} {value : α}
    (found : get? entries key = some value) : entries.Perm ((key, value) :: erase entries key) := by
  induction entries with
  | nil => cases found
  | cons entry rest ih =>
      obtain ⟨k, a⟩ := entry
      rw [keys, List.map_cons, List.nodup_cons] at distinct
      rw [get?_cons] at found
      split at found
      · rename_i same
        subst same
        cases found
        have absent : get? rest k = none := by
          cases later : get? rest k with
          | none => rfl
          | some other => exact absurd (List.mem_map_of_mem (mem_of_get? later)) distinct.1
        have kept : erase ((k, value) :: rest) k = rest := by
          rw [erase, List.filter_cons_of_neg (by simp)]
          exact erase_of_get?_eq_none absent
        rw [kept]
      · rename_i other
        rw [erase, List.filter_cons_of_pos (by simp [other])]
        exact ((ih distinct.2 found).cons _).trans (List.Perm.swap _ _ _)

/-- What a removal takes out of a count is its own entry. -/
theorem countP_erase {entries : Dict κ α} (distinct : (keys entries).Nodup) {key : κ} {value : α}
    (found : get? entries key = some value) (condition : κ × α → Bool) :
    entries.countP condition =
      (erase entries key).countP condition + if condition (key, value) then 1 else 0 := by
  rw [(perm_erase distinct found).countP_eq, List.countP_cons]

/-- An insertion unless there is one is seen under its own key, if that had no
value, and nowhere else. -/
theorem get?_insertNew (entries : Dict κ α) (key other : κ) (value : α) :
    get? (insertNew entries key value) other =
      (get? entries other).or (if key = other then some value else none) := by
  unfold insertNew contains
  cases found : get? entries key with
  | some old =>
      rw [if_pos Option.isSome_some]
      by_cases same : key = other
      · rw [← same, found]
        rfl
      · rw [if_neg same, Option.or_none]
  | none =>
      rw [if_neg (by simp), ← insert_of_get?_eq_none value found, get?_insert]
      by_cases same : key = other
      · rw [if_pos same, if_pos same, ← same, found]
        rfl
      · rw [if_neg same, if_neg same, Option.or_none]

/-- An insertion lists its key once. -/
theorem nodup_keys_insert {entries : Dict κ α} (distinct : (keys entries).Nodup) (key : κ)
    (value : α) : (keys (insert entries key value)).Nodup := by
  induction entries with
  | nil => exact List.nodup_cons.mpr ⟨List.not_mem_nil, List.nodup_nil⟩
  | cons entry rest ih =>
      obtain ⟨k, a⟩ := entry
      rw [keys, List.map_cons, List.nodup_cons] at distinct
      rw [insert]
      split
      · rw [keys, List.map_cons, List.nodup_cons]
        exact distinct
      · rename_i other
        rw [keys, List.map_cons, List.nodup_cons]
        refine ⟨?_, ih distinct.2⟩
        change k ∉ keys (insert rest key value)
        rw [mem_keys_iff, get?_insert, if_neg (Ne.symm other), ← mem_keys_iff]
        exact distinct.1

/-! Changing every value goes through the other operations. -/

section

variable {β : Type v} (change : α → β)

theorem get?_mapValues (entries : Dict κ α) (key : κ) :
    get? (mapValues entries change) key = (get? entries key).map change := by
  induction entries with
  | nil => rfl
  | cons entry rest ih =>
      obtain ⟨k, a⟩ := entry
      rw [mapValues] at ih ⊢
      rw [List.map_cons, get?_cons, get?_cons, ih]
      split <;> rfl

theorem insert_mapValues (entries : Dict κ α) (key : κ) (value : α) :
    insert (mapValues entries change) key (change value) =
      mapValues (insert entries key value) change := by
  induction entries with
  | nil => rfl
  | cons entry rest ih =>
      obtain ⟨k, a⟩ := entry
      rw [mapValues] at ih ⊢
      rw [List.map_cons, insert, insert, ih]
      split <;> rfl

theorem erase_mapValues (entries : Dict κ α) (key : κ) :
    erase (mapValues entries change) key = mapValues (erase entries key) change := by
  rw [mapValues, erase, List.filter_map]
  rfl

omit [DecidableEq κ] in
theorem keys_mapValues (entries : Dict κ α) : keys (mapValues entries change) = keys entries := by
  rw [keys, mapValues, List.map_map]
  rfl

end

end Dict

end TopicBridge
