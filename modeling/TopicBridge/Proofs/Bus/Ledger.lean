import TopicBridge.Proofs.Bus.Bound

/-!
# What is open

A layer numbers what is opened on it and never forgets a number, and only marks
what is closed.  What is open is then a list of numbers, each with its topic.
Opening adds to the end of it, closing takes one number out, and nothing else
changes it.
-/

namespace TopicBridge

section OpenFrom

variable {α κ : Type} (key : Nat → κ) (isOpen : α → Bool) (topic : α → String)

/-- The items that are open, with their topics, under the keys of the numbers from
`start` on. -/
def openFrom (start : Nat) : List α → Dict κ String
  | [] => []
  | item :: rest =>
      if isOpen item then (key start, topic item) :: openFrom (start + 1) rest
      else openFrom (start + 1) rest

theorem mem_openFrom_iff {start : Nat} {items : List α} {entry : κ × String} :
    entry ∈ openFrom key isOpen topic start items ↔
      ∃ number item, items[number]? = some item ∧ isOpen item = true ∧
        entry = (key (start + number), topic item) := by
  induction items generalizing start with
  | nil => simp [openFrom]
  | cons first rest ih =>
      have later : (∃ number item, (first :: rest)[number]? = some item ∧ isOpen item = true ∧
            entry = (key (start + number), topic item)) ↔
          (isOpen first = true ∧ entry = (key start, topic first)) ∨
            entry ∈ openFrom key isOpen topic (start + 1) rest := by
        rw [ih]
        constructor
        · rintro ⟨_ | number, item, found, there, same⟩
          · cases found
            exact Or.inl ⟨there, same⟩
          · exact Or.inr ⟨number, item, found, there, by rw [same, Nat.add_right_comm]; rfl⟩
        · rintro (⟨there, same⟩ | ⟨number, item, found, there, same⟩)
          · exact ⟨0, first, rfl, there, same⟩
          · exact ⟨number + 1, item, found, there, by rw [same, Nat.add_right_comm]; rfl⟩
      rw [later, openFrom]
      cases isOpen first <;> simp

/-- Everything is closed where nothing is listed. -/
theorem closed_of_openFrom_eq_nil {start : Nat} {items : List α}
    (blank : openFrom key isOpen topic start items = []) : ∀ item ∈ items, isOpen item = false := by
  intro item member
  obtain ⟨number, found⟩ := List.getElem?_of_mem member
  rw [Bool.eq_false_iff]
  intro there
  have listed : (key (start + number), topic item) ∈ openFrom key isOpen topic start items :=
    (mem_openFrom_iff key isOpen topic).mpr ⟨number, item, found, there, rfl⟩
  rw [blank] at listed
  cases listed

/-- What is opened is the last of what is open. -/
theorem openFrom_append (start : Nat) (items : List α) {item : α} (opened : isOpen item = true) :
    openFrom key isOpen topic start (items ++ [item]) =
      openFrom key isOpen topic start items ++ [(key (start + items.length), topic item)] := by
  induction items generalizing start with
  | nil => simp [openFrom, opened]
  | cons first rest ih =>
      rw [List.cons_append, openFrom, openFrom, ih, List.length_cons, Nat.add_right_comm,
        Nat.add_assoc]
      split <;> rfl

/-- Changes that open and close nothing are not seen. -/
theorem openFrom_congr (start : Nat) {items changed : List α}
    (keeps : changed.map (fun item => (isOpen item, topic item)) =
      items.map fun item => (isOpen item, topic item)) :
    openFrom key isOpen topic start changed = openFrom key isOpen topic start items := by
  induction items generalizing start changed with
  | nil => rw [List.map_eq_nil_iff.mp keeps]
  | cons first rest ih =>
      cases changed with
      | nil => cases keeps
      | cons other others =>
          obtain ⟨same, keeps⟩ := List.cons.inj keeps
          obtain ⟨open_eq, topic_eq⟩ := Prod.mk.inj same
          rw [openFrom, openFrom, ih (start + 1) keeps, open_eq, topic_eq]

theorem openFrom_modify (start : Nat) {items : List α} {number : Nat} {item : α} {change : α → α}
    (found : items[number]? = some item) (open_eq : isOpen (change item) = isOpen item)
    (topic_eq : topic (change item) = topic item) :
    openFrom key isOpen topic start (items.modify number change) =
      openFrom key isOpen topic start items := by
  apply openFrom_congr
  obtain ⟨before, after, same, changed⟩ := Bus.modify_split change found
  rw [changed, same, List.map_append, List.map_append, List.map_cons, List.map_cons, open_eq,
    topic_eq]

/-- What is open on a topic is counted by its items. -/
theorem length_openFrom (start : Nat) (items : List α) (name : String) :
    ((openFrom key isOpen topic start items).filter fun entry => entry.2 = name).length =
      (items.filter fun item => isOpen item && topic item = name).length := by
  induction items generalizing start with
  | nil => rfl
  | cons first rest ih =>
      rw [openFrom, List.filter_cons]
      cases isOpen first with
      | false => simpa using ih (start + 1)
      | true => by_cases own : topic first = name <;> simpa [own] using ih (start + 1)

variable [DecidableEq κ] {key} (distinct : ∀ n m, key n = key m → n = m)

include distinct

/-- A number outside of a list is not open in it. -/
theorem get?_openFrom_eq_none {start number : Nat} {items : List α}
    (outside : number < start ∨ start + items.length ≤ number) :
    Dict.get? (openFrom key isOpen topic start items) (key number) = none := by
  cases there : Dict.get? (openFrom key isOpen topic start items) (key number) with
  | none => rfl
  | some name =>
      obtain ⟨place, item, found, _, same⟩ :=
        (mem_openFrom_iff key isOpen topic).mp (Dict.mem_of_get? there)
      have below := (List.getElem?_eq_some_iff.mp found).1
      have := distinct _ _ (Prod.mk.inj same).1
      omega

/-- No number is listed twice. -/
theorem nodup_openFrom (start : Nat) (items : List α) :
    (Dict.keys (openFrom key isOpen topic start items)).Nodup := by
  induction items generalizing start with
  | nil => exact List.nodup_nil
  | cons first rest ih =>
      rw [openFrom]
      split
      · have absent : Dict.get? (openFrom key isOpen topic (start + 1) rest) (key start) = none :=
          get?_openFrom_eq_none isOpen topic distinct (Or.inl (Nat.lt_succ_self start))
        refine List.nodup_cons.mpr ⟨fun listed => ?_, ih (start + 1)⟩
        have there := (Dict.mem_keys_iff _ _).mp listed
        rw [absent] at there
        cases there
      · exact ih (start + 1)

omit [DecidableEq κ] in
/-- What is listed under a number is the open item with that number. -/
theorem mem_openFrom_zero_iff {number : Nat} {items : List α} {name : String} :
    (key number, name) ∈ openFrom key isOpen topic 0 items ↔
      ∃ item, items[number]? = some item ∧ isOpen item = true ∧ topic item = name := by
  rw [mem_openFrom_iff]
  constructor
  · rintro ⟨place, item, found, isOpen', same⟩
    obtain ⟨here, named⟩ := Prod.mk.inj same
    rw [Nat.zero_add] at here
    exact ⟨item, distinct _ _ here ▸ found, isOpen', named.symm⟩
  · rintro ⟨item, found, isOpen', named⟩
    exact ⟨number, item, found, isOpen', by rw [Nat.zero_add, named]⟩

/-- What is closed is not listed. -/
theorem get?_openFrom_of_closed {number : Nat} {items : List α}
    (closed : ∀ item, items[number]? = some item → isOpen item = false) :
    Dict.get? (openFrom key isOpen topic 0 items) (key number) = none := by
  cases there : Dict.get? (openFrom key isOpen topic 0 items) (key number) with
  | none => rfl
  | some name =>
      obtain ⟨item, found, isOpen', _⟩ :=
        (mem_openFrom_zero_iff isOpen topic distinct).mp (Dict.mem_of_get? there)
      cases (closed item found).symm.trans isOpen'

/-- What is closed is taken out. -/
theorem openFrom_close {start number : Nat} {items : List α} {item : α} {change : α → α}
    (found : items[number]? = some item) (closes : isOpen (change item) = false) :
    openFrom key isOpen topic start (items.modify number change) =
      Dict.erase (openFrom key isOpen topic start items) (key (start + number)) := by
  induction items generalizing start number with
  | nil => cases found
  | cons first rest ih =>
      cases number with
      | zero =>
          cases found
          have absent : Dict.get? (openFrom key isOpen topic (start + 1) rest) (key start) = none :=
            get?_openFrom_eq_none isOpen topic distinct (Or.inl (Nat.lt_succ_self start))
          have kept := Dict.erase_of_get?_eq_none absent
          rw [List.modify_zero_cons, openFrom, openFrom, closes, if_neg Bool.false_ne_true]
          cases isOpen item with
          | false => exact kept.symm
          | true =>
              rw [if_pos rfl, Dict.erase, List.filter_cons_of_neg (by simp)]
              exact kept.symm
      | succ number =>
          have later : openFrom key isOpen topic (start + 1) (rest.modify number change) =
              Dict.erase (openFrom key isOpen topic (start + 1) rest) (key (start + (number + 1))) := by
            rw [ih found, Nat.add_right_comm, Nat.add_assoc]
          have apart : key start ≠ key (start + (number + 1)) := fun same => by
            have := distinct _ _ same
            omega
          rw [List.modify_succ_cons, openFrom, openFrom, later]
          cases isOpen first with
          | false => rfl
          | true =>
              rw [if_pos rfl, if_pos rfl, Dict.erase, Dict.erase,
                List.filter_cons_of_pos (by simpa using apart)]

theorem openFrom_zero_close {number : Nat} {items : List α} {item : α} {change : α → α}
    (found : items[number]? = some item) (closes : isOpen (change item) = false) :
    openFrom key isOpen topic 0 (items.modify number change) =
      Dict.erase (openFrom key isOpen topic 0 items) (key number) := by
  rw [openFrom_close isOpen topic distinct found closes, Nat.zero_add]

end OpenFrom

end TopicBridge
