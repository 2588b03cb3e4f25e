import Mathlib.Algebra.GroupWithZero.Nat
import TopicBridge.Proofs.Bus.Orderly
import TopicBridge.Proofs.Bus.Waiting

/-!
# Handing out

What is handed out, and what is skipped, is written down under the numbers of the
subscriptions.  Each subscription reads its own part.  All parts together are what
the bus counts.
-/

namespace TopicBridge

namespace Bus

/-! ## The part of one subscription -/

/-- The items that are listed under a subscription. -/
def ofSubscription {α : Type} (id : SubscriptionId) (items : List (SubscriptionId × α)) : List α :=
  items.filterMap fun (own, item) => if own = id then some item else none

theorem ofSubscription_append {α : Type} (id : SubscriptionId)
    (items others : List (SubscriptionId × α)) :
    ofSubscription id (items ++ others) = ofSubscription id items ++ ofSubscription id others :=
  List.filterMap_append

theorem ofSubscription_map {α : Type} (id own : SubscriptionId) (items : List α) :
    ofSubscription id (items.map fun item => (own, item)) = if own = id then items else [] := by
  rw [ofSubscription, List.filterMap_map]
  change (items.filterMap fun item => if own = id then some item else none) = _
  split <;> simp

/-- Under the number of an item of a list stands what belongs to that item. -/
theorem ofSubscription_zipIdx {α β : Type} (id : SubscriptionId) (items : List α)
    (parts : α → List β) :
    ofSubscription id (items.zipIdx.flatMap fun (item, number) =>
        (parts item).map fun part => (⟨number⟩, part)) =
      (items[id.number]?.map parts).getD [] := by
  have shifted : ∀ start : Nat, ofSubscription id ((items.zipIdx start).flatMap
      fun (item, number) => (parts item).map fun part => (⟨number⟩, part)) =
        if start ≤ id.number then (items[id.number - start]?.map parts).getD [] else [] := by
    induction items with
    | nil =>
        intro start
        split <;> rfl
    | cons first rest ih =>
        intro start
        rw [List.zipIdx_cons, List.flatMap_cons, ofSubscription_append, ofSubscription_map, ih]
        rcases Nat.lt_trichotomy start id.number with below | same | above
        · rw [if_neg (by rintro rfl; exact Nat.lt_irrefl _ below),
            if_pos (Nat.succ_le_of_lt below),
            if_pos (Nat.le_of_lt below), List.nil_append,
            show id.number - start = id.number - (start + 1) + 1 by omega]
          rfl
        · rw [if_pos (by rw [same]), if_neg (by omega), if_pos (Nat.le_of_eq same), same,
            Nat.sub_self]
          simp
        · rw [if_neg (by rintro rfl; exact Nat.lt_irrefl _ above), if_neg (by omega),
            if_neg (by omega)]
          rfl
  simpa using shifted 0

/-! ## What is handed out at one moment -/

section

variable {bus : Bus} {id : SubscriptionId} {subscription : Subscription}

theorem arrivals_of_subscription (found : bus.subscriptions[id.number]? = some subscription) :
    ofSubscription id (bus.handed .serveAll) = bus.taken subscription ∧
      ofSubscription id (bus.skips .serveAll) = [bus.overrun subscription] := by
  constructor
  · refine (ofSubscription_zipIdx id bus.subscriptions bus.taken).trans ?_
    rw [found]
    rfl
  · have single : bus.skips .serveAll = bus.subscriptions.zipIdx.flatMap
        fun numbered => [bus.overrun numbered.1].map fun part => (⟨numbered.2⟩, part) := by
      rw [skips, List.map_eq_flatMap]
      rfl
    rw [single]
    refine (ofSubscription_zipIdx id bus.subscriptions fun s => [bus.overrun s]).trans ?_
    rw [found]
    rfl

theorem served_of_subscription (found : bus.subscriptions[id.number]? = some subscription) :
    ofSubscription id (bus.handed (.serve id)) = (bus.taken subscription).head?.toList ∧
      ofSubscription id (bus.skips (.serve id)) =
        if bus.taken subscription = [] then [] else [bus.missed subscription] := by
  have next := serve?_of_found found
  cases served : bus.serve? id with
  | none =>
      rw [served] at next
      have nothing : bus.taken subscription = [] := List.head?_eq_none_iff.mp next.symm
      rw [handed, skips, served, found, nothing]
      exact ⟨rfl, rfl⟩
  | some payload =>
      rw [served] at next
      obtain ⟨rest, takes⟩ := List.head?_eq_some_iff.mp next.symm
      rw [handed, skips, served, found, takes, if_neg (List.cons_ne_nil _ _)]
      simp [ofSubscription]

/-- Serving one subscription hands nothing to another one. -/
theorem served_of_other {other : SubscriptionId} (apart : other ≠ id) :
    ofSubscription id (bus.handed (.serve other)) = [] ∧
      ofSubscription id (bus.skips (.serve other)) = [] := by
  constructor
  · rw [handed]
    cases bus.serve? other <;> simp [ofSubscription, apart]
  · rw [skips]
    split
    · cases bus.serve? other <;> simp [ofSubscription, apart]
    · rfl

/-- A subscription that was not opened yet is handed nothing. -/
theorem handed_of_unopened (unopened : bus.subscriptions[id.number]? = none) (action : Action) :
    ofSubscription id (bus.handed action) = [] := by
  cases action with
  | serve other =>
      by_cases own : other = id
      · subst own
        have none : bus.serve? other = none := by
          rw [serve?, unopened]
          rfl
        rw [handed, none]
        rfl
      · exact (served_of_other own).1
  | serveAll =>
      refine (ofSubscription_zipIdx id bus.subscriptions bus.taken).trans ?_
      rw [unopened]
      rfl
  | _ => rfl

/-- Only serving it hands a subscription anything, and only if its worker takes
messages. -/
theorem handed_of_idle (found : bus.subscriptions[id.number]? = some subscription)
    (action : Action)
    (idle : action = .serveAll ∨ action = .serve id → bus.attends subscription = false) :
    ofSubscription id (bus.handed action) = [] ∧
      (ofSubscription id (bus.skips action)).sum = 0 := by
  cases action with
  | serve other =>
      by_cases own : other = id
      · subst own
        obtain ⟨handed, skips⟩ := served_of_subscription found
        rw [handed, skips, taken, idle (.inr rfl)]
        exact ⟨rfl, rfl⟩
      · obtain ⟨handed, skips⟩ := served_of_other own
        rw [handed, skips]
        exact ⟨rfl, rfl⟩
  | serveAll =>
      obtain ⟨handed, skips⟩ := arrivals_of_subscription found
      rw [handed, skips, taken, overrun, idle (.inl rfl)]
      exact ⟨rfl, rfl⟩
  | _ => exact ⟨rfl, rfl⟩

end

/-! ## What a bus counts -/

namespace Moment

def handed (moment : Moment) : List Arrival :=
  moment.bus.handed moment.action

def skips (moment : Moment) : List (SubscriptionId × Nat) :=
  moment.bus.skips moment.action

def sends? (moment : Moment) : Option (String × Bytes) :=
  moment.bus.sends? moment.action

end Moment

theorem sends?_of_open {bus : Bus} {id : PublicationId} {publication : Publication}
    (found : bus.publications[id.number]? = some publication)
    (isOpen : publication.isOpen = true) (payload : Bytes) :
    bus.sends? (.publish id payload) = some (publication.topic, payload) := by
  rw [sends?, found]
  exact if_pos isOpen

theorem sends?_of_closed {bus : Bus} {id : PublicationId}
    (closed : ∀ publication, bus.publications[id.number]? = some publication →
      publication.isOpen = false) (payload : Bytes) :
    bus.sends? (.publish id payload) = none := by
  rw [sends?]
  split
  · rename_i publication found
    exact if_neg (by simp [closed publication found])
  · rfl

/-- A bus counts what is sent, and adds up what is skipped. -/
theorem counts_act (bus : Bus) (action : Action) :
    (bus.act action).published = bus.published + (bus.sends? action).toList.length ∧
      (bus.act action).lagged = bus.lagged + ((bus.skips action).map (·.2)).sum := by
  have does := bus.does action
  generalize bus.act action = after at does ⊢
  cases does with
  | @published id publication payload found isOpen =>
      rw [sent_frame, sends?_of_open found isOpen]
      exact ⟨rfl, rfl⟩
  | @notPublished id payload closed =>
      rw [sends?_of_closed closed]
      exact ⟨rfl, rfl⟩
  | @withdrawn id publication found isOpen =>
      rw [withdraw_frame]
      exact ⟨rfl, rfl⟩
  | @cancelled id subscription found isOpen =>
      rw [cancel_frame]
      exact ⟨rfl, rfl⟩
  | @served id subscription payload found attends ready served =>
      refine ⟨rfl, ?_⟩
      rw [skips, found, served]
      simp [moved]
  | @notServed id none =>
      refine ⟨rfl, ?_⟩
      rw [skips, none]
      split <;> rfl
  | servedAll =>
      have added : ∀ (subscriptions : List Subscription) (lagged start : Nat),
          subscriptions.foldl (fun count s => count + bus.overrun s) lagged =
            lagged + (((subscriptions.zipIdx start).map fun numbered =>
              (SubscriptionId.mk numbered.2, bus.overrun numbered.1)).map (·.2)).sum := by
        intro subscriptions
        induction subscriptions with
        | nil => simp
        | cons first rest ih =>
            intro lagged start
            rw [List.foldl_cons, ih _ (start + 1), List.zipIdx_cons, List.map_cons, List.map_cons,
              List.sum_cons, Nat.add_assoc]
      exact ⟨rfl, added _ _ 0⟩
  | _ => exact ⟨rfl, rfl⟩

/-- The counts of a bus after a run. -/
theorem counts_acts (bus : Bus) (actions : List Action) :
    (bus.acts actions).published =
        bus.published + ((bus.moments actions).filterMap Moment.sends?).length ∧
      (bus.acts actions).lagged =
        bus.lagged + (((bus.moments actions).flatMap Moment.skips).map (·.2)).sum := by
  induction actions generalizing bus with
  | nil => exact ⟨rfl, rfl⟩
  | cons action later ih =>
      obtain ⟨published, lagged⟩ := bus.counts_act action
      obtain ⟨published', lagged'⟩ := ih (bus.act action)
      refine ⟨published'.trans ?_, lagged'.trans ?_⟩
      · rw [published, moments, List.filterMap_cons, Moment.sends?]
        cases bus.sends? action <;> simp [Nat.add_assoc, Nat.add_comm 1]
      · rw [lagged, moments, List.flatMap_cons, List.map_append, List.sum_append, Nat.add_assoc]
        rfl

end Bus

end TopicBridge
