import TopicBridge.Proofs.Bus.Capacity
import TopicBridge.Proofs.Bus.Serving

/-!
# The stream of a subscription

What was sent on its topic while a subscription listens is its window.  It passes
through the window from the front: it is handed a message or skips it, and never
comes back to it.  Before that it is handed the message that was left with the
topic when it was opened, if there was one.
-/

namespace TopicBridge

namespace Bus

/-! ## Passing through a window -/

/-- What a receiver was handed after the messages that it had to catch up on. -/
def live (catchup delivered : List Bytes) : List Bytes :=
  delivered.drop catchup.length

theorem live_append {catchup delivered : List Bytes} (caughtUp : catchup.length ≤ delivered.length)
    (messages : List Bytes) :
    live catchup (delivered ++ messages) = live catchup delivered ++ messages :=
  List.drop_append_of_le_length caughtUp

/-- A receiver was handed some messages and skipped others: first it was handed
the messages it has to catch up on, and then it passed through the beginning of
its window. -/
structure Streamed (catchup delivered : List Bytes) (skipped : Nat) (window : List Bytes) :
    Prop where
  first : delivered.take catchup.length <+: catchup
  next : (live catchup delivered).Sublist
    (window.take ((live catchup delivered).length + skipped))
  within : (live catchup delivered).length + skipped ≤ window.length

namespace Streamed

variable {catchup delivered window : List Bytes} {skipped : Nat}

theorem start (catchup : List Bytes) : Streamed catchup [] 0 [] := by
  constructor <;> simp [live]

/-- What is sent is added to the window. -/
theorem sent (streamed : Streamed catchup delivered skipped window) (payloads : List Bytes) :
    Streamed catchup delivered skipped (window ++ payloads) where
  first := streamed.first
  next := by
    rw [List.take_append_of_le_length streamed.within]
    exact streamed.next
  within := by
    rw [List.length_append]
    exact Nat.le_trans streamed.within (Nat.le_add_right _ _)

/-- The message to catch up on comes first. -/
theorem caught {payload : Bytes} (streamed : Streamed [payload] [] skipped window) :
    Streamed [payload] [payload] skipped window where
  first := List.prefix_refl _
  next := List.nil_sublist _
  within := streamed.within

/-- Some messages are skipped, and the next ones are handed out. -/
theorem served (streamed : Streamed catchup delivered skipped window)
    (caughtUp : catchup.length ≤ delivered.length) {more : Nat} {messages rest : List Bytes}
    (fits : (live catchup delivered).length + skipped + more ≤ window.length)
    (ahead : (window.drop ((live catchup delivered).length + skipped)).drop more =
      messages ++ rest) :
    Streamed catchup (delivered ++ messages) (skipped + more) window := by
  have longer := live_append caughtUp messages
  have within := streamed.within
  have next := streamed.next
  generalize passed_eq : (live catchup delivered).length + skipped = passed at *
  have lengths : messages.length + rest.length = window.length - (passed + more) := by
    simpa using (congrArg List.length ahead).symm
  have further : (live catchup delivered ++ messages).length + (skipped + more) =
      passed + (more + messages.length) := by
    rw [List.length_append]
    omega
  refine ⟨?_, ?_, ?_⟩
  · rw [List.take_append_of_le_length caughtUp]
    exact streamed.first
  · have taken : (window.drop passed).take (more + messages.length) =
        (window.drop passed).take more ++ messages := by
      rw [List.take_add, ahead, List.take_left]
    rw [longer, further, List.take_add, taken]
    exact next.append (List.sublist_append_right _ _)
  · rw [longer, further]
    omega

end Streamed

/-! ## The place in the channel -/

/-- A subscription is at the place in its channel that follows from what it was
handed, what it skipped, and what was sent while it listened. -/
structure Level (catchup : List Bytes) (capacity : Nat) (delivered : List Bytes) (skipped : Nat)
    (window : List Bytes) (channel : Channel) (subscription : Subscription) : Prop where
  replay : subscription.replay.toList = catchup.drop delivered.length
  capacity : channel.capacity = capacity
  place : ∃ earlier, channel.history = window.reverse ++ earlier ∧
    subscription.position =
      earlier.length + ((live catchup delivered).length + skipped)

namespace Level

variable {catchup delivered window : List Bytes} {capacity skipped : Nat} {bus : Bus}
  {channel : Channel} {subscription : Subscription}

/-- The messages that a subscription has not passed, and how many of them it will
skip. -/
theorem ahead
    (level : Level catchup capacity delivered skipped window channel subscription)
    (within : (live catchup delivered).length + skipped ≤ window.length) :
    channel.outstandingFrom subscription.position =
        (window.drop ((live catchup delivered).length + skipped)).drop
          (window.length - ((live catchup delivered).length + skipped) - capacity) ∧
      channel.skippedFrom subscription.position =
        window.length - ((live catchup delivered).length + skipped) - capacity := by
  obtain ⟨earlier, history, position⟩ := level.place
  generalize (live catchup delivered).length + skipped = passed at *
  have behind : channel.behind subscription.position = window.length - passed := by
    rw [Channel.behind, channel.sent_eq, history, position, List.length_append,
      List.length_reverse]
    omega
  refine ⟨?_, by rw [Channel.skippedFrom, behind, level.capacity]⟩
  have shorter : min (window.length - passed) capacity ≤ window.reverse.length := by
    rw [List.length_reverse]
    omega
  rw [Channel.outstandingFrom, behind, level.capacity, history,
    List.take_append_of_le_length shorter, List.take_reverse, List.reverse_reverse,
    List.drop_drop]
  congr 1
  omega

/-- The message to catch up on is the first one that is handed out. -/
theorem caught {payload : Bytes}
    (level : Level catchup capacity delivered skipped window channel subscription)
    (streamed : Streamed catchup delivered skipped window) (single : catchup.length ≤ 1)
    (replay : subscription.replay = some payload) :
    catchup = [payload] ∧ delivered = [] ∧ Streamed catchup [payload] skipped window ∧
      Level catchup capacity [payload] skipped window channel { subscription with replay := none } := by
  have held := level.replay
  rw [replay] at held
  have empty : delivered = [] := by
    have length := congrArg List.length held
    rw [Option.toList_some, List.length_singleton, List.length_drop] at length
    exact List.eq_nil_of_length_eq_zero (by omega)
  subst empty
  have same : catchup = [payload] := held.symm
  subst same
  exact ⟨rfl, rfl, streamed.caught, rfl, level.capacity, level.place⟩

/-- A subscription that has caught up skips what is out of reach, and is handed the
messages that come next. -/
theorem next
    (level : Level catchup capacity delivered skipped window channel subscription)
    (streamed : Streamed catchup delivered skipped window) (replay : subscription.replay = none)
    {messages rest : List Bytes}
    (kept : channel.outstandingFrom subscription.position =
      messages ++ rest) {more : Nat}
    (skips : more = channel.skippedFrom subscription.position)
    {after : Subscription} (none : after.replay = none)
    (place : after.position = subscription.position + more + messages.length) :
    Streamed catchup (delivered ++ messages) (skipped + more) window ∧
      Level catchup capacity (delivered ++ messages) (skipped + more) window
        channel after := by
  have held := level.replay
  rw [replay] at held
  have spent : catchup.length ≤ delivered.length := List.drop_eq_nil_iff.mp held.symm
  obtain ⟨ahead, behind⟩ := level.ahead streamed.within
  have within := streamed.within
  rw [behind] at skips
  rw [ahead, ← skips] at kept
  refine ⟨streamed.served spent (by omega) kept, ?_, level.capacity, ?_⟩
  · rw [none, List.drop_eq_nil_of_le (by rw [List.length_append]; omega)]
    rfl
  · obtain ⟨earlier, history, position⟩ := level.place
    refine ⟨earlier, history, ?_⟩
    rw [place, position, live_append spent, List.length_append]
    omega

/-- A subscription that has caught up is handed everything that its channel keeps
for it. -/
theorem rest
    (level : Level catchup capacity delivered skipped window channel subscription)
    (streamed : Streamed catchup delivered skipped window) (replay : subscription.replay = none)
    {after : Subscription} (none : after.replay = none)
    (place : after.position = channel.sent) :
    Streamed catchup (delivered ++
        channel.outstandingFrom subscription.position)
        (skipped + channel.skippedFrom subscription.position) window ∧
      Level catchup capacity (delivered ++
        channel.outstandingFrom subscription.position)
        (skipped + channel.skippedFrom subscription.position) window
        channel after := by
  refine level.next streamed replay (List.append_nil _).symm rfl none ?_
  have total := channel.length_outstandingFrom_add_skippedFrom
    subscription.position
  obtain ⟨earlier, history, position⟩ := level.place
  have within := streamed.within
  have sent : channel.sent = window.length + earlier.length := by
    rw [Channel.sent_eq, history, List.length_append, List.length_reverse]
  rw [Channel.behind] at total
  omega

/-- Nothing is skipped before the message to catch up on. -/
theorem missed_eq
    (level : Level catchup capacity delivered skipped window channel subscription) (bus : Bus) :
    bus.missed subscription =
      if delivered.length < catchup.length then 0 else bus.skipped subscription := by
  have held := congrArg List.length level.replay
  rw [List.length_drop] at held
  have turn : subscription.replay.isSome = true ↔ delivered.length < catchup.length := by
    cases replay : subscription.replay with
    | none =>
        rw [replay, Option.toList_none, List.length_nil] at held
        simp only [Option.isSome_none, Bool.false_eq_true, false_iff]
        omega
    | some payload =>
        rw [replay, Option.toList_some, List.length_singleton] at held
        simp only [Option.isSome_some, true_iff]
        omega
  rw [missed]
  simp only [turn]

/-- A subscription that is handed its next message. -/
theorem passed
    (level : Level catchup capacity delivered skipped window (bus.channel subscription.channel)
      subscription)
    (streamed : Streamed catchup delivered skipped window) (single : catchup.length ≤ 1)
    {payload : Bytes} {rest : List Bytes} (ready : bus.ready subscription = payload :: rest) :
    Streamed catchup (delivered ++ [payload]) (skipped + bus.missed subscription) window ∧
      Level catchup capacity (delivered ++ [payload]) (skipped + bus.missed subscription) window
        (bus.channel subscription.channel) (bus.passed subscription) := by
  rw [Bus.ready] at ready
  cases replay : subscription.replay with
  | some first =>
      rw [replay] at ready
      cases (List.cons.inj ready).1
      obtain ⟨_, rfl, streamed, level⟩ := level.caught streamed single replay
      rw [missed, Bus.passed, replay]
      exact ⟨streamed, level⟩
  | none =>
      rw [replay] at ready
      have skips : bus.missed subscription =
          (bus.channel subscription.channel).skippedFrom subscription.position := by
        rw [missed, replay]
        rfl
      have steps : (bus.passed subscription).replay = none ∧
          (bus.passed subscription).position =
            subscription.position + bus.missed subscription + [payload].length := by
        rw [missed, Bus.passed, replay]
        exact ⟨rfl, rfl⟩
      have kept : (bus.channel subscription.channel).outstandingFrom subscription.position =
          [payload] ++ rest := ready
      exact level.next streamed replay kept skips steps.1 steps.2

/-- A subscription that is handed everything that is ready for it. -/
theorem caughtUp
    (level : Level catchup capacity delivered skipped window (bus.channel subscription.channel)
      subscription)
    (streamed : Streamed catchup delivered skipped window) (single : catchup.length ≤ 1) :
    Streamed catchup (delivered ++ bus.ready subscription)
        (skipped + bus.skipped subscription) window ∧
      Level catchup capacity (delivered ++ bus.ready subscription)
        (skipped + bus.skipped subscription) window
        (bus.channel subscription.channel) (bus.caughtUp subscription) := by
  rw [Bus.ready, Bus.skipped]
  cases replay : subscription.replay with
  | none => exact level.rest streamed replay rfl rfl
  | some first =>
      obtain ⟨_, rfl, streamed, level⟩ := level.caught streamed single replay
      exact level.rest streamed rfl rfl rfl

end Level

end Bus

end TopicBridge
